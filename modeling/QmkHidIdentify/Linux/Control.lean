import QmkHidIdentify.Linux.Items

/-!
# QmkHidIdentify.Linux.Control

What steers the scanner, apart from what it collects.

* `depth` and `usageInScope` are facts about the descriptor: how many
  collections are open, and whether a Usage item is in scope.
* `Flags` are the parser's own booleans. They evolve by themselves
  (`flags_step`), so whether a report is still completed is a property of the
  flags and the rest of the descriptor (`Flags.completes`).

`ScanInv` ties the two together. The main lemma is `eval_diverged_iff`: two
scans that agree on everything but the entries collected so far write the same
reports exactly if neither completes the report under construction.
-/

namespace QmkHidIdentify

/-! ### Context of a position -/

/-- The number of open collections after a list of tokens. A stray End
Collection closes nothing. -/
def depth (ts : List Token) : Nat :=
  ts.foldl (fun d t => match t with
    | .collection => d + 1
    | .endCollection => d - 1
    | _ => d) 0

/-- A Usage item is in scope: no Main item came after it. -/
def usageInScope (ts : List Token) : Bool :=
  ts.foldl (fun u t => match t with
    | .field .usage _ => true
    | t => u && !t.isMain) false

/-- A Main item that carries data. -/
def Token.isData : Token → Bool
  | .main _ => true
  | _ => false

/-- A token that may stand in the body of a non-nested collection: fields, Main
items and items the parser ignores. -/
def Token.isBody : Token → Bool
  | .field .. | .main _ | .other => true
  | _ => false

/-! ### The flags of the parser -/

/-- The booleans that decide what a call returns: the call is the first one, it
found a Usage Page, a Usage is in scope, it is in a collection, and the pair of
that collection is ready. -/
structure Flags where
  initial : Bool := true
  page : Bool := false
  usage : Bool := false
  collection : Bool := false
  ready : Bool := false
  deriving DecidableEq, Repr

namespace Flags

/-- A report is completed at this token. -/
def returns (f : Flags) (t : Token) : Bool := t == .endCollection && f.collection && f.ready

def step (f : Flags) (t : Token) : Flags :=
  if f.returns t then { initial := false }
  else match t with
    | .usagePage _ => { f with page := f.page || !f.collection }
    | .field g _ => { f with usage := f.usage || g == .usage }
    | .main _ => { f with usage := false }
    | .collection =>
        { f with collection := true, usage := false, ready := f.ready || (f.page && f.usage) }
    | .endCollection => { f with collection := false, usage := false, ready := false }
    | .other => f

/-- A report is still completed over the rest of the descriptor: at an End
Collection, or at the end of a descriptor without top-level collections. -/
def completes (f : Flags) : List Token → Bool
  | [] => f.initial && f.page && f.usage
  | t :: ts => f.returns t || completes (f.step t) ts

end Flags

/-- The flags of a scan. -/
def Scan.flags (s : Scan) : Flags :=
  ⟨s.initial, s.vars.usagePageFound, s.vars.tmp.hasUsage, s.vars.collection,
    s.vars.usagePairReady⟩

theorem HIDCollection.hasUsage_set (c : HIDCollection) (f : Field) (v : UInt32) :
    (c.set f v).hasUsage = (c.hasUsage || f == .usage) := by
  cases f <;> simp [set]

/-- A Usage is in scope after a field if it was before, or the field is one. -/
theorem UsageVars.step_field_hasUsage (s : UsageVars) (g : Field) (v : UInt32) :
    (s.step (.field g v)).tmp.hasUsage = (s.tmp.hasUsage || g == .usage) := by
  simp only [step_tmp]
  split
  · rw [HIDCollection.hasUsage_set]
  · next h =>
      have hg : (g == Field.usage) = false := by
        simpa using fun hg => h (.inl hg)
      rw [hg, Bool.or_false]

theorem HIDCollection.isSome_get_usage (c : HIDCollection) :
    (c.get .usage).isSome = c.hasUsage := by
  cases h : c.hasUsage <;> simp [get, h]

/-- The usage of an attribute record after a token that does not return. -/
theorem UsageVars.step_get_usage (s : UsageVars) (t : Token) :
    (s.step t).tmp.get .usage = match t with
      | .field f v => if f = .usage then some v else s.tmp.get .usage
      | .usagePage _ | .other => s.tmp.get .usage
      | _ => none := by
  rw [step_tmp]
  cases t with
  | field f v =>
      by_cases hf : f = .usage
      · simp [hf]
      · simp only [hf, false_or, if_false]
        split
        · rw [HIDCollection.get_set_of_ne _ (Ne.symm hf)]
        · rfl
  | _ => simp

@[simp] theorem returns_flags (s : Scan) (t : Token) :
    s.flags.returns t = s.vars.returnsAt t := rfl

theorem returnsAt_of_flags {s s' : Scan} (h : s.flags = s'.flags) (t : Token) :
    s.vars.returnsAt t = s'.vars.returnsAt t := by
  rw [← returns_flags, h, returns_flags]

/-- The flags evolve by themselves. -/
theorem flags_step (s : Scan) (t : Token) : (scanner.step s t).flags = s.flags.step t := by
  unfold Flags.step
  rw [returns_flags]
  cases hr : s.vars.returnsAt t with
  | true => simp [scanner_returns hr, Scan.flags]
  | false =>
      rw [(scanner_continues hr).1, if_neg (by decide)]
      simp only [Scan.flags, UsageVars.step_collection, UsageVars.step_usagePageFound,
        UsageVars.step_usagePairReady]
      cases t with
      | field g v => simp only [UsageVars.step_field_hasUsage]
      | _ => simp only [UsageVars.step_tmp]

theorem flags_state (s : Scan) (ts : List Token) :
    (scanner.state s ts).flags = ts.foldl Flags.step s.flags := by
  induction ts generalizing s with
  | nil => rfl
  | cons t ts ih => rw [Transducer.state_cons, ih, flags_step, List.foldl_cons]

/-- How many reports a scan completes depends on its flags only. -/
theorem length_eval_of_flags {s s' : Scan} (h : s.flags = s'.flags) (ts : List Token) :
    (scanner.eval s ts).length = (scanner.eval s' ts).length := by
  induction ts generalizing s s' with
  | nil =>
      have hinit : s.initial = s'.initial := congrArg Flags.initial h
      have hpage : s.vars.usagePageFound = s'.vars.usagePageFound := congrArg Flags.page h
      have husage : s.vars.tmp.hasUsage = s'.vars.tmp.hasUsage := congrArg Flags.usage h
      simp only [Transducer.eval_nil, scanner, hinit, hpage, husage]
      split <;> rfl
  | cons t ts ih =>
      have hout : (scanner.out s t).length = (scanner.out s' t).length := by
        simp only [scanner, returnsAt_of_flags h]
        split <;> rfl
      have hnext : (scanner.step s t).flags = (scanner.step s' t).flags := by
        rw [flags_step, flags_step, h]
      rw [Transducer.eval_cons, Transducer.eval_cons, List.length_append, List.length_append, hout,
        ih hnext]

/-! ### Scans that differ in their entries -/

/-- Two scans with the same variables, except that the report under construction
has other entries of some kind. -/
structure Diverged (s s' : Scan) : Prop where
  flags : s.flags = s'.flags
  tmp : s.vars.tmp = s'.vars.tmp
  entries : ∃ k, s.vars.hidReport.entries k ≠ s'.vars.hidReport.entries k

theorem Diverged.hidReport_ne {s s' : Scan} (h : Diverged s s') :
    s.vars.hidReport ≠ s'.vars.hidReport := by
  obtain ⟨k, hk⟩ := h.entries
  exact fun he => hk (congrArg (HIDReport.entries · k) he)

/-- A step that completes no report keeps the difference: both scans append the
same entry. -/
theorem Diverged.step {s s' : Scan} (h : Diverged s s') {t : Token}
    (hr : s.vars.returnsAt t = false) : Diverged (scanner.step s t) (scanner.step s' t) := by
  have hr' : s'.vars.returnsAt t = false := (returnsAt_of_flags h.flags t).symm.trans hr
  obtain ⟨hflags, htmp, k, hk⟩ := h
  have hcoll : s.vars.collection = s'.vars.collection := congrArg Flags.collection hflags
  refine ⟨by rw [flags_step, flags_step, hflags], ?_, k, ?_⟩
  · rw [(scanner_continues hr).1, (scanner_continues hr').1]
    simp only [UsageVars.step_tmp, htmp, hcoll]
  · rw [(scanner_continues hr).1, (scanner_continues hr').1]
    simp only [UsageVars.step_entries, htmp, hcoll]
    cases t with
    | main k' => exact fun he => hk (List.append_cancel_right he)
    | _ => exact hk

/-- Scans that differ in their entries write nothing if the report under
construction is never completed, and else their first reports differ. -/
theorem eval_diverged {s s' : Scan} (h : Diverged s s') (ts : List Token) :
    if s.flags.completes ts then
      (scanner.eval s ts).head? ≠ (scanner.eval s' ts).head?
    else scanner.eval s ts = [] ∧ scanner.eval s' ts = [] := by
  induction ts generalizing s s' with
  | nil =>
      have hne := h.hidReport_ne
      have hinit : s.initial = s'.initial := congrArg Flags.initial h.flags
      have hpage : s.vars.usagePageFound = s'.vars.usagePageFound := congrArg Flags.page h.flags
      simp only [Transducer.eval_nil, scanner, Flags.completes, Scan.flags, ← hinit, ← hpage,
        ← h.tmp]
      cases s.initial && s.vars.usagePageFound && s.vars.tmp.hasUsage <;> simp [hne]
  | cons t ts ih =>
      rw [Flags.completes, Transducer.eval_cons, Transducer.eval_cons, returns_flags]
      cases hr : s.vars.returnsAt t with
      | true =>
          have hr' : s'.vars.returnsAt t = true := (returnsAt_of_flags h.flags t).symm.trans hr
          have hne := h.hidReport_ne
          simp [scanner, hr, hr', hne]
      | false =>
          have hr' : s'.vars.returnsAt t = false := (returnsAt_of_flags h.flags t).symm.trans hr
          have hout : scanner.out s t = [] := by simp [scanner, hr]
          have hout' : scanner.out s' t = [] := by simp [scanner, hr']
          rw [hout, hout', List.nil_append, List.nil_append, Bool.false_or, ← flags_step]
          exact ih (h.step hr)

/-- The reports differ exactly if the one under construction is completed. -/
theorem eval_diverged_iff {s s' : Scan} (h : Diverged s s') (ts : List Token) :
    scanner.eval s ts = scanner.eval s' ts ↔ s.flags.completes ts = false := by
  have hdiv := eval_diverged h ts
  cases hc : s.flags.completes ts with
  | true =>
      rw [hc, if_pos rfl] at hdiv
      simpa using fun he => hdiv (by rw [he])
  | false =>
      rw [hc, if_neg (by decide)] at hdiv
      simp [hdiv]

/-- A scan is in its first call as long as it has written nothing. -/
theorem initial_state (s : Scan) (ts : List Token) :
    (scanner.state s ts).initial = (s.initial && (scanner.run s ts).isEmpty) := by
  induction ts generalizing s with
  | nil => simp
  | cons t ts ih =>
      rw [Transducer.state_cons, Transducer.run_cons, ih]
      cases hr : s.vars.returnsAt t with
      | true => simp [(scanner_returns hr).1, (scanner_returns hr).2]
      | false => simp [(scanner_continues hr).1, (scanner_continues hr).2]

/-! ### The scan at a position -/

/-- What holds of the scan after any list of tokens. -/
structure ScanInv (ts : List Token) (s : Scan) : Prop where
  usage : s.vars.tmp.hasUsage = usageInScope ts
  outside : depth ts = 0 → s.vars.collection = false
  ready : s.vars.usagePairReady = true → s.vars.collection = true
  clear : s.vars.collection = false → s.vars.tmp.hasUsage = false → s.vars.tmp = {}

/-- Outside collections no pair is ready. -/
theorem ScanInv.unready {ts : List Token} {s : Scan} (h : ScanInv ts s)
    (hcoll : s.vars.collection = false) : s.vars.usagePairReady = false := by
  cases hp : s.vars.usagePairReady with
  | false => rfl
  | true => exact absurd (h.ready hp) (by simp [hcoll])

theorem depth_snoc (ts : List Token) (t : Token) :
    depth (ts ++ [t]) = match t with
      | .collection => depth ts + 1
      | .endCollection => depth ts - 1
      | _ => depth ts := by
  simp [depth]

theorem usageInScope_snoc (ts : List Token) (t : Token) :
    usageInScope (ts ++ [t]) = match t with
      | .field .usage _ => true
      | t => usageInScope ts && !t.isMain := by
  simp [usageInScope]

theorem ScanInv.step {ts : List Token} {s : Scan} (h : ScanInv ts s) (t : Token) :
    ScanInv (ts ++ [t]) (scanner.step s t) := by
  obtain ⟨husage, hout, hready, hclear⟩ := h
  cases hr : s.vars.returnsAt t with
  | true =>
      obtain ⟨rfl, -, -⟩ := UsageVars.returnsAt_iff.mp hr
      rw [(scanner_returns hr).1]
      constructor <;> simp [usageInScope_snoc, Token.isMain]
  | false =>
      rw [(scanner_continues hr).1]
      constructor <;>
        simp only [UsageVars.step_collection, UsageVars.step_usagePairReady, UsageVars.step_tmp,
          usageInScope_snoc, depth_snoc]
      · cases t with
        | field g v =>
            cases g <;> cases s.vars.collection <;>
              simp [HIDCollection.hasUsage_set, husage, Token.isMain]
        | _ => simp [husage, Token.isMain]
      · cases t <;> simp_all
      · cases t <;> simp_all
      · cases t with
        | field g v => cases g <;> simp_all [HIDCollection.hasUsage_set]
        | _ => simp_all

theorem scanInv (ts : List Token) : ScanInv ts (scanner.state {} ts) := by
  refine Transducer.state_history ?_ (fun ts t s h => h.step t) ts
  constructor <;> simp [usageInScope]

end QmkHidIdentify
