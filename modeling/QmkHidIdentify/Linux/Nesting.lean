import Mathlib.Data.List.Perm.Subperm
import QmkHidIdentify.Linux.Control

/-!
# QmkHidIdentify.Linux.Nesting

Nested collections. The parser has one flag `collection` for any number of open
collections: it is set by every Collection and cleared by every End Collection,
so the first End Collection inside a top-level collection ends the call that
reports it, and what follows up to its own End Collection is read by the next
call.

`expectedPairs` and `expectedEntries` say what a reader that matches brackets
would collect. A `Shape` is the context of a position in the descriptor that
decides whether the parser keeps up with it. `hidUsages_nested_iff` states that
repeated calls do exactly on the descriptors whose shape is right at every
position; the loop of `init_reports`, which takes the first report only, does
when there is just one Collection to report (`initReports_nested_iff`).
-/

namespace QmkHidIdentify

/-- The pair of a report. -/
def HIDReport.pair (r : HIDReport) : UInt32 × UInt32 := (r.usagePage, r.usage)

/-! ### What matching brackets would collect -/

/-- One pair for each Collection with a Usage in scope, in opening order.
`page` is the Usage Page in force and `usage` the Usage in scope. -/
def expectedPairs (page : UInt32) (usage : Option UInt32) : List Token → List (UInt32 × UInt32)
  | [] => []
  | .usagePage v :: ts => expectedPairs v usage ts
  | .field f v :: ts => expectedPairs page (if f = .usage then some v else usage) ts
  | .main _ :: ts => expectedPairs page none ts
  | .collection :: ts => (usage.map (page, ·)).toList ++ expectedPairs page none ts
  | .endCollection :: ts => expectedPairs page none ts
  | .other :: ts => expectedPairs page usage ts

/-- One entry for each Main item of a kind that a Collection with a Usage in
scope encloses. `stack` has one flag for each open Collection, and `tmp` the
attributes given since the last Main item. -/
def expectedEntries (k : MainKind) (stack : List Bool) (tmp : HIDCollection) :
    List Token → List HIDCollection
  | [] => []
  | .field f v :: ts => expectedEntries k stack (tmp.set f v) ts
  | .main k' :: ts =>
      (if k = k' ∧ true ∈ stack then [tmp] else []) ++ expectedEntries k stack {} ts
  | .collection :: ts => expectedEntries k (tmp.hasUsage :: stack) {} ts
  | .endCollection :: ts => expectedEntries k stack.tail {} ts
  | _ :: ts => expectedEntries k stack tmp ts

/-! ### The context of a position -/

/-- How many collections are open, whether there was a Usage Page at all and one
since the last End Collection, whether there was no End Collection, whether a
Usage is in scope, and whether the last bracket opened. -/
structure Shape where
  depth : Nat := 0
  page : Bool := false
  own : Bool := false
  first : Bool := true
  usage : Bool := false
  opened : Bool := false
  deriving DecidableEq, Repr

namespace Shape

def step (c : Shape) : Token → Shape
  | .usagePage _ => { c with page := true, own := true }
  | .field f _ => { c with usage := c.usage || f == .usage }
  | .main _ => { c with usage := false }
  | .collection => { c with depth := c.depth + 1, usage := false, opened := true }
  | .endCollection =>
      { c with depth := c.depth - 1, own := false, first := false, usage := false, opened := false }
  | .other => c

/-- A condition on the context and the rest of the descriptor, at every
position. -/
def along (p : Shape → List Token → Bool) (c : Shape) : List Token → Bool
  | [] => p c []
  | t :: ts => p c (t :: ts) && along p (c.step t) ts

/-- The descriptors in question: collections are balanced, no Usage Page stands
inside one, and every top-level one has a Usage in scope and a Usage Page before
it. -/
def placed (c : Shape) : List Token → Bool
  | [] => c.depth == 0
  | .usagePage _ :: _ => c.depth == 0
  | .collection :: _ => c.depth != 0 || c.page && c.usage
  | .endCollection :: _ => c.depth != 0
  | _ :: _ => true

/-- A top-level collection has a Usage Page of its own, a nested one has no
Usage in scope, and a descriptor without collections does not end with a pair. -/
def keepsPair (c : Shape) : List Token → Bool
  | [] => !(c.first && c.own && c.usage)
  | .collection :: _ => if c.depth = 0 then c.own else !c.usage
  | _ :: _ => true

/-- Another top-level collection is opened, with `d` collections open now. -/
def topLevelFollows (d : Nat) : List Token → Bool
  | [] => false
  | .collection :: ts => d == 0 || topLevelFollows (d + 1) ts
  | .endCollection :: ts => topLevelFollows (d - 1) ts
  | _ :: ts => topLevelFollows d ts

/-- A Main item in a collection comes after a Collection, not after an End
Collection, and it is the first End Collection of its top-level collection that
follows, or another top-level collection. -/
def keepsMain (c : Shape) : List Token → Bool
  | .main _ :: ts => c.depth == 0 || (c.opened && (c.own || topLevelFollows c.depth ts))
  | _ => true

theorem along_cons {p : Shape → List Token → Bool} {c : Shape} {t : Token} {ts : List Token} :
    along p c (t :: ts) = true ↔ p c (t :: ts) = true ∧ along p (c.step t) ts = true := by
  simp [along]

/-- A top-level collection has a Usage Page and a Usage before it. -/
theorem placed_collection {c : Shape} {ts : List Token}
    (hplaced : c.placed (.collection :: ts) = true) (hdepth : c.depth = 0) :
    c.page = true ∧ c.usage = true := by
  simpa [placed, hdepth] using hplaced

end Shape

/-! ### Shape and parser -/

/-- The flags of the parser at a position, as long as the shape was right. -/
structure Nested (c : Shape) (s : Scan) : Prop where
  initial : s.initial = c.first
  found : s.vars.usagePageFound = c.own
  ready : s.vars.usagePairReady = (c.own && c.depth != 0)
  usage : s.vars.tmp.hasUsage = c.usage
  collection : s.vars.collection = c.opened
  opened : c.opened = true → c.depth ≠ 0
  inside : c.own = true → c.depth ≠ 0 → c.opened = true
  first : c.first = true → c.own = c.page
  page : c.depth ≠ 0 → c.page = true

theorem Nested.init : Nested {} {} := by
  constructor <;> simp

/-- Outside collections the last bracket did not open one. -/
theorem Nested.not_opened {c : Shape} {s : Scan} (h : Nested c s) (hdepth : c.depth = 0) :
    c.opened = false := by
  by_contra hne
  exact h.opened (by simpa using hne) hdepth

/-- Without a Usage Page of its own, a position is behind an End Collection. -/
theorem Nested.not_first {c : Shape} {s : Scan} (h : Nested c s) (hown : c.own = false)
    (hpage : c.page = true) : c.first = false := by
  by_contra hne
  have howns := h.first (by simpa using hne)
  rw [hown, hpage] at howns
  cases howns

/-- Inside a collection the call returns at an End Collection exactly if it has
found the Usage Page of that collection. -/
theorem Nested.returnsAt {c : Shape} {s : Scan} (h : Nested c s) (hdepth : c.depth ≠ 0) :
    s.vars.returnsAt .endCollection = c.own := by
  have hopen := h.inside
  simp only [UsageVars.returnsAt, h.ready, h.collection]
  cases hown : c.own <;> simp_all

theorem Nested.step {c : Shape} {s : Scan} (h : Nested c s) {t : Token} {ts : List Token}
    (hplaced : c.placed (t :: ts) = true) (hpair : c.keepsPair (t :: ts) = true) :
    Nested (c.step t) (scanner.step s t) := by
  by_cases hend : t = .endCollection
  · subst hend
    have hdepth : c.depth ≠ 0 := by simpa [Shape.placed] using hplaced
    have hret := h.returnsAt hdepth
    cases hown : c.own with
    | true =>
        rw [(scanner_returns (hret.trans hown)).1]
        constructor <;> simp [Shape.step]
        exact fun _ => h.page hdepth
    | false =>
        have hfirst := h.not_first hown (h.page hdepth)
        rw [(scanner_continues (hret.trans hown)).1]
        constructor <;>
          simp [Shape.step, UsageVars.step, h.initial, hfirst, h.found, hown]
        exact fun _ => h.page hdepth
  · have hret := s.vars.returnsAt_of_ne hend
    have hclosed := h.not_opened
    obtain ⟨hinitial, hfound, hready, husage, hcoll, hopened, hinside, hfirst, hpage⟩ := h
    rw [(scanner_continues hret).1]
    cases t with
    | endCollection => exact absurd rfl hend
    | usagePage v =>
        have hdepth : c.depth = 0 := by simpa [Shape.placed] using hplaced
        have hclosed := hclosed hdepth
        constructor <;>
          simp_all [Shape.step, UsageVars.step]
    | field f v =>
        refine ⟨hinitial, ?_, ?_, ?_, ?_, hopened, hinside, hfirst, hpage⟩
        · rw [UsageVars.step_usagePageFound, hfound, Shape.step]
        · rw [UsageVars.step_usagePairReady, hready, Shape.step]
        · rw [UsageVars.step_field_hasUsage, husage, Shape.step]
        · rw [UsageVars.step_collection, hcoll, Shape.step]
    | main k =>
        constructor <;> simp_all [Shape.step, UsageVars.step]
    | other => exact ⟨hinitial, hfound, hready, husage, hcoll, hopened, hinside, hfirst, hpage⟩
    | collection =>
        refine ⟨hinitial, ?_, ?_, ?_, ?_, by simp [Shape.step], by simp [Shape.step], hfirst, ?_⟩
        · rw [UsageVars.step_usagePageFound, hfound, Shape.step]
        · rw [UsageVars.step_usagePairReady, hready, hfound, husage]
          by_cases hdepth : c.depth = 0 <;> simp_all [Shape.step, Shape.placed, Shape.keepsPair]
        · rw [UsageVars.step_tmp, Shape.step]
        · rw [UsageVars.step_collection, Shape.step]
        · intro _
          by_cases hdepth : c.depth = 0
          · exact (Shape.placed_collection hplaced hdepth).1
          · exact hpage hdepth

/-! ### Pairs -/

/-- The number of Collection items with a Usage in scope. -/
def usedCollections (usage : Bool) : List Token → Nat
  | [] => 0
  | .field f _ :: ts => usedCollections (usage || f == .usage) ts
  | .main _ :: ts => usedCollections false ts
  | .collection :: ts => usage.toNat + usedCollections false ts
  | .endCollection :: ts => usedCollections false ts
  | _ :: ts => usedCollections usage ts

theorem length_expectedPairs (page : UInt32) (usage : Option UInt32) (ts : List Token) :
    (expectedPairs page usage ts).length = usedCollections usage.isSome ts := by
  induction ts generalizing page usage with
  | nil => rfl
  | cons t ts ih =>
      cases t with
      | collection => cases usage <;> simp [expectedPairs, usedCollections, ih, Nat.add_comm]
      | field f v =>
          rw [expectedPairs, usedCollections, ih]
          cases f <;> cases usage <;> rfl
      | _ => simp [expectedPairs, usedCollections, ih]

/-- A scan reports at most its open pair and one pair for each Collection with a
Usage in scope, or the one pair of a descriptor without collections. -/
theorem length_eval_le (s : Scan) (ts : List Token) :
    (scanner.eval s ts).length ≤
      max s.initial.toNat (s.vars.usagePairReady.toNat +
        usedCollections s.vars.tmp.hasUsage ts) := by
  induction ts generalizing s with
  | nil =>
      rw [Transducer.eval_nil]
      refine le_trans ?_ (le_max_left _ _)
      simp only [scanner]
      cases s.initial <;> simp
      split <;> simp
  | cons t ts ih =>
      rw [Transducer.eval_cons, List.length_append]
      cases hr : s.vars.returnsAt t with
      | true =>
          obtain ⟨rfl, -, hready⟩ := UsageVars.returnsAt_iff.mp hr
          rw [(scanner_returns hr).1, (scanner_returns hr).2, hready]
          have := ih { initial := false }
          simp [usedCollections] at this ⊢
          omega
      | false =>
          rw [(scanner_continues hr).1, (scanner_continues hr).2, List.length_nil, Nat.zero_add]
          refine (ih _).trans (max_le_max le_rfl ?_)
          simp only [UsageVars.step_usagePairReady]
          cases t with
          | field f v => rw [UsageVars.step_field_hasUsage, usedCollections]
          | collection =>
              simp only [UsageVars.step_tmp, usedCollections]
              cases s.vars.usagePairReady <;> cases s.vars.usagePageFound <;>
                cases s.vars.tmp.hasUsage <;> simp
          | _ => simp [UsageVars.step_tmp, usedCollections]

/-- A Collection the parser cannot keep up with costs a pair. -/
theorem Nested.pair_lost {c : Shape} {s : Scan} (h : Nested c s) {ts : List Token}
    (hplaced : c.placed (.collection :: ts) = true)
    (hpair : c.keepsPair (.collection :: ts) = false) :
    (scanner.eval s (.collection :: ts)).length <
      s.vars.usagePairReady.toNat + usedCollections s.vars.tmp.hasUsage (.collection :: ts) := by
  have hret : s.vars.returnsAt .collection = false := rfl
  have hbound := length_eval_le ⟨s.initial, s.vars.step .collection⟩ ts
  simp only [UsageVars.step_usagePairReady, UsageVars.step_tmp] at hbound
  rw [Transducer.eval_cons, (scanner_continues hret).1, (scanner_continues hret).2,
    List.nil_append, usedCollections]
  -- without a page of its own, the collection is not in the first call
  have hinitial : c.own = false → c.page = true → s.initial = false :=
    fun hown hpage => h.initial.trans (h.not_first hown hpage)
  have hle : s.initial.toNat ≤ 1 := Bool.toNat_le _
  by_cases hdepth : c.depth = 0
  · obtain ⟨hpage, husage⟩ := Shape.placed_collection hplaced hdepth
    simp only [Shape.keepsPair, if_pos hdepth] at hpair
    have hinit := hinitial hpair hpage
    simp only [h.found, h.ready, h.usage, hinit, hpair, husage] at hbound ⊢
    simp at hbound ⊢
    omega
  · simp only [Shape.keepsPair, if_neg hdepth, Bool.not_eq_false'] at hpair
    have hinside : (c.depth != 0) = true := by simpa using hdepth
    cases hown : c.own with
    | true =>
        simp only [h.found, h.ready, h.usage, hown, hpair, hinside] at hbound ⊢
        simp at hbound ⊢
        omega
    | false =>
        have hinit := hinitial hown (h.page hdepth)
        simp only [h.found, h.ready, h.usage, hinit, hown, hpair] at hbound ⊢
        simp at hbound ⊢
        omega

/-- The pair a call will return, once it is ready. -/
def Scan.pending (s : Scan) : List (UInt32 × UInt32) :=
  if s.vars.usagePairReady then [s.vars.hidReport.pair] else []

theorem Scan.length_pending (s : Scan) :
    s.pending.length = s.vars.usagePairReady.toNat := by
  cases h : s.vars.usagePairReady <;> simp [pending, h]

/-- Outside collections the parser takes a Usage Page. -/
theorem Nested.closed {c : Shape} {s : Scan} (h : Nested c s) {v : UInt32} {ts : List Token}
    (hplaced : c.placed (.usagePage v :: ts) = true) :
    s.vars.collection = false ∧ s.vars.usagePairReady = false := by
  have hdepth : c.depth = 0 := by simpa [Shape.placed] using hplaced
  exact ⟨h.collection.trans (h.not_opened hdepth), by simp [h.ready, hdepth]⟩

/-- The Usage Page in force after a token. -/
def pageAfter (page : UInt32) : Token → UInt32
  | .usagePage v => v
  | _ => page

theorem Nested.page_step {c : Shape} {s : Scan} (h : Nested c s) {t : Token} {ts : List Token}
    (hplaced : c.placed (t :: ts) = true) {page : UInt32}
    (hpage : c.own = true → s.vars.hidReport.usagePage = page) :
    (c.step t).own = true → (s.vars.step t).hidReport.usagePage = pageAfter page t := by
  rw [UsageVars.step_usagePage]
  cases t with
  | usagePage v => simp [(h.closed hplaced).1, pageAfter]
  | endCollection => simp [Shape.step]
  | _ => exact hpage

/-- A token that does not return moves expected pairs into the pending one. -/
theorem Nested.pairs_step {c : Shape} {s : Scan} (h : Nested c s) {t : Token} {ts : List Token}
    (hplaced : c.placed (t :: ts) = true) (hkeeps : c.keepsPair (t :: ts) = true)
    (hret : s.vars.returnsAt t = false) {page : UInt32}
    (hpage : c.own = true → s.vars.hidReport.usagePage = page) :
    s.pending ++ expectedPairs page (s.vars.tmp.get .usage) (t :: ts) =
      Scan.pending ⟨s.initial, s.vars.step t⟩ ++
        expectedPairs (pageAfter page t) ((s.vars.step t).tmp.get .usage) ts := by
  have hpair : (s.vars.step t).hidReport.pair =
      ((s.vars.step t).hidReport.usagePage, (s.vars.step t).hidReport.usage) := rfl
  simp only [Scan.pending, hpair, UsageVars.step_usagePairReady, UsageVars.step_get_usage,
    UsageVars.step_usagePage, UsageVars.step_usage]
  cases t with
  | usagePage v => simp [h.closed hplaced, pageAfter, expectedPairs]
  | endCollection =>
      have hready : s.vars.usagePairReady = false := by
        have hret' := h.returnsAt (by simpa [Shape.placed] using hplaced)
        simp [h.ready, ← hret', hret]
      simp [hready, pageAfter, expectedPairs]
  | collection =>
      simp only [Shape.keepsPair] at hkeeps
      by_cases hdepth : c.depth = 0
      · rw [if_pos hdepth] at hkeeps
        have husage : s.vars.tmp.hasUsage = true :=
          h.usage.trans (Shape.placed_collection hplaced hdepth).2
        simp [h.ready, h.found, hkeeps, hdepth, husage, expectedPairs, HIDCollection.get,
          pageAfter, hpage]
      · rw [if_neg hdepth] at hkeeps
        have husage : s.vars.tmp.hasUsage = false := by
          rw [h.usage]
          simpa using hkeeps
        simp [husage, expectedPairs, HIDCollection.get, pageAfter, HIDReport.pair]
  | _ => rfl

/-- The pairs of a scan are the expected ones exactly if the shape is right at
every Collection. -/
theorem pairs_iff {c : Shape} {s : Scan} (h : Nested c s) {ts : List Token}
    (hplaced : c.along Shape.placed ts = true) (page : UInt32)
    (hpage : c.own = true → s.vars.hidReport.usagePage = page) :
    (scanner.eval s ts).map HIDReport.pair =
        s.pending ++ expectedPairs page (s.vars.tmp.get .usage) ts ↔
      c.along Shape.keepsPair ts = true := by
  induction ts generalizing c s page with
  | nil =>
      have hdepth : c.depth = 0 := by simpa [Shape.along, Shape.placed] using hplaced
      simp only [Transducer.eval_nil, scanner, h.initial, h.found, h.usage, Scan.pending, h.ready,
        hdepth, expectedPairs, Shape.along, Shape.keepsPair]
      cases c.first <;> cases c.own <;> cases c.usage <;> simp
  | cons t ts ih =>
      obtain ⟨hhere, hrest⟩ := Shape.along_cons.mp hplaced
      rw [Shape.along_cons]
      cases hkeeps : c.keepsPair (t :: ts) with
      | false =>
          -- only a Collection can break the shape here, and it costs a pair
          cases t with
          | collection =>
              have hlost := h.pair_lost hhere hkeeps
              simp only [Bool.false_eq_true, false_and, iff_false]
              intro he
              have hlen := congrArg List.length he
              rw [List.length_map, List.length_append, length_expectedPairs,
                HIDCollection.isSome_get_usage, Scan.length_pending] at hlen
              omega
          | _ => simp [Shape.keepsPair] at hkeeps
      | true =>
          have hstep := h.step hhere hkeeps
          rw [Transducer.eval_cons, List.map_append, eq_self, true_and]
          cases hret : s.vars.returnsAt t with
          | true =>
              -- the pending pair is returned, and the next call has none
              obtain ⟨rfl, -, hready⟩ := UsageVars.returnsAt_iff.mp hret
              rw [(scanner_returns hret).1] at hstep ⊢
              rw [(scanner_returns hret).2,
                ← ih hstep hrest page (by simp [Shape.step])]
              simp [Scan.pending, hready, expectedPairs]
          | false =>
              rw [(scanner_continues hret).1] at hstep ⊢
              rw [(scanner_continues hret).2, List.map_nil, List.nil_append,
                h.pairs_step hhere hkeeps hret hpage]
              exact ih hstep hrest _ (h.page_step hhere hpage)

/-! ### Entries -/

/-- The report under construction is completed: by the first End Collection of
the open top-level collection, or of another one. -/
def Shape.completed (c : Shape) (ts : List Token) : Bool :=
  c.own && c.depth != 0 || topLevelFollows c.depth ts

theorem Shape.completed_step {c : Shape} {t : Token} {ts : List Token}
    (hplaced : c.placed (t :: ts) = true) (hkeeps : c.keepsPair (t :: ts) = true)
    (hend : t = .endCollection → c.own = false) :
    (c.step t).completed ts = c.completed (t :: ts) := by
  cases t with
  | usagePage v =>
      have hdepth : c.depth = 0 := by simpa [placed] using hplaced
      simp [completed, step, topLevelFollows, hdepth]
  | collection =>
      simp only [keepsPair] at hkeeps
      by_cases hdepth : c.depth = 0
      · rw [if_pos hdepth] at hkeeps
        simp [completed, step, topLevelFollows, hdepth, hkeeps]
      · have hinside : (c.depth != 0) = true ∧ (c.depth == 0) = false := by simpa using hdepth
        simp [completed, step, topLevelFollows, hinside]
  | endCollection => simp [completed, step, topLevelFollows, hend rfl]
  | _ => simp [completed, step, topLevelFollows]

/-- The brackets matched so far: one flag for each open collection, and the
top-level one has a Usage. -/
structure OpenStack (c : Shape) (stack : List Bool) : Prop where
  length : stack.length = c.depth
  bottom : stack.getLast?.getD true = true

theorem OpenStack.true_mem {c : Shape} {stack : List Bool} (h : OpenStack c stack) :
    true ∈ stack ↔ c.depth ≠ 0 := by
  rw [← h.length]
  cases stack with
  | nil => simp
  | cons b stack =>
      have hbottom := h.bottom
      rw [List.getLast?_eq_some_getLast (List.cons_ne_nil b stack), Option.getD_some] at hbottom
      have hmem := List.getLast_mem (List.cons_ne_nil b stack)
      rw [hbottom] at hmem
      simpa only [List.length_cons, ne_eq, Nat.succ_ne_zero, not_false_eq_true, iff_true] using hmem

theorem OpenStack.step {c : Shape} {stack : List Bool} (h : OpenStack c stack) {t : Token}
    {ts : List Token} (hplaced : c.placed (t :: ts) = true) :
    OpenStack (c.step t) (match t with
      | .collection => c.usage :: stack
      | .endCollection => stack.tail
      | _ => stack) := by
  obtain ⟨hlength, hbottom⟩ := h
  cases t with
  | collection =>
      refine ⟨by simp [Shape.step, hlength], ?_⟩
      cases stack with
      | nil =>
          have hdepth : c.depth = 0 := by simpa using hlength.symm
          simp [(Shape.placed_collection hplaced hdepth).2]
      | cons b stack => simpa [List.getLast?_cons] using hbottom
  | endCollection =>
      refine ⟨by simp [Shape.step, hlength], ?_⟩
      cases stack with
      | nil => rfl
      | cons b stack =>
          cases stack with
          | nil => rfl
          | cons b' stack => simpa [List.getLast?_cons] using hbottom
  | _ => exact ⟨hlength, hbottom⟩

/-- The entries of a kind over several reports. -/
def allEntries (rs : List HIDReport) (k : MainKind) : List HIDCollection :=
  rs.flatMap (·.entries k)

/-- What a scan will still collect: `rest`, from the expected entries, and what
it has collected already if that report is completed. -/
structure Collects (c : Shape) (s : Scan) (stack : List Bool) (tmp : HIDCollection)
    (ts : List Token) (rest : MainKind → List HIDCollection) : Prop where
  entries : ∀ k, allEntries (scanner.eval s ts) k =
    (if c.completed ts then s.vars.hidReport.entries k else []) ++ rest k
  sublist : ∀ k, (rest k).Sublist (expectedEntries k stack tmp ts)
  all_iff : (∀ k, (rest k).length = (expectedEntries k stack tmp ts).length) ↔
    c.along Shape.keepsMain ts = true

theorem Collects.cons {c : Shape} {s : Scan} {stack stack' : List Bool}
    {tmp tmp' : HIDCollection} {t : Token} {ts : List Token}
    {rest : MainKind → List HIDCollection}
    (h : Collects (c.step t) ⟨s.initial, s.vars.step t⟩ stack' tmp' ts rest)
    (hret : s.vars.returnsAt t = false) (hmain : ∀ k, t ≠ .main k)
    (hcompleted : (c.step t).completed ts = c.completed (t :: ts))
    (hexpected : ∀ k, expectedEntries k stack tmp (t :: ts) = expectedEntries k stack' tmp' ts) :
    Collects c s stack tmp (t :: ts) rest := by
  obtain ⟨hentries, hsub, hall⟩ := h
  refine ⟨?_, fun k => hexpected k ▸ hsub k, ?_⟩
  · intro k
    rw [Transducer.eval_cons, (scanner_continues hret).1, (scanner_continues hret).2,
      List.nil_append, hentries, hcompleted, UsageVars.step_entries]
    cases t with
    | main k' => exact absurd rfl (hmain k')
    | _ => rfl
  · rw [Shape.along_cons, ← hall]
    simp only [hexpected]
    cases t with
    | main k' => exact absurd rfl (hmain k')
    | _ => simp [Shape.keepsMain]

/-- A Main item after a Collection is collected and, if its report is completed,
returned; one after an End Collection is lost. -/
theorem Collects.main {c : Shape} {s : Scan} (h : Nested c s) {stack : List Bool}
    (hstack : OpenStack c stack) {tmp : HIDCollection} (htmp : c.opened = true → s.vars.tmp = tmp)
    {k₀ : MainKind} {ts : List Token} {rest : MainKind → List HIDCollection}
    (hc : Collects (c.step (.main k₀)) ⟨s.initial, s.vars.step (.main k₀)⟩ stack {} ts rest) :
    ∃ rest', Collects c s stack tmp (.main k₀ :: ts) rest' := by
  obtain ⟨hentries, hsub, hall⟩ := hc
  have hret : s.vars.returnsAt (.main k₀) = false := rfl
  have hcompleted : (c.step (.main k₀)).completed ts = c.completed (.main k₀ :: ts) := rfl
  have heval : ∀ k, allEntries (scanner.eval s (.main k₀ :: ts)) k =
      (if c.completed (.main k₀ :: ts) then
        s.vars.hidReport.entries k ++ if c.opened ∧ k = k₀ then [s.vars.tmp] else []
      else []) ++ rest k := by
    intro k
    rw [Transducer.eval_cons, (scanner_continues hret).1, (scanner_continues hret).2,
      List.nil_append, hentries, hcompleted, UsageVars.step_entries, h.collection]
  have hlen : ∀ k, (rest k).length ≤ (expectedEntries k stack {} ts).length :=
    fun k => (hsub k).length_le
  by_cases hdepth : c.depth = 0
  · -- outside collections nothing is expected
    have hclosed := h.not_opened hdepth
    have hexpected : ∀ k, expectedEntries k stack tmp (.main k₀ :: ts) =
        expectedEntries k stack {} ts := by
      intro k
      have : true ∉ stack := fun hm => hstack.true_mem.mp hm hdepth
      simp [expectedEntries, this]
    refine ⟨rest, fun k => ?_, fun k => hexpected k ▸ hsub k, ?_⟩
    · simp [heval, hclosed]
    · rw [Shape.along_cons, ← hall]
      simp [hexpected, Shape.keepsMain, hdepth]
  · have hexpected : ∀ k, expectedEntries k stack tmp (.main k₀ :: ts) =
        (if k = k₀ then [tmp] else []) ++ expectedEntries k stack {} ts := by
      intro k
      simp [expectedEntries, hstack.true_mem.mpr hdepth]
    have hinside : (c.depth != 0) = true ∧ (c.depth == 0) = false := by simpa using hdepth
    cases hopened : c.opened with
    | false =>
        refine ⟨rest, ?_, ?_, ?_⟩
        · intro k
          simp [heval, hopened]
        · intro k
          rw [hexpected]
          exact (hsub k).trans (List.sublist_append_right _ _)
        · rw [Shape.along_cons]
          simp only [Shape.keepsMain, hopened, hinside, Bool.false_and, Bool.or_self,
            Bool.false_eq_true, false_and, iff_false]
          intro hlens
          have := hlens k₀
          have := hlen k₀
          simp [hexpected] at *
          omega
    | true =>
        refine ⟨fun k => (if k = k₀ ∧ c.completed (.main k₀ :: ts) then [tmp] else []) ++ rest k,
          ?_, ?_, ?_⟩
        · intro k
          rw [heval, hopened, htmp hopened]
          by_cases hcomp : c.completed (.main k₀ :: ts) = true <;> simp [hcomp]
        · intro k
          rw [hexpected]
          refine List.Sublist.append ?_ (hsub k)
          by_cases hcomp : c.completed (.main k₀ :: ts) = true <;> simp [hcomp]
        · have hkeeps : c.keepsMain (.main k₀ :: ts) = c.completed (.main k₀ :: ts) := by
            simp [Shape.keepsMain, Shape.completed, Shape.topLevelFollows, hopened, hinside]
          rw [Shape.along_cons, ← hall, hkeeps]
          simp only [hexpected, List.length_append]
          cases hcomp : c.completed (.main k₀ :: ts) with
          | true => simp
          | false =>
              simp only [Bool.false_eq_true, and_false, if_false, List.length_nil, false_and,
                iff_false]
              intro hlens
              have h₁ := hlens k₀
              have h₂ := hlen k₀
              simp at h₁
              omega

/-- Every entry is expected, and all expected ones are there exactly if the
shape is right at every Main item. -/
theorem exists_collects {c : Shape} {s : Scan} (h : Nested c s) {ts : List Token}
    (hplaced : c.along Shape.placed ts = true) (hkeeps : c.along Shape.keepsPair ts = true)
    {stack : List Bool} (hstack : OpenStack c stack) (tmp : HIDCollection)
    (htmp : c.opened = true → s.vars.tmp = tmp) (husage : tmp.hasUsage = c.usage) :
    ∃ rest, Collects c s stack tmp ts rest := by
  induction ts generalizing c s stack tmp with
  | nil =>
      have hdepth : c.depth = 0 := by simpa [Shape.along, Shape.placed] using hplaced
      have hfinal : scanner.final s = [] := by
        have : (c.first && c.own && c.usage) = false := by
          simpa only [Shape.along, Shape.keepsPair, Bool.not_eq_true'] using hkeeps
        simp only [scanner, h.initial, h.found, h.usage, this]
        rfl
      refine ⟨fun _ => [], fun k => ?_, fun k => by simp, by
        simp [expectedEntries, Shape.along, Shape.keepsMain]⟩
      simp [allEntries, hfinal, Shape.completed, hdepth, Shape.topLevelFollows]
  | cons t ts ih =>
      obtain ⟨hplacedHere, hplaced⟩ := Shape.along_cons.mp hplaced
      obtain ⟨hkeepsHere, hkeeps⟩ := Shape.along_cons.mp hkeeps
      have hstep := h.step hplacedHere hkeepsHere
      have hstack' := hstack.step hplacedHere
      cases hret : s.vars.returnsAt t with
      | true =>
          obtain ⟨rfl, -, -⟩ := UsageVars.returnsAt_iff.mp hret
          have hdepth : c.depth ≠ 0 := by simpa [Shape.placed] using hplacedHere
          have hown : c.own = true := by rw [← h.returnsAt hdepth, hret]
          rw [(scanner_returns hret).1] at hstep
          obtain ⟨rest, hentries, hsub, hall⟩ := ih hstep hplaced hkeeps hstack' {}
            (by simp [Shape.step]) rfl
          refine ⟨rest, fun k => ?_, hsub, ?_⟩
          · have hcompleted : c.completed (.endCollection :: ts) = true := by
              simp [Shape.completed, hown, hdepth]
            have := hentries k
            simp only [HIDReport.entries_empty, ite_self, List.nil_append] at this
            rw [Transducer.eval_cons, (scanner_returns hret).1, (scanner_returns hret).2,
              hcompleted, if_pos rfl, ← this]
            simp [allEntries]
          · rw [Shape.along_cons, ← hall]
            simp [Shape.keepsMain, expectedEntries]
      | false =>
          have hcompleted : (∀ k, t ≠ .main k) →
              (c.step t).completed ts = c.completed (t :: ts) := by
            intro _
            refine Shape.completed_step hplacedHere hkeepsHere ?_
            intro hend
            subst hend
            rw [← h.returnsAt (by simpa [Shape.placed] using hplacedHere), hret]
          rw [(scanner_continues hret).1] at hstep
          have ih := @ih (c.step t) ⟨s.initial, s.vars.step t⟩ hstep hplaced hkeeps
          cases t with
          | main k₀ =>
              obtain ⟨rest, hc⟩ := ih hstack' {} (fun _ => by rw [UsageVars.step_tmp]) rfl
              exact hc.main h hstack htmp
          | field f v =>
              obtain ⟨rest, hc⟩ := ih hstack' (tmp.set f v)
                (by
                  intro hopened
                  rw [UsageVars.step_tmp, h.collection]
                  have hopened : c.opened = true := hopened
                  simp [hopened, htmp hopened])
                (by rw [HIDCollection.hasUsage_set, husage, Shape.step])
              exact ⟨rest, hc.cons hret (by simp) (hcompleted (by simp)) fun _ => rfl⟩
          | usagePage v =>
              obtain ⟨rest, hc⟩ := ih hstack' tmp
                (by rw [UsageVars.step_tmp]; exact htmp) husage
              exact ⟨rest, hc.cons hret (by simp) (hcompleted (by simp)) fun _ => rfl⟩
          | other =>
              obtain ⟨rest, hc⟩ := ih hstack' tmp htmp husage
              exact ⟨rest, hc.cons hret (by simp) (hcompleted (by simp)) fun _ => rfl⟩
          | collection =>
              obtain ⟨rest, hc⟩ := ih hstack' {} (fun _ => by rw [UsageVars.step_tmp]) rfl
              refine ⟨rest, hc.cons hret (by simp) (hcompleted (by simp)) fun k => ?_⟩
              rw [expectedEntries, husage]
          | endCollection =>
              obtain ⟨rest, hc⟩ := ih hstack' {} (fun _ => by rw [UsageVars.step_tmp]) rfl
              exact ⟨rest, hc.cons hret (by simp) (hcompleted (by simp)) fun _ => rfl⟩

/-- One pair for each Collection with a Usage in scope, in opening order, and
every Main item that such a Collection encloses. -/
def CollectsNested (ts : List Token) (rs : List HIDReport) : Prop :=
  rs.map HIDReport.pair = expectedPairs 0 none ts ∧
    ∀ k, (expectedEntries k [] {} ts).Subperm (allEntries rs k)

/-- **Nested collections, repeated calls.** They collect what is expected if and
only if the shape is right at every position: each top-level collection has a
Usage Page of its own, nested ones have no Usage, and no Main item comes between
an inner End Collection and its own. -/
theorem hidUsages_nested_iff {ts : List Token} (hplaced : Shape.along Shape.placed {} ts = true) :
    CollectsNested ts (scanner.eval {} ts) ↔
      Shape.along Shape.keepsPair {} ts = true ∧ Shape.along Shape.keepsMain {} ts = true := by
  have hpairs := pairs_iff Nested.init hplaced 0 (fun _ => rfl)
  have hpairs : (scanner.eval {} ts).map HIDReport.pair = expectedPairs 0 none ts ↔
      Shape.along Shape.keepsPair {} ts = true := hpairs
  rw [CollectsNested, hpairs]
  refine and_congr_right ?_
  intro hkeeps
  obtain ⟨rest, hentries, hsub, hall⟩ := exists_collects Nested.init hplaced hkeeps
    (show OpenStack {} [] from ⟨rfl, rfl⟩) {} (fun _ => rfl) rfl
  have hrest : ∀ k, allEntries (scanner.eval {} ts) k = rest k := by simpa using hentries
  rw [← hall]
  refine forall_congr' ?_
  intro k
  rw [hrest]
  refine ⟨?_, ?_⟩
  · exact fun hsubperm => le_antisymm (hsub k).length_le hsubperm.length_le
  · intro hlen
    rw [(hsub k).eq_of_length hlen]

/-! ### One reported collection -/

/-- A Main item in a collection comes before any End Collection. -/
def Shape.beforeEnd (c : Shape) : List Token → Bool
  | .main _ :: _ => c.depth == 0 || c.first
  | _ => true

theorem topLevelFollows_of_unused {c : Shape} {ts : List Token}
    (hplaced : c.along Shape.placed ts = true) (hused : usedCollections c.usage ts = 0) :
    Shape.topLevelFollows c.depth ts = false := by
  induction ts generalizing c with
  | nil => rfl
  | cons t ts ih =>
      obtain ⟨hhere, hrest⟩ := Shape.along_cons.mp hplaced
      have ih := @ih (c.step t) hrest
      cases t with
      | collection =>
          simp only [usedCollections, Nat.add_eq_zero_iff] at hused
          have husage : c.usage = false := by simpa using hused.1
          have hdepth : (c.depth == 0) = false := by
            simpa [Shape.placed, husage] using hhere
          rw [Shape.topLevelFollows, hdepth, Bool.false_or]
          exact ih hused.2
      | _ => exact ih hused

/-- The shapes on the way through a descriptor with one Collection to report:
`c` is before it, in it, or after it. -/
structure OneUsed (c : Shape) (ts : List Token) : Prop where
  used : usedCollections c.usage ts = if c.depth = 0 ∧ c.first = true then 1 else 0
  page : c.first = true → c.own = c.page
  own : c.depth ≠ 0 → c.own = c.first
  opened : c.depth ≠ 0 → c.first = true → c.opened = true

theorem OneUsed.step {c : Shape} {t : Token} {ts : List Token} (h : OneUsed c (t :: ts))
    (hplaced : c.placed (t :: ts) = true) : OneUsed (c.step t) ts := by
  obtain ⟨hused, hpage, hown, hopened⟩ := h
  cases t with
  | usagePage v =>
      have hdepth : c.depth = 0 := by simpa [Shape.placed] using hplaced
      exact ⟨hused, fun _ => rfl, fun hne => absurd hdepth hne, fun hne => absurd hdepth hne⟩
  | field f v => exact ⟨hused, hpage, hown, hopened⟩
  | main k => exact ⟨hused, hpage, hown, hopened⟩
  | other => exact ⟨hused, hpage, hown, hopened⟩
  | collection =>
      simp only [usedCollections] at hused
      by_cases hdepth : c.depth = 0
      · -- the Collection to report
        have hplaced := Shape.placed_collection hplaced hdepth
        have hfirst : c.first = true := by
          by_contra hne
          simp [hplaced.2, hne] at hused
        have hrest : usedCollections false ts = 0 := by
          simpa [hplaced.2, hdepth, hfirst] using hused
        refine ⟨by simp [Shape.step, hrest], hpage, fun _ => ?_, fun _ _ => rfl⟩
        simp [Shape.step, hfirst, hpage hfirst, hplaced.1]
      · have hrest : usedCollections false ts = 0 := by
          simp only [hdepth, false_and, if_false, Nat.add_eq_zero_iff] at hused
          exact hused.2
        exact ⟨by simp [Shape.step, hrest], hpage, fun _ => hown hdepth, fun _ _ => rfl⟩
  | endCollection =>
      have hdepth : c.depth ≠ 0 := by simpa [Shape.placed] using hplaced
      have hrest : usedCollections false ts = 0 := by simpa [usedCollections, hdepth] using hused
      exact ⟨by simp [Shape.step, hrest], by simp [Shape.step], by simp [Shape.step],
        by simp [Shape.step]⟩

/-- With one Collection to report, no Collection breaks the shape, and a Main
item does if it comes after an End Collection. -/
theorem OneUsed.keeps {c : Shape} {t : Token} {ts : List Token} (h : OneUsed c (t :: ts))
    (hplaced : c.along Shape.placed (t :: ts) = true) :
    c.keepsPair (t :: ts) = true ∧ c.keepsMain (t :: ts) = c.beforeEnd (t :: ts) := by
  obtain ⟨hhere, hrest⟩ := Shape.along_cons.mp hplaced
  obtain ⟨hused, hpage, hown, hopened⟩ := h
  cases t with
  | collection =>
      refine ⟨?_, rfl⟩
      simp only [usedCollections] at hused
      simp only [Shape.keepsPair]
      by_cases hdepth : c.depth = 0
      · have hhere := Shape.placed_collection hhere hdepth
        have hfirst : c.first = true := by
          by_contra hne
          simp [hhere.2, hne] at hused
        rw [if_pos hdepth, hpage hfirst, hhere.1]
      · simp only [hdepth, false_and, if_false, Nat.add_eq_zero_iff] at hused
        simpa [hdepth] using hused.1
  | main k =>
      refine ⟨rfl, ?_⟩
      by_cases hdepth : c.depth = 0
      · simp [Shape.keepsMain, Shape.beforeEnd, hdepth]
      · have hlast : Shape.topLevelFollows c.depth ts = false := by
          refine topLevelFollows_of_unused (c := c.step (.main k)) hrest ?_
          simpa [usedCollections, hdepth, Shape.step] using hused
        have hopened := hopened hdepth
        simp only [Shape.keepsMain, Shape.beforeEnd, hlast, hown hdepth, Bool.or_false]
        cases hfirst : c.first with
        | true => rw [hopened hfirst, Bool.true_and]
        | false => rw [Bool.and_false]
  | _ => exact ⟨rfl, rfl⟩

theorem OneUsed.along_iff {c : Shape} {ts : List Token} (h : OneUsed c ts)
    (hplaced : c.along Shape.placed ts = true) :
    c.along Shape.keepsPair ts = true ∧
      (c.along Shape.keepsMain ts = true ↔ c.along Shape.beforeEnd ts = true) := by
  induction ts generalizing c with
  | nil =>
      have hdepth : c.depth = 0 := by simpa [Shape.along, Shape.placed] using hplaced
      have hfirst : c.first = false := by
        have := h.used
        by_contra hne
        simp [usedCollections, hdepth, hne] at this
      simp [Shape.along, Shape.keepsPair, Shape.keepsMain, Shape.beforeEnd, hfirst]
  | cons t ts ih =>
      obtain ⟨hpair, hmain⟩ := h.keeps hplaced
      obtain ⟨hhere, hrest⟩ := Shape.along_cons.mp hplaced
      obtain ⟨hpairs, hmains⟩ := ih (h.step hhere) hrest
      rw [Shape.along_cons, Shape.along_cons, Shape.along_cons, hmain, hmains]
      exact ⟨⟨hpair, hpairs⟩, Iff.rfl⟩

/-- **Nested collections.** The loop of `init_reports` collects one pair for each
Collection with a Usage in scope and every Main item that such a Collection
encloses if and only if there is just one such Collection and no Main item in it
comes after an End Collection. -/
theorem initReports_nested_iff (items : List Item)
    (hplaced : Shape.along Shape.placed {} (items.map Item.token) = true)
    (h : (encode items).length ≤ HID_MAX_DESCRIPTOR_SIZE) :
    (∃ rs, InitReports ⟨encode items, h⟩ [] (.ok (), rs) ∧
        CollectsNested (items.map Item.token) rs) ↔
      usedCollections false (items.map Item.token) = 1 ∧
        Shape.along Shape.beforeEnd {} (items.map Item.token) = true := by
  simp only [initReports_encode, List.nil_append, Prod.mk.injEq, true_and]
  generalize items.map Item.token = ts at *
  have hnested := hidUsages_nested_iff hplaced
  have hshape : usedCollections false ts = 1 →
      Shape.along Shape.keepsPair {} ts = true ∧
        (Shape.along Shape.keepsMain {} ts = true ↔ Shape.along Shape.beforeEnd {} ts = true) :=
    fun hused => OneUsed.along_iff ⟨by simpa using hused, fun _ => rfl, by simp, by simp⟩ hplaced
  have hlength : ∀ {rs}, CollectsNested ts rs → rs.length = usedCollections false ts := by
    intro rs hrs
    have := congrArg List.length hrs.1
    rwa [List.length_map, length_expectedPairs] at this
  refine ⟨?_, ?_⟩
  · intro hcollected
    obtain ⟨rs, ⟨r, others, heval, rfl⟩, hcollects⟩ := hcollected
    have hused : usedCollections false ts = 1 := (hlength hcollects).symm
    -- there is no second report that the loop has left out
    have hle := length_eval_le {} ts
    rw [heval] at hle
    have hnone : others = [] := by
      simp [hused] at hle
      exact hle
    subst hnone
    rw [← heval, hnested] at hcollects
    exact ⟨hused, (hshape hused).2.mp hcollects.2⟩
  · intro hone
    obtain ⟨hused, hbefore⟩ := hone
    obtain ⟨hpair, hmain⟩ := hshape hused
    have hcollects := hnested.mpr ⟨hpair, hmain.mpr hbefore⟩
    obtain ⟨r, heval⟩ := List.length_eq_one_iff.mp ((hlength hcollects).trans hused)
    exact ⟨[r], ⟨r, [], heval, rfl⟩, heval ▸ hcollects⟩

/-- A collection with a Usage inside another one. -/
def nestedUsage : List Item :=
  [Key.usagePage.byte 1, (Key.field .usage).byte 2, Key.collection.byte 1,
    (Key.field .usage).byte 3, Key.collection.byte 0, (Key.main .input).byte 2,
    Key.endCollection.byte 0, Key.endCollection.byte 0]

/-- The Usage of the inner collection overwrites the one of the outer. -/
theorem initReports_nestedUsage :
    Shape.along Shape.placed {} (nestedUsage.map Item.token) = true ∧
      InitReports ⟨encode nestedUsage, by decide⟩ []
        (.ok (), [{ usagePage := 1, usage := 3, input := [{}] }]) ∧
      expectedPairs 0 none (nestedUsage.map Item.token) = [(1, 2), (1, 3)] ∧
      ¬ ∃ rs, InitReports ⟨encode nestedUsage, by decide⟩ [] (.ok (), rs) ∧
        CollectsNested (nestedUsage.map Item.token) rs := by
  refine ⟨by decide, ⟨1, by decide⟩, by decide, ?_⟩
  intro hcollected
  obtain ⟨rs, hrs, hpairs, -⟩ := hcollected
  obtain ⟨r, others, -, hr⟩ := (initReports_encode _ _ _ _).mp hrs
  have hlength := congrArg List.length hpairs
  have hone : rs = [r] := by simpa using hr
  rw [hone] at hlength
  revert hlength
  simp only [List.length_map, List.length_singleton]
  decide

/-- A Main item in an inner collection without a Usage. -/
def nestedPhysical : List Item :=
  [Key.usagePage.byte 1, (Key.field .usage).byte 2, Key.collection.byte 1,
    Key.collection.byte 0, (Key.main .input).byte 2, Key.endCollection.byte 0,
    Key.endCollection.byte 0]

theorem initReports_nestedPhysical :
    ∃ rs, InitReports ⟨encode nestedPhysical, by decide⟩ [] (.ok (), rs) ∧
      CollectsNested (nestedPhysical.map Item.token) rs :=
  (initReports_nested_iff nestedPhysical (by decide) (by decide)).mpr (by decide)

end QmkHidIdentify
