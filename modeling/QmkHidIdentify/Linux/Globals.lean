import QmkHidIdentify.Common.HidDevice
import QmkHidIdentify.Linux.Control

/-!
# QmkHidIdentify.Linux.Globals

Attributes that the HID format keeps in force, in a parser that does not keep
them. Logical Minimum, Logical Maximum, Report Size and Report Count live in
`tmp` next to the Usage and are cleared with it at every Main item, so a repeated
item is not redundant after a Main item (`hidUsages_repeatedAttribute_iff`).
A Usage Page lives in `hid_report` and is lost when a call returns, so a repeated
one is not redundant after a reported collection
(`hidUsages_repeatedUsagePage_iff`).

Both theorems compare two descriptors that differ in one item and say exactly
when repeated calls of `get_next_hid_usage`, and with them the loop of
`init_reports`, cannot tell them apart.
-/

namespace QmkHidIdentify

/-- A token that opens or closes a collection. -/
def Token.isBracket : Token → Bool
  | .collection | .endCollection => true
  | _ => false

theorem Token.ne_endCollection {t : Token} (h : t.isBracket = false) : t ≠ .endCollection := by
  intro he
  simp [he, Token.isBracket] at h

/-! ### Attributes inside a collection -/

/-- Inside a collection nothing is written before it is closed. -/
theorem scanner_inner {ts : List Token} (hts : ∀ t ∈ ts, t.isBracket = false) {s : Scan}
    (hs : s.vars.collection = true) :
    scanner.run s ts = [] ∧ (scanner.state s ts).vars.collection = true := by
  induction ts generalizing s with
  | nil => exact ⟨rfl, hs⟩
  | cons t ts ih =>
      have ht := hts t (by simp)
      have hret : s.vars.returnsAt t = false :=
        s.vars.returnsAt_of_ne (Token.ne_endCollection ht)
      rw [Transducer.run_cons, Transducer.state_cons, (scanner_continues hret).1,
        (scanner_continues hret).2, List.nil_append]
      refine ih (fun t ht => hts t (by simp [ht])) ?_
      rw [UsageVars.step_collection]
      cases t <;> simp_all [Token.isBracket]

/-- An attribute that is not given again stays in `tmp` up to the next Main
item, and no further. -/
theorem tmp_get_inner {ts : List Token} (hts : ∀ t ∈ ts, t.isBracket = false) {f : Field}
    (hf : ∀ w, .field f w ∉ ts) {s : Scan} (hs : s.vars.collection = true) :
    (scanner.state s ts).vars.tmp.get f =
      if ts.any Token.isData then none else s.vars.tmp.get f := by
  induction ts generalizing s with
  | nil => simp
  | cons t ts ih =>
      have ht := hts t (by simp)
      have hret : s.vars.returnsAt t = false :=
        s.vars.returnsAt_of_ne (Token.ne_endCollection ht)
      have hcoll : (s.vars.step t).collection = true := by
        rw [UsageVars.step_collection]
        cases t <;> simp_all [Token.isBracket]
      rw [Transducer.state_cons, (scanner_continues hret).1,
        ih (fun t ht => hts t (by simp [ht])) (fun w hw => hf w (by simp [hw])) hcoll,
        UsageVars.step_tmp, List.any_cons]
      cases t with
      | field g w =>
          have hg : f ≠ g := fun hg => hf w (by simp [hg])
          simp [Token.isData, hs, hg]
      | main k => simp [Token.isData]
      | collection | endCollection => simp [Token.isBracket] at ht
      | _ => simp [Token.isData]

/-- The next item that is a Main item or gives `f` is a Main item. -/
def feedsMain (f : Field) : List Token → Bool
  | [] => false
  | .main _ :: _ => true
  | .field g _ :: ts => if g = f then false else feedsMain f ts
  | _ :: ts => feedsMain f ts

/-- A scan with one more attribute in `tmp`. -/
def Scan.withAttr (s : Scan) (f : Field) (v : UInt32) : Scan :=
  { s with vars := { s.vars with tmp := s.vars.tmp.set f v } }

/-- Two scans that differ in one attribute of `tmp` write the same exactly if no
Main item takes it, or nothing is reported afterwards. -/
theorem eval_withAttr_iff {f : Field} (hf : f ≠ .usage) (v : UInt32) {rest : List Token}
    (hrest : ∀ t ∈ rest, t.isBracket = false) (after : List Token) {s : Scan}
    (hs : s.vars.collection = true) (hnone : s.vars.tmp.get f = none) :
    scanner.eval (s.withAttr f v) (rest ++ .endCollection :: after) =
        scanner.eval s (rest ++ .endCollection :: after) ↔
      feedsMain f rest = false ∨
        s.flags.completes (rest ++ .endCollection :: after) = false := by
  induction rest generalizing s with
  | nil =>
      have hend : scanner.step (s.withAttr f v) .endCollection = scanner.step s .endCollection ∧
          scanner.out (s.withAttr f v) .endCollection = scanner.out s .endCollection :=
        ⟨rfl, rfl⟩
      simp only [List.nil_append, Transducer.eval_cons, hend.1, hend.2, feedsMain, true_or]
  | cons t rest ih =>
      have ht := hrest t (by simp)
      have hne := Token.ne_endCollection ht
      have hret := s.vars.returnsAt_of_ne hne
      have hret' := (s.withAttr f v).vars.returnsAt_of_ne hne
      have ih := @ih (fun t ht => hrest t (by simp [ht]))
      rw [List.cons_append, Transducer.eval_cons, Transducer.eval_cons, (scanner_continues hret).1,
        (scanner_continues hret).2, (scanner_continues hret').1, (scanner_continues hret').2,
        List.nil_append, List.nil_append, Flags.completes, returns_flags, hret, Bool.false_or,
        ← flags_step, (scanner_continues hret).1]
      cases t with
      | main k =>
          -- the Main item takes different attributes, and then `tmp` is cleared in both
          have hdiv : Diverged ⟨s.initial, (s.withAttr f v).vars.step (.main k)⟩
              ⟨s.initial, s.vars.step (.main k)⟩ := by
            refine ⟨?_, rfl, k, ?_⟩
            · simp [Scan.flags, UsageVars.step, Scan.withAttr]
            · simp only [UsageVars.step_entries, Scan.withAttr, hs, and_self, if_true]
              intro he
              have he : s.vars.tmp.set f v = s.vars.tmp := by simpa using he
              rw [← he, HIDCollection.get_set_self] at hnone
              exact absurd hnone (by simp)
          have hdiv' := eval_diverged_iff hdiv (rest ++ .endCollection :: after)
          rw [hdiv.flags] at hdiv'
          simp only [feedsMain, Bool.true_eq_false, false_or]
          exact hdiv'
      | field g w =>
          by_cases hg : g = f
          · -- given again: both scans store the same value
            subst hg
            have heq : (s.withAttr g v).vars.step (.field g w) = s.vars.step (.field g w) := by
              simp [UsageVars.step, Scan.withAttr, hs]
            simp only [heq, feedsMain, if_true, true_or, iff_true]
            rfl
          · have heq : (s.withAttr f v).vars.step (.field g w) =
                (Scan.withAttr ⟨s.initial, s.vars.step (.field g w)⟩ f v).vars := by
              simp [UsageVars.step, Scan.withAttr, hs, HIDCollection.set_comm _ hg]
            have hget : (s.vars.step (.field g w)).tmp.get f = none := by
              simp [UsageVars.step_tmp, hs, Ne.symm hg, hnone]
            rw [heq, feedsMain, if_neg hg]
            exact ih (s := ⟨s.initial, s.vars.step (.field g w)⟩)
              (by rw [UsageVars.step_collection, hs]) hget
      | usagePage w =>
          have heq : s.vars.step (.usagePage w) = s.vars := by simp [UsageVars.step, hs]
          have heq' : (s.withAttr f v).vars.step (.usagePage w) = (s.withAttr f v).vars := by
            simp [UsageVars.step, Scan.withAttr, hs]
          have hfeeds : feedsMain f (.usagePage w :: rest) = feedsMain f rest := rfl
          rw [heq, heq', hfeeds]
          exact ih hs hnone
      | other => exact ih hs hnone
      | collection | endCollection => simp [Token.isBracket] at ht

/-- A non-nested collection in which an attribute is given a second time with
the same value. -/
structure RepeatedAttribute where
  field : Field
  value : UInt32
  before : List Item
  start : Item
  body : List Item
  first : Item
  mid : List Item
  second : Item
  rest : List Item
  close : Item
  after : List Item
  field_ne : field ≠ .usage
  depth_before : depth (before.map Item.token) = 0
  start_token : start.token = .collection
  close_token : close.token = .endCollection
  first_token : first.token = .field field value
  second_token : second.token = .field field value
  body_token : ∀ i ∈ body ++ mid ++ rest, i.token.isBracket = false
  mid_token : ∀ w, .field field w ∉ mid.map Item.token

namespace RepeatedAttribute

/-- The descriptor up to the second item that gives the attribute. -/
def init (d : RepeatedAttribute) : List Item :=
  d.before ++ d.start :: d.body ++ d.first :: d.mid

/-- The descriptor after that item. -/
def tail (d : RepeatedAttribute) : List Item := d.rest ++ d.close :: d.after

def items (d : RepeatedAttribute) : List Item := d.init ++ d.second :: d.tail

/-- The descriptor without the second item. -/
def deleted (d : RepeatedAttribute) : List Item := d.init ++ d.tail

theorem length_deleted (d : RepeatedAttribute) :
    (encode d.deleted).length ≤ (encode d.items).length :=
  length_encode_delete_le _ _ _

/-- The scan when it comes to the second item. -/
theorem state_init (d : RepeatedAttribute) :
    (scanner.state {} (d.init.map Item.token)).vars.collection = true ∧
      (scanner.state {} (d.init.map Item.token)).vars.tmp.get d.field =
        if d.mid.any (·.token.isData) then none else some d.value := by
  have hbody : ∀ t ∈ d.body.map Item.token, t.isBracket = false := by
    simpa using fun i hi => d.body_token i (by simp [hi])
  have hmid : ∀ t ∈ d.mid.map Item.token, t.isBracket = false := by
    simpa using fun i hi => d.body_token i (by simp [hi])
  have htokens : d.init.map Item.token = d.before.map Item.token ++
      (.collection :: (d.body.map Item.token ++
        (.field d.field d.value :: d.mid.map Item.token))) := by
    simp [init, d.start_token, d.first_token]
  rw [htokens, Transducer.state_append]
  generalize scanner.state {} (d.before.map Item.token) = s
  have hopen : s.vars.returnsAt .collection = false := rfl
  rw [Transducer.state_cons, (scanner_continues hopen).1, Transducer.state_append]
  have hcoll := (scanner_inner hbody (s := ⟨s.initial, s.vars.step .collection⟩)
    (by rw [UsageVars.step_collection])).2
  generalize scanner.state ⟨s.initial, s.vars.step .collection⟩ (d.body.map Item.token) = s₁ at *
  have hgive : s₁.vars.returnsAt (.field d.field d.value) = false := rfl
  have hcoll' : (s₁.vars.step (.field d.field d.value)).collection = true := by
    rw [UsageVars.step_collection, hcoll]
  rw [Transducer.state_cons, (scanner_continues hgive).1]
  refine ⟨(scanner_inner hmid hcoll').2, ?_⟩
  rw [tmp_get_inner hmid d.mid_token hcoll', UsageVars.step_tmp]
  simp [hcoll, Function.comp_def]

end RepeatedAttribute

/-- **Attributes are not kept over Main items.** Deleting a repeated attribute
changes neither the reports nor their acceptance exactly if no Main item stands
between the two, or none takes the second, or nothing is reported afterwards. -/
theorem hidUsages_repeatedAttribute_iff (d : RepeatedAttribute)
    (h : (encode d.items).length ≤ HID_MAX_DESCRIPTOR_SIZE) :
    hidUsages ⟨encode d.items, h⟩ = hidUsages ⟨encode d.deleted, d.length_deleted.trans h⟩ ∧
      SameReports ⟨encode d.items, h⟩ ⟨encode d.deleted, d.length_deleted.trans h⟩ ∧
      (hidUsages ⟨encode d.items, h⟩).map (checkDeviceReports ·.2) =
        (hidUsages ⟨encode d.deleted, d.length_deleted.trans h⟩).map (checkDeviceReports ·.2) ↔
      (∀ i ∈ d.mid, i.token.isData = false) ∨
        feedsMain d.field (d.rest.map Item.token) = false ∨
        ((d.init.map Item.token).foldl Flags.step {}).completes (d.tail.map Item.token) =
          false := by
  rw [hidUsages_encode, hidUsages_encode, sameReports_encode]
  simp only [Option.some.injEq, Prod.mk.injEq, true_and]
  rw [and_iff_left_of_imp fun he => by rw [he]; exact ⟨rfl, rfl⟩]
  obtain ⟨hcoll, hget⟩ := d.state_init
  have hflags := flags_state {} (d.init.map Item.token)
  have hrest : ∀ t ∈ d.rest.map Item.token, t.isBracket = false := by
    simpa using fun i hi => d.body_token i (by simp [hi])
  have htail : d.tail.map Item.token =
      d.rest.map Item.token ++ .endCollection :: d.after.map Item.token := by
    simp [RepeatedAttribute.tail, d.close_token]
  rw [RepeatedAttribute.items, RepeatedAttribute.deleted, List.map_append, List.map_append,
    List.map_cons, d.second_token, Transducer.eval_append, Transducer.eval_append,
    List.append_cancel_left_eq, Transducer.eval_cons, htail,
    show ({} : Flags) = ({} : Scan).flags from rfl, ← hflags]
  generalize scanner.state {} (d.init.map Item.token) = s at *
  have hgive : s.vars.returnsAt (.field d.field d.value) = false := rfl
  have hstep : scanner.step s (.field d.field d.value) = s.withAttr d.field d.value := by
    simp [(scanner_continues hgive).1, UsageVars.step, hcoll, Scan.withAttr]
  rw [(scanner_continues hgive).2, List.nil_append, hstep]
  by_cases hd : d.mid.any (·.token.isData) = true
  · rw [if_pos hd] at hget
    have hmid : ¬ ∀ i ∈ d.mid, i.token.isData = false := by simpa using hd
    rw [eval_withAttr_iff d.field_ne d.value hrest _ hcoll hget, or_iff_right hmid]
  · -- the attribute is still there: storing it again changes nothing
    rw [if_neg hd] at hget
    have hmid : ∀ i ∈ d.mid, i.token.isData = false := by simpa using hd
    have hsame : s.withAttr d.field d.value = s := by
      simp [Scan.withAttr, HIDCollection.set_of_get hget]
    simp only [hsame, true_iff]
    exact .inl hmid

/-- A raw HID collection that gives the Report Size for both Main items. -/
def repeatedSize : RepeatedAttribute where
  field := .size
  value := 8
  before := [Key.usagePage.item rawUsagePage, (Key.field .usage).byte 0x61]
  start := Key.collection.byte 1
  body := [(Key.field .usage).byte 0x62, (Key.field .minimum).byte 0,
    (Key.field .maximum).item byteMaximum, (Key.field .count).byte 32]
  first := (Key.field .size).byte 8
  mid := [(Key.main .input).byte 2, (Key.field .usage).byte 0x63, (Key.field .minimum).byte 0,
    (Key.field .maximum).item byteMaximum, (Key.field .count).byte 32]
  second := (Key.field .size).byte 8
  rest := [(Key.main .output).byte 2]
  close := Key.endCollection.byte 0
  after := []
  field_ne := by decide
  depth_before := by decide
  start_token := rfl
  close_token := rfl
  first_token := rfl
  second_token := rfl
  body_token := by decide
  mid_token := by simp [Key.byte, Key.token]

/-- Without the second Report Size the Output entry has none, and the device is
refused. -/
theorem hidUsages_repeatedSize :
    hidUsages ⟨encode repeatedSize.items, by decide⟩ ≠
        hidUsages ⟨encode repeatedSize.deleted, by decide⟩ ∧
      (hidUsages ⟨encode repeatedSize.items, by decide⟩).map (checkDeviceReports ·.2) =
        some (.ok 32) ∧
      (hidUsages ⟨encode repeatedSize.deleted, by decide⟩).map (checkDeviceReports ·.2) =
        some (.error .unsupportedHIDReportUsage) := by
  decide

/-- The same collection without its Output item. -/
def repeatedSizeUnused : RepeatedAttribute :=
  { repeatedSize with rest := [], body_token := by decide }

theorem hidUsages_repeatedSizeUnused :
    hidUsages ⟨encode repeatedSizeUnused.items, by decide⟩ =
      hidUsages ⟨encode repeatedSizeUnused.deleted, by decide⟩ :=
  ((hidUsages_repeatedAttribute_iff repeatedSizeUnused (by decide)).mpr (by decide)).1

/-! ### Usage Pages between collections -/

/-- Collections are not nested and Usage Pages stand outside them. `inside` says
whether a collection is open. -/
def flat (inside : Bool) : List Token → Bool
  | [] => true
  | .usagePage _ :: ts => !inside && flat inside ts
  | .collection :: ts => !inside && flat true ts
  | .endCollection :: ts => flat false ts
  | _ :: ts => flat inside ts

/-- A collection that opened with a Usage in scope is closed before the next
Usage Page. `usage` says whether a Usage is in scope, `pair` whether such a
collection is open. -/
def closesPair (usage pair : Bool) : List Token → Bool
  | [] => false
  | .usagePage _ :: _ => false
  | .field g _ :: ts => closesPair (usage || g == .usage) pair ts
  | .main _ :: ts => closesPair false pair ts
  | .collection :: ts => closesPair false (pair || usage) ts
  | .endCollection :: ts => pair || closesPair false false ts
  | .other :: ts => closesPair usage pair ts

/-- The open collection of a scan is the last bracket it read. -/
theorem flat_append (s : Scan) (xs ys : List Token)
    (h : flat s.vars.collection (xs ++ ys) = true) :
    flat (scanner.state s xs).vars.collection ys = true := by
  induction xs generalizing s with
  | nil => exact h
  | cons t xs ih =>
      rw [Transducer.state_cons]
      refine ih _ ?_
      rw [scanner_step_collection]
      cases t <;> simp only [List.cons_append, flat, Bool.and_eq_true] at h <;>
        first
        | exact h
        | exact h.2

/-- A call that has not found a Usage Page finds none without one. -/
theorem page_lost {ts : List Token} (hts : ∀ v, .usagePage v ∉ ts) {s : Scan}
    (hinit : s.initial = false) (hpage : s.vars.usagePageFound = false) :
    (scanner.state s ts).initial = false ∧
      (scanner.state s ts).vars.usagePageFound = false := by
  induction ts generalizing s with
  | nil => exact ⟨hinit, hpage⟩
  | cons t ts ih =>
      rw [Transducer.state_cons]
      have hts' : ∀ v, .usagePage v ∉ ts := fun v hv => hts v (by simp [hv])
      cases hr : s.vars.returnsAt t with
      | true => exact ih hts' (by rw [(scanner_returns hr).1]) (by rw [(scanner_returns hr).1])
      | false =>
          rw [(scanner_continues hr).1]
          refine ih hts' hinit ?_
          rw [UsageVars.step_usagePageFound]
          cases t with
          | usagePage v => exact absurd (by simp) (hts v)
          | _ => exact hpage

/-- A pair is ready inside a collection only. -/
theorem UsageVars.step_ready {s : UsageVars} (h : s.usagePairReady = true → s.collection = true)
    (t : Token) : (s.step t).usagePairReady = true → (s.step t).collection = true := by
  rw [step_usagePairReady, step_collection]
  cases t <;> simp_all

/-- Where the call does not return at an End Collection, no pair is ready. -/
theorem UsageVars.unready_of_continues {s : UsageVars}
    (h : s.usagePairReady = true → s.collection = true)
    (hr : s.returnsAt .endCollection = false) : s.usagePairReady = false := by
  cases hp : s.usagePairReady with
  | false => rfl
  | true => simp [returnsAt, h hp, hp] at hr

/-- With a page in force, `closesPair` follows the variables of the call. -/
theorem closesPair_step {s : UsageVars} (hpage : s.usagePageFound = true)
    (hready : s.usagePairReady = true → s.collection = true) {t : Token}
    (hr : s.returnsAt t = false) (ht : ∀ v, t ≠ .usagePage v) (ts : List Token) :
    closesPair s.tmp.hasUsage s.usagePairReady (t :: ts) =
      closesPair (s.step t).tmp.hasUsage (s.step t).usagePairReady ts := by
  rw [UsageVars.step_usagePairReady]
  cases t with
  | usagePage v => exact absurd rfl (ht v)
  | field g v => rw [closesPair, UsageVars.step_field_hasUsage]
  | endCollection =>
      simp [closesPair, UsageVars.unready_of_continues hready hr, UsageVars.step_tmp]
  | _ => simp [closesPair, hpage, UsageVars.step_tmp]

/-- Up to the next Usage Page, the page in force is kept exactly as long as no
pair is closed. -/
theorem page_kept {ts : List Token} (hts : ∀ v, .usagePage v ∉ ts) {s : Scan} {v : UInt32}
    (hpage : s.vars.usagePageFound = true) (hv : s.vars.hidReport.usagePage = v)
    (hready : s.vars.usagePairReady = true → s.vars.collection = true) :
    if closesPair s.vars.tmp.hasUsage s.vars.usagePairReady ts then
      (scanner.state s ts).initial = false ∧ (scanner.state s ts).vars.usagePageFound = false
    else (scanner.state s ts).vars.usagePageFound = true ∧
      (scanner.state s ts).vars.hidReport.usagePage = v := by
  induction ts generalizing s with
  | nil => simp [closesPair, hpage, hv]
  | cons t ts ih =>
      rw [Transducer.state_cons]
      have ht : ∀ v, t ≠ .usagePage v := fun v hv => hts v (by simp [hv])
      have hts' : ∀ v, .usagePage v ∉ ts := fun v hv => hts v (by simp [hv])
      cases hr : s.vars.returnsAt t with
      | true =>
          -- the call returns: the next one starts without a page
          obtain ⟨rfl, -, hpair⟩ := UsageVars.returnsAt_iff.mp hr
          rw [hpair, closesPair, Bool.true_or, if_pos rfl, (scanner_returns hr).1]
          exact page_lost hts' rfl rfl
      | false =>
          rw [(scanner_continues hr).1, closesPair_step hpage hready hr ht]
          refine ih hts' (s := ⟨s.initial, s.vars.step t⟩) ?_ ?_ (s.vars.step_ready hready t)
          · rw [UsageVars.step_usagePageFound, hpage]
            cases t <;> rfl
          · rw [UsageVars.step_usagePage]
            cases t with
            | usagePage w => exact absurd rfl (ht w)
            | _ => exact hv

/-- Two scans after a first report, of which only `s` has a page in force; what
they collected is the same. -/
structure PageOnly (s s' : Scan) : Prop where
  initial : s.initial = false ∧ s'.initial = false
  page : s.vars.usagePageFound = true ∧ s'.vars.usagePageFound = false
  ready : s.vars.usagePairReady = true → s.vars.collection = true
  unready : s'.vars.usagePairReady = false
  tmp : s.vars.tmp = s'.vars.tmp
  collection : s.vars.collection = s'.vars.collection
  usage : s.vars.usagePairReady = false → s.vars.hidReport.usage = s'.vars.hidReport.usage
  entries : ∀ k, s.vars.hidReport.entries k = s'.vars.hidReport.entries k

theorem PageOnly.continues {s s' : Scan} (h : PageOnly s s') (t : Token) :
    s'.vars.returnsAt t = false := by
  simp [UsageVars.returnsAt, h.unready]

theorem PageOnly.step {s s' : Scan} (h : PageOnly s s') {t : Token}
    (hr : s.vars.returnsAt t = false) (ht : ∀ v, t ≠ .usagePage v) :
    PageOnly (scanner.step s t) (scanner.step s' t) := by
  rw [(scanner_continues hr).1, (scanner_continues (h.continues t)).1]
  obtain ⟨hinitial, hpage, hready, hunready, htmp, hcoll, husage, hentries⟩ := h
  refine ⟨hinitial, ?_, s.vars.step_ready hready t, ?_, ?_, ?_, ?_, ?_⟩
  · simp only [UsageVars.step_usagePageFound, hpage]
    cases t with
    | usagePage v => exact absurd rfl (ht v)
    | _ => simp
  · simp only [UsageVars.step_usagePairReady, hunready, hpage.2]
    cases t <;> rfl
  · simp only [UsageVars.step_tmp, htmp, hcoll]
  · simp only [UsageVars.step_collection, hcoll]
  · simp only [UsageVars.step_usagePairReady, UsageVars.step_usage, hpage, htmp, Bool.true_and,
      Bool.false_and]
    cases t with
    | collection =>
        intro hnot
        obtain ⟨hpair, hnone⟩ := Bool.or_eq_false_iff.mp hnot
        simp [hnone, husage hpair]
    | endCollection =>
        -- not returning here, `s` had no pair ready either
        exact fun _ => husage (UsageVars.unready_of_continues hready hr)
    | _ => exact husage
  · intro k
    simp only [UsageVars.step_entries, hentries, htmp, hcoll]

/-- Outside collections a new Usage Page makes the scans equal. -/
theorem PageOnly.step_usagePage {s s' : Scan} (h : PageOnly s s')
    (hcoll : s.vars.collection = false) (hpair : s.vars.usagePairReady = false) (v : UInt32) :
    scanner.step s (.usagePage v) = scanner.step s' (.usagePage v) := by
  have hreport : { s.vars.hidReport with usagePage := v } =
      { s'.vars.hidReport with usagePage := v } :=
    HIDReport.ext_entries rfl (h.usage hpair) fun k => by
      have := h.entries k
      cases k <;> exact this
  have hret : s.vars.returnsAt (.usagePage v) = false := rfl
  rw [(scanner_continues hret).1, (scanner_continues (h.continues _)).1]
  simp [UsageVars.step, hreport, h.initial, hcoll, ← h.collection, hpair, h.unready, h.tmp]

/-- The page in force makes a difference exactly if a pair is closed before the
next Usage Page. -/
theorem eval_pageOnly_iff {s s' : Scan} (h : PageOnly s s') {ts : List Token}
    (hts : flat s.vars.collection ts = true) :
    scanner.eval s ts = scanner.eval s' ts ↔
      closesPair s.vars.tmp.hasUsage s.vars.usagePairReady ts = false := by
  induction ts generalizing s s' with
  | nil => simp [scanner, closesPair, h.initial]
  | cons t ts ih =>
      have hr' := h.continues t
      cases hr : s.vars.returnsAt t with
      | true =>
          -- `s` writes one report more, and from here on the flags agree
          obtain ⟨rfl, -, hpair⟩ := UsageVars.returnsAt_iff.mp hr
          simp only [hpair, closesPair, Bool.true_or, Bool.true_eq_false, iff_false]
          intro he
          have hflags : (scanner.step s .endCollection).flags =
              (scanner.step s' .endCollection).flags := by
            rw [(scanner_returns hr).1, (scanner_continues hr').1]
            simp [Scan.flags, UsageVars.step, h.initial, h.page]
          have hlen := congrArg List.length he
          rw [Transducer.eval_cons, Transducer.eval_cons, List.length_append, List.length_append,
            length_eval_of_flags hflags, (scanner_returns hr).2, (scanner_continues hr').2] at hlen
          simp at hlen
      | false =>
          rw [Transducer.eval_cons, Transducer.eval_cons, (scanner_continues hr).2,
            (scanner_continues hr').2, List.nil_append, List.nil_append]
          by_cases ht : ∀ v, t ≠ .usagePage v
          · rw [closesPair_step h.page.1 h.ready hr ht]
            have hstep := h.step hr ht
            rw [(scanner_continues hr).1] at hstep ⊢
            refine ih hstep ?_
            have := flat_append s [t] ts hts
            rwa [Transducer.state_cons, Transducer.state_nil, (scanner_continues hr).1] at this
          · obtain ⟨v, hv⟩ := not_forall.mp ht
            obtain rfl := not_not.mp hv
            have hcoll : s.vars.collection = false := by
              simp only [flat, Bool.and_eq_true, Bool.not_eq_true'] at hts
              exact hts.1
            have hpair : s.vars.usagePairReady = false := by
              cases hp : s.vars.usagePairReady with
              | false => rfl
              | true => exact absurd (h.ready hp) (by simp [hcoll])
            rw [h.step_usagePage hcoll hpair v, closesPair]
            simp

/-- Collections that are not nested, with a Usage Page given again. -/
structure RepeatedUsagePage where
  value : UInt32
  before : List Item
  first : Item
  mid : List Item
  second : Item
  after : List Item
  first_token : first.token = .usagePage value
  second_token : second.token = .usagePage value
  mid_token : ∀ v, .usagePage v ∉ mid.map Item.token
  flat_token : flat false ((before ++ first :: mid ++ second :: after).map Item.token) = true

namespace RepeatedUsagePage

/-- The descriptor up to the repeated Usage Page. -/
def init (d : RepeatedUsagePage) : List Item := d.before ++ d.first :: d.mid

def items (d : RepeatedUsagePage) : List Item := d.init ++ d.second :: d.after

/-- The descriptor without the repeated Usage Page. -/
def deleted (d : RepeatedUsagePage) : List Item := d.init ++ d.after

theorem length_deleted (d : RepeatedUsagePage) :
    (encode d.deleted).length ≤ (encode d.items).length :=
  length_encode_delete_le _ _ _

/-- The repeated Usage Page stands outside collections, and so does the one
before it. -/
theorem outside (d : RepeatedUsagePage) :
    (scanner.state {} (d.before.map Item.token)).vars.collection = false ∧
      (scanner.state {} (d.init.map Item.token)).vars.collection = false ∧
      flat false (d.after.map Item.token) = true := by
  have hflat := d.flat_token
  have hbefore := flat_append {} (d.before.map Item.token)
    ((d.first :: d.mid ++ d.second :: d.after).map Item.token) (by simpa using hflat)
  have hinit := flat_append {} (d.init.map Item.token) ((d.second :: d.after).map Item.token)
    (by simpa [init] using hflat)
  simp only [List.map_cons, List.cons_append, d.first_token, flat, Bool.and_eq_true,
    Bool.not_eq_true'] at hbefore
  simp only [List.map_cons, d.second_token, flat, Bool.and_eq_true, Bool.not_eq_true'] at hinit
  exact ⟨hbefore.1, hinit.1, hinit.1 ▸ hinit.2⟩

/-- The scan when it comes to the repeated Usage Page. -/
theorem state_init (d : RepeatedUsagePage) :
    if closesPair (usageInScope (d.before.map Item.token)) false (d.mid.map Item.token) then
      (scanner.state {} (d.init.map Item.token)).initial = false ∧
        (scanner.state {} (d.init.map Item.token)).vars.usagePageFound = false
    else (scanner.state {} (d.init.map Item.token)).vars.usagePageFound = true ∧
      (scanner.state {} (d.init.map Item.token)).vars.hidReport.usagePage = d.value := by
  have hinv := scanInv (d.before.map Item.token)
  have hcoll := d.outside.1
  rw [init, List.map_append, List.map_cons, d.first_token, Transducer.state_append,
    Transducer.state_cons, ← hinv.usage]
  have hready := hinv.unready hcoll
  generalize scanner.state {} (d.before.map Item.token) = s at *
  have hgive : s.vars.returnsAt (.usagePage d.value) = false := rfl
  rw [(scanner_continues hgive).1]
  have hstep : s.vars.step (.usagePage d.value) =
      { s.vars with hidReport := { s.vars.hidReport with usagePage := d.value },
                    usagePageFound := true } := by
    simp [UsageVars.step, hcoll]
  have := page_kept d.mid_token (s := ⟨s.initial, s.vars.step (.usagePage d.value)⟩)
    (v := d.value) (by rw [hstep]) (by rw [hstep]) (by simp [hstep, hready])
  simpa only [hstep, hready] using this

end RepeatedUsagePage

/-- **A Usage Page is not kept over reported collections.** Deleting a Usage
Page that repeats the one in force changes nothing exactly if no collection with
a Usage in scope is closed between the two, or none after the second one before
the next Usage Page. -/
theorem hidUsages_repeatedUsagePage_iff (d : RepeatedUsagePage)
    (h : (encode d.items).length ≤ HID_MAX_DESCRIPTOR_SIZE) :
    hidUsages ⟨encode d.items, h⟩ = hidUsages ⟨encode d.deleted, d.length_deleted.trans h⟩ ∧
      SameReports ⟨encode d.items, h⟩ ⟨encode d.deleted, d.length_deleted.trans h⟩ ↔
      closesPair (usageInScope (d.before.map Item.token)) false (d.mid.map Item.token) = false ∨
        closesPair (usageInScope (d.init.map Item.token)) false (d.after.map Item.token) =
          false := by
  rw [hidUsages_encode, hidUsages_encode, sameReports_encode]
  simp only [Option.some.injEq, Prod.mk.injEq, true_and]
  rw [and_iff_left_of_imp fun he => by rw [he]]
  obtain ⟨-, hcoll, hafter⟩ := d.outside
  have hinv := scanInv (d.init.map Item.token)
  have hstate := d.state_init
  rw [RepeatedUsagePage.items, RepeatedUsagePage.deleted, List.map_append, List.map_append,
    List.map_cons, d.second_token, Transducer.eval_append, Transducer.eval_append,
    List.append_cancel_left_eq, Transducer.eval_cons, ← hinv.usage]
  have hready := hinv.unready hcoll
  generalize scanner.state {} (d.init.map Item.token) = s at *
  have hgive : s.vars.returnsAt (.usagePage d.value) = false := rfl
  have hstep : s.vars.step (.usagePage d.value) =
      { s.vars with hidReport := { s.vars.hidReport with usagePage := d.value },
                    usagePageFound := true } := by
    simp [UsageVars.step, hcoll]
  rw [(scanner_continues hgive).1, (scanner_continues hgive).2, List.nil_append, hstep]
  cases hmid : closesPair (usageInScope (d.before.map Item.token)) false
      (d.mid.map Item.token) with
  | false =>
      -- the page is still in force: storing it again changes nothing
      rw [hmid, if_neg (by decide)] at hstate
      have hsame : (⟨s.initial, { s.vars with
          hidReport := { s.vars.hidReport with usagePage := d.value },
          usagePageFound := true }⟩ : Scan) = s := by
        rw [← hstate.1, ← hstate.2]
      simp [hsame]
  | true =>
      rw [hmid, if_pos rfl] at hstate
      have honly : PageOnly ⟨s.initial, { s.vars with
          hidReport := { s.vars.hidReport with usagePage := d.value },
          usagePageFound := true }⟩ s :=
        ⟨⟨hstate.1, hstate.1⟩, ⟨rfl, hstate.2⟩, by simp [hready], hready, rfl, rfl,
          fun _ => rfl, fun k => by cases k <;> rfl⟩
      rw [eval_pageOnly_iff honly (by simpa [hcoll] using hafter)]
      simp [hready]

/-- Two collections under one Usage Page, which is given before each. -/
def repeatedPage : RepeatedUsagePage where
  value := 1
  before := []
  first := Key.usagePage.byte 1
  mid := [(Key.field .usage).byte 2, Key.collection.byte 1, Key.endCollection.byte 0]
  second := Key.usagePage.byte 1
  after := [(Key.field .usage).byte 6, Key.collection.byte 1, Key.endCollection.byte 0]
  first_token := rfl
  second_token := rfl
  mid_token := by simp [Key.byte, Key.token]
  flat_token := by decide

/-- Without the second Usage Page the second collection is not reported. -/
theorem hidUsages_repeatedPage :
    hidUsages ⟨encode repeatedPage.items, by decide⟩ ≠
        hidUsages ⟨encode repeatedPage.deleted, by decide⟩ ∧
      hidUsages ⟨encode repeatedPage.deleted, by decide⟩ =
        some (.finished, [{ usagePage := 1, usage := 2 }]) := by
  decide

/-- The Usage Page given twice before one collection. -/
def repeatedPageUnused : RepeatedUsagePage :=
  { repeatedPage with mid := [], mid_token := by simp, flat_token := by decide }

theorem hidUsages_repeatedPageUnused :
    hidUsages ⟨encode repeatedPageUnused.items, by decide⟩ =
      hidUsages ⟨encode repeatedPageUnused.deleted, by decide⟩ :=
  ((hidUsages_repeatedUsagePage_iff repeatedPageUnused (by decide)).mpr (by decide)).1

end QmkHidIdentify
