import QmkHidIdentify.Linux.Items

/-!
# QmkHidIdentify.Linux.RoundTrip

Writing a list of top-level collections as a report descriptor and parsing it
back. A `TopCollection` is the abstract content together with the choices a
writer has: the width of every short item and the order of the attributes
before each Main item. `hidUsages_roundTrip` says that no choice matters: the
parser returns the content (`TopCollection.toReport`). The loop of `init_reports`
takes it over for a list of one collection only (`initReports_roundTrip_iff`).
-/

namespace QmkHidIdentify

/-! ### Content of a descriptor -/

/-- A Main item with the attributes given right before it. -/
structure MainItem where
  kind : MainKind
  fields : List (Field × SizedValue)
  nodup : (fields.map Prod.fst).Nodup
  flags : SizedValue

/-- A non-nested top-level collection. -/
structure TopCollection where
  usagePage : SizedValue
  usage : SizedValue
  kind : SizedValue
  mains : List MainItem
  close : SizedValue

namespace MainItem

def items (m : MainItem) : List Item :=
  m.fields.map (fun p => (Key.field p.1).item p.2) ++ [(Key.main m.kind).item m.flags]

/-- The value a Main item carries for an attribute. -/
def attr (m : MainItem) (f : Field) : Option UInt32 := (m.fields.lookup f).map SizedValue.value

end MainItem

/-- The record with exactly the given attributes. -/
def HIDCollection.ofAttrs (a : Field → Option UInt32) : HIDCollection where
  hasUsage := (a .usage).isSome
  usage := (a .usage).getD 0
  hasMinimum := (a .minimum).isSome
  minimum := (a .minimum).getD 0
  hasMaximum := (a .maximum).isSome
  maximum := (a .maximum).getD 0
  hasCount := (a .count).isSome
  count := (a .count).getD 0
  hasSize := (a .size).isSome
  size := (a .size).getD 0

/-- The entry of a Main item: the attributes it carries and no others. -/
def MainItem.toCollection (m : MainItem) : HIDCollection := .ofAttrs m.attr

namespace TopCollection

def items (c : TopCollection) : List Item :=
  [Key.usagePage.item c.usagePage, (Key.field .usage).item c.usage,
    Key.collection.item c.kind] ++ c.mains.flatMap MainItem.items ++
    [Key.endCollection.item c.close]

/-- The entries of the Main items of one kind, in order. -/
def entries (c : TopCollection) (k : MainKind) : List HIDCollection :=
  (c.mains.filter (·.kind = k)).map MainItem.toCollection

/-- What a collection says, as a report. -/
def toReport (c : TopCollection) : HIDReport where
  usagePage := c.usagePage.value
  usage := c.usage.value
  input := c.entries .input
  output := c.entries .output
  feature := c.entries .feature

@[simp] theorem entries_toReport (c : TopCollection) (k : MainKind) :
    c.toReport.entries k = c.entries k := by
  cases k <;> rfl

end TopCollection

/-! ### Attributes before a Main item -/

theorem HIDCollection.set_ofAttrs (a : Field → Option UInt32) (f : Field) (v : UInt32) :
    (HIDCollection.ofAttrs a).set f v = .ofAttrs (Function.update a f (some v)) := by
  cases f <;> simp [set, ofAttrs, Function.update]

/-- Distinct attributes stored one after the other are what a lookup finds,
whatever their order. -/
theorem foldl_set_ofAttrs (fields : List (Field × SizedValue))
    (h : (fields.map Prod.fst).Nodup) (a : Field → Option UInt32) :
    fields.foldl (fun c p => c.set p.1 p.2.value) (HIDCollection.ofAttrs a) =
      .ofAttrs fun f => ((fields.lookup f).map SizedValue.value).or (a f) := by
  induction fields generalizing a with
  | nil => simp
  | cons p fields ih =>
      obtain ⟨g, s⟩ := p
      obtain ⟨hg, hrest⟩ := List.nodup_cons.mp h
      rw [List.foldl_cons, HIDCollection.set_ofAttrs, ih hrest]
      congr 1
      funext f
      by_cases hf : f = g
      · subst hf
        have hnone : fields.lookup f = none := by
          rw [List.lookup_eq_none_iff]
          intro q hq
          have : f ≠ q.1 := fun he => hg (List.mem_map.mpr ⟨q, hq, he.symm⟩)
          simpa using this
        simp [hnone]
      · have : (f == g) = false := by simpa using hf
        simp [Function.update_of_ne hf, List.lookup_cons, this]

/-! ### The scanner over one collection -/

/-- The scanner inside a collection whose pair is set. -/
def insideState (initial : Bool) (r : HIDReport) (tmp : HIDCollection) : Scan :=
  ⟨initial, { hidReport := r, tmp, usagePairReady := true, usagePageFound := true,
              collection := true }⟩

theorem scanner_fields (initial : Bool) (r : HIDReport) (fields : List (Field × SizedValue))
    (tmp : HIDCollection) :
    scanner.run (insideState initial r tmp) (fields.map fun p => .field p.1 p.2.value) = [] ∧
      scanner.state (insideState initial r tmp) (fields.map fun p => .field p.1 p.2.value) =
        insideState initial r (fields.foldl (fun c p => c.set p.1 p.2.value) tmp) := by
  induction fields generalizing tmp with
  | nil => exact ⟨rfl, rfl⟩
  | cons p fields ih =>
      have hstep : scanner.step (insideState initial r tmp) (.field p.1 p.2.value) =
          insideState initial r (tmp.set p.1 p.2.value) := by
        simp [scanner, insideState, UsageVars.returnsAt, UsageVars.step]
      have hout : scanner.out (insideState initial r tmp) (.field p.1 p.2.value) = [] := by
        simp [scanner, insideState, UsageVars.returnsAt]
      rw [List.map_cons, Transducer.run_cons, Transducer.state_cons, hstep, hout]
      exact ih _

/-- A Main item with its attributes adds its entry and clears the attributes. -/
theorem scanner_main (initial : Bool) (r : HIDReport) (m : MainItem) :
    scanner.run (insideState initial r {}) (m.items.map Item.token) = [] ∧
      scanner.state (insideState initial r {}) (m.items.map Item.token) =
        insideState initial (r.push m.kind m.toCollection) {} := by
  have htokens : m.items.map Item.token =
      m.fields.map (fun p => .field p.1 p.2.value) ++ [.main m.kind] := by
    simp [MainItem.items, Key.token]
  have htmp : m.fields.foldl (fun c p => c.set p.1 p.2.value) {} = m.toCollection := by
    have hempty : ({} : HIDCollection) = .ofAttrs fun _ => none := rfl
    rw [hempty, foldl_set_ofAttrs m.fields m.nodup, MainItem.toCollection]
    congr 1
    funext f
    simp [MainItem.attr]
  obtain ⟨hrun, hstate⟩ := scanner_fields initial r m.fields {}
  rw [htokens, Transducer.run_append, Transducer.state_append, hrun, hstate, htmp]
  simp [scanner, Transducer.run_cons, insideState, UsageVars.returnsAt, UsageVars.step]

theorem scanner_mains (initial : Bool) (mains : List MainItem) (r : HIDReport) :
    scanner.run (insideState initial r {}) ((mains.flatMap MainItem.items).map Item.token) = [] ∧
      scanner.state (insideState initial r {}) ((mains.flatMap MainItem.items).map Item.token) =
        insideState initial (mains.foldl (fun r m => r.push m.kind m.toCollection) r) {} := by
  induction mains generalizing r with
  | nil => exact ⟨rfl, rfl⟩
  | cons m mains ih =>
      obtain ⟨hrun, hstate⟩ := scanner_main initial r m
      rw [List.flatMap_cons, List.map_append, Transducer.run_append, Transducer.state_append, hrun,
        hstate]
      exact ih _

theorem foldl_push_entries (mains : List MainItem) (r : HIDReport) (k : MainKind) :
    (mains.foldl (fun r m => r.push m.kind m.toCollection) r).entries k =
      r.entries k ++ (mains.filter (·.kind = k)).map MainItem.toCollection := by
  induction mains generalizing r with
  | nil => simp
  | cons m mains ih =>
      rw [List.foldl_cons, ih, HIDReport.entries_push, List.filter_cons]
      by_cases h : m.kind = k
      · simp [h]
      · simp [h, Ne.symm h]

theorem foldl_push_pair (mains : List MainItem) (r : HIDReport) :
    (mains.foldl (fun r m => r.push m.kind m.toCollection) r).usagePage = r.usagePage ∧
      (mains.foldl (fun r m => r.push m.kind m.toCollection) r).usage = r.usage := by
  induction mains generalizing r with
  | nil => exact ⟨rfl, rfl⟩
  | cons m mains ih => simpa using ih (r.push m.kind m.toCollection)

/-- A collection read by a fresh call is reported as it was written, and the
next call is fresh again. -/
theorem scanner_topCollection (initial : Bool) (c : TopCollection) :
    scanner.run ⟨initial, {}⟩ (c.items.map Item.token) = [c.toReport] ∧
      scanner.state ⟨initial, {}⟩ (c.items.map Item.token) = ⟨false, {}⟩ := by
  let r : HIDReport := { usagePage := c.usagePage.value, usage := c.usage.value }
  let r' := c.mains.foldl (fun r m => r.push m.kind m.toCollection) r
  have htokens : c.items.map Item.token =
      [.usagePage c.usagePage.value, .field .usage c.usage.value, .collection] ++
        ((c.mains.flatMap MainItem.items).map Item.token ++ [.endCollection]) := by
    simp [TopCollection.items, Key.token]
  have hopen : scanner.run ⟨initial, {}⟩
        [.usagePage c.usagePage.value, .field .usage c.usage.value, .collection] = [] ∧
      scanner.state ⟨initial, {}⟩
        [.usagePage c.usagePage.value, .field .usage c.usage.value, .collection] =
          insideState initial r {} := by
    constructor <;> rfl
  have hreport : r' = c.toReport := by
    obtain ⟨hpage, husage⟩ := foldl_push_pair c.mains r
    refine HIDReport.ext_entries hpage husage ?_
    intro k
    rw [foldl_push_entries, TopCollection.entries_toReport]
    cases k <;> rfl
  obtain ⟨hrun, hstate⟩ := scanner_mains initial c.mains r
  rw [htokens]
  simp only [Transducer.run_append, Transducer.state_append, hopen, hrun, hstate]
  show [] ++ ([] ++ [r']) = [c.toReport] ∧ _
  rw [hreport]
  exact ⟨rfl, rfl⟩

theorem scanner_topCollections (initial : Bool) (cs : List TopCollection) :
    scanner.eval ⟨initial, {}⟩ ((cs.flatMap TopCollection.items).map Item.token) =
      cs.map TopCollection.toReport := by
  induction cs generalizing initial with
  | nil => simp [scanner]
  | cons c cs ih =>
      obtain ⟨hrun, hstate⟩ := scanner_topCollection initial c
      rw [List.flatMap_cons, List.map_append, Transducer.eval_append, hrun, hstate, ih]
      rfl

/-- **Encode/parse round trip.** Whatever widths and attribute orders a list of
top-level collections is written with, repeated calls read back exactly that
list. -/
theorem hidUsages_roundTrip (cs : List TopCollection)
    (h : (encode (cs.flatMap TopCollection.items)).length ≤ HID_MAX_DESCRIPTOR_SIZE) :
    hidUsages ⟨encode (cs.flatMap TopCollection.items), h⟩ =
      some (.finished, cs.map TopCollection.toReport) := by
  rw [hidUsages_encode]
  exact congrArg (fun rs => some (Ret.finished, rs)) (scanner_topCollections true cs)

/-- **The round trip through `init_reports`** holds for lists of one collection:
the loop does not end on an empty list and stops after the first of several. -/
theorem initReports_roundTrip_iff (cs : List TopCollection)
    (h : (encode (cs.flatMap TopCollection.items)).length ≤ HID_MAX_DESCRIPTOR_SIZE) :
    InitReports ⟨encode (cs.flatMap TopCollection.items), h⟩ []
        (.ok (), cs.map TopCollection.toReport) ↔ cs.length = 1 := by
  have heval : scanner.eval {} ((cs.flatMap TopCollection.items).map Item.token) =
      cs.map TopCollection.toReport := scanner_topCollections true cs
  rw [initReports_encode, heval]
  match cs with
  | [] => simp
  | [c] => simp
  | c :: c' :: cs => simp

/-- The raw HID interface of a QMK keyboard: one Input and one Output entry of
32 bytes. -/
def rawHid : TopCollection where
  usagePage := rawUsagePage
  usage := .byte 0x61
  kind := .byte 1
  mains :=
    [⟨.input, [(.usage, .byte 0x62), (.minimum, .byte 0),
        (.maximum, byteMaximum), (.count, .byte 32),
        (.size, .byte 8)], by decide, .byte 2⟩,
      ⟨.output, [(.usage, .byte 0x63), (.minimum, ⟨0, .zero, by decide⟩),
        (.maximum, ⟨0xFF, .four, by decide⟩), (.size, .byte 8),
        (.count, ⟨32, .two, by decide⟩)], by decide, .byte 2⟩]
  close := ⟨0, .zero, by decide⟩

theorem initReports_rawHid :
    InitReports ⟨encode ([rawHid].flatMap TopCollection.items), by decide⟩ []
        (.ok (), [rawHid.toReport]) ∧
      rawHid.toReport.output = [⟨true, 0x63, true, 0, true, 0xFF, true, 32, true, 8⟩] :=
  ⟨(initReports_roundTrip_iff [rawHid] (by decide)).mpr rfl, rfl⟩

/-- Of two such interfaces the second is lost. -/
theorem initReports_rawHid_twice :
    ¬ InitReports ⟨encode ([rawHid, rawHid].flatMap TopCollection.items), by decide⟩ []
        (.ok (), [rawHid, rawHid].map TopCollection.toReport) ∧
      InitReports ⟨encode ([rawHid, rawHid].flatMap TopCollection.items), by decide⟩ []
        (.ok (), [rawHid.toReport]) := by
  constructor
  · intro hboth
    obtain ⟨r, rs, -, hr⟩ := (initReports_encode _ _ _ _).mp hboth
    have hlength := congrArg (fun result => result.2.length) hr
    simp at hlength
  · exact (initReports_encode _ _ _ _).mpr
      ⟨rawHid.toReport, [rawHid.toReport], scanner_topCollections true [rawHid, rawHid], rfl⟩

end QmkHidIdentify
