import QmkHidIdentify.Linux.Walk

/-!
# QmkHidIdentify.Linux.LongItems

Items the parser does not interpret. A complete one, long or short, can be
inserted between any two items and changes nothing (`insert_uninterpreted`). A
long-item prefix whose length byte lies past the end is malformed; the branch of
`get_hid_item_size` for it sets its outputs, but does not return, and the item
goes through as a short one (`rejectsMalformed_iff`).
-/

namespace QmkHidIdentify

/-! ### Malformed long items -/

/-- The length byte of a long item at this position lies past the end. -/
def CutLong (rpt : List UInt8) (pos : Nat) : Prop :=
  ∃ key, rpt[pos]? = some key ∧ key &&& 0xf0 = 0xf0 ∧ rpt.length ≤ pos + 1

/-- The walk over the items reaches such a long item. -/
def HidrawDescriptor.Malformed (d : HidrawDescriptor) : Prop :=
  ∃ ts pos, ItemAt d.value ts pos ∧ CutLong d.value pos

/-- Malformed long items are what makes a call return -1 and the loop throw, and
are not taken for short items. -/
structure RejectsMalformed (d : HidrawDescriptor) : Prop where
  thrown : (∃ reports, InitReports d [] (.error .malformedHIDReportDescriptor, reports)) ↔
    d.Malformed
  returned : (∃ reports, hidUsages d = some (.malformed, reports)) ↔ d.Malformed
  notShort : ∀ ts pos key, ItemAt d.value ts pos → CutLong d.value pos →
    d.value[pos]? = some key → getHidItemSize d.value pos ≠ some (shortItemSize key)

/-- A cut long item gets the sizes of a short one. -/
theorem getHidItemSize_cutLong {rpt : List UInt8} {pos : Nat} (h : CutLong rpt pos) :
    ∃ key, rpt[pos]? = some key ∧ getHidItemSize rpt pos = some (shortItemSize key) := by
  obtain ⟨key, hkey, -, hend⟩ := h
  refine ⟨key, hkey, ?_⟩
  simp [getHidItemSize, hkey, Nat.not_lt.mpr hend]

/-- **Malformed long items** are rejected exactly where there are none: the code
never comes to reject anything. -/
theorem rejectsMalformed_iff (d : HidrawDescriptor) : RejectsMalformed d ↔ ¬ d.Malformed := by
  refine ⟨?_, ?_⟩
  · intro hrejects hmalformed
    obtain ⟨ts, pos, hitem, hcut⟩ := hmalformed
    obtain ⟨key, hkey, hshort⟩ := getHidItemSize_cutLong hcut
    exact hrejects.notShort ts pos key hitem hcut hkey hshort
  · intro hnone
    refine ⟨?_, ?_, ?_⟩
    · refine iff_of_false ?_ hnone
      intro hthrown
      obtain ⟨reports, hends⟩ := hthrown
      obtain ⟨r, rs, -, hresult⟩ := (initReports_iff d [] _).mp hends
      cases hresult
    · refine iff_of_false ?_ hnone
      intro hreturned
      obtain ⟨reports, hall⟩ := hreturned
      rw [hidUsages_eq] at hall
      cases hall
    · intro ts pos key hitem hcut
      exact absurd ⟨ts, pos, hitem, hcut⟩ hnone

/-- Usage Page 1, Usage 2 and a long-item prefix as the last byte. -/
def cutLongItem : HidrawDescriptor := ⟨[0x05, 0x01, 0x09, 0x02, 0xf0], by decide⟩

/-- The descriptor is malformed, and is accepted with a report. -/
theorem rejectsMalformed_cutLongItem :
    cutLongItem.Malformed ∧ InitReports cutLongItem [] (.ok (), [{ usagePage := 1 }]) ∧
      getHidItemSize cutLongItem.value 4 = some (shortItemSize 0xf0) ∧
      ¬ RejectsMalformed cutLongItem := by
  have hitem : ItemAt cutLongItem.value _ 4 :=
    .next (.next (.start (by decide)) (by decide)) (by decide)
  have hcut : CutLong cutLongItem.value 4 := ⟨0xf0, rfl, by decide, by decide⟩
  refine ⟨⟨_, 4, hitem, hcut⟩, ⟨1, by decide⟩, by decide, ?_⟩
  intro hrejects
  exact hrejects.notShort _ 4 0xf0 hitem hcut rfl (by decide)

/-! ### Items that are not interpreted -/

/-- The tag and type bits of the keys that the two switches of
`get_next_hid_usage` know. -/
def interpretedKeys : List UInt8 :=
  [0x04, 0x08, 0x14, 0x24, 0x74, 0x80, 0x90, 0x94, 0xa0, 0xb0, 0xc0]

/-- A long item, or a short item with another key. -/
def Item.Uninterpreted : Item → Prop
  | .short key _ _ _ => key &&& 0xfc ∉ interpretedKeys
  | .long .. => True

theorem Token.ofKey_eq_other {keyCmd : Nat} (h : keyCmd ∉ interpretedKeys.map UInt8.toNat)
    (v : UInt32) : ofKey keyCmd v = .other := by
  unfold ofKey
  split <;> first | rfl | exact absurd (by decide) h

theorem Item.token_of_uninterpreted {i : Item} (h : i.Uninterpreted) : i.token = .other := by
  cases i with
  | long key tag data isLong size => rfl
  | short key data notLong size =>
      refine Token.ofKey_eq_other ?_ _
      intro hmem
      obtain ⟨k, hk, hkey⟩ := List.mem_map.mp hmem
      rw [UInt8.toNat.inj hkey] at hk
      exact h hk

/-- The scanner steps over such an item. -/
theorem eval_insert_other (s : Scan) (xs ys : List Token) :
    scanner.eval s (xs ++ .other :: ys) = scanner.eval s (xs ++ ys) := by
  rw [Transducer.eval_append, Transducer.eval_append, Transducer.eval_cons]
  generalize scanner.state s xs = s'
  have hr := s'.vars.returnsAt_of_ne (t := .other) nofun
  rw [(scanner_continues hr).1, (scanner_continues hr).2]
  rfl

theorem length_encode_without {pre post : List Item} {i : Item}
    (h : (encode (pre ++ i :: post)).length ≤ HID_MAX_DESCRIPTOR_SIZE) :
    (encode (pre ++ post)).length ≤ HID_MAX_DESCRIPTOR_SIZE :=
  (length_encode_delete_le pre post i).trans h

/-- **Items the parser does not interpret are transparent**: at any item boundary
of any descriptor of complete items, whatever their data. -/
theorem insert_uninterpreted (pre post : List Item) {i : Item} (hi : i.Uninterpreted)
    (h : (encode (pre ++ i :: post)).length ≤ HID_MAX_DESCRIPTOR_SIZE) :
    SameReports ⟨encode (pre ++ i :: post), h⟩
        ⟨encode (pre ++ post), length_encode_without h⟩ ∧
      hidUsages ⟨encode (pre ++ i :: post), h⟩ =
        hidUsages ⟨encode (pre ++ post), length_encode_without h⟩ := by
  have heval : scanner.eval {} ((pre ++ i :: post).map Item.token) =
      scanner.eval {} ((pre ++ post).map Item.token) := by
    rw [List.map_append, List.map_cons, List.map_append, Item.token_of_uninterpreted hi,
      eval_insert_other]
  refine ⟨?_, ?_⟩
  · rw [sameReports_encode, heval]
  · rw [hidUsages_encode, hidUsages_encode, heval]

/-- A Collection with a pair, not closed yet. -/
def openPair : List Item :=
  [Key.usagePage.byte 1, (Key.field .usage).byte 2, Key.collection.byte 1]

/-- A long item whose data bytes read as an End Collection and a Collection. -/
def bracketsInLong : Item := .long 0xfe 0x00 [0xc0, 0xa1] (by decide) (by decide)

/-- It may stand in the collection. -/
theorem insert_uninterpreted_brackets :
    SameReports
        ⟨encode (openPair ++ bracketsInLong :: [Key.endCollection.byte 0]), by decide⟩
        ⟨encode (openPair ++ [Key.endCollection.byte 0]), by decide⟩ ∧
      hidUsages ⟨encode (openPair ++ bracketsInLong :: [Key.endCollection.byte 0]), by decide⟩ =
        hidUsages ⟨encode (openPair ++ [Key.endCollection.byte 0]), by decide⟩ :=
  insert_uninterpreted _ _ (i := bracketsInLong) trivial (by decide)

end QmkHidIdentify
