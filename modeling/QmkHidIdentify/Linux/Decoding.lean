import QmkHidIdentify.Linux.Walk

/-!
# QmkHidIdentify.Linux.Decoding

The `int` arithmetic of the parser. The bytes of `get_hid_report_bytes` are
promoted to `int` before they are scaled, so the most significant of four bytes
leaves the range of `int` from 0x80 on. `decodes_iff` says that nothing else
does, and that the value stored is right in any case where the arithmetic wraps.
-/

namespace QmkHidIdentify

/-- The range of a 32-bit `int`. -/
def InInt (z : Int) : Prop := -2 ^ 31 ≤ z ∧ z ≤ 2 ^ 31 - 1

/-- The exact values of the `int` expressions that `get_hid_report_bytes`
evaluates, operands before results. -/
def getHidReportBytesInts (rpt : List UInt8) (numBytes cur : Nat) : List Int :=
  let byte (i : Nat) : Int := (rpt[cur + i]?.getD 0).toNat
  if cur + numBytes ≥ rpt.length then []
  else if numBytes = 0 then []
  else if numBytes = 1 then [byte 1]
  else if numBytes = 2 then [byte 2, byte 2 * 256, byte 1, byte 2 * 256 + byte 1]
  else if numBytes = 4 then
    [byte 4, byte 4 * 0x01000000, byte 3, byte 3 * 0x00010000,
      byte 4 * 0x01000000 + byte 3 * 0x00010000, byte 2, byte 2 * 0x00000100,
      byte 4 * 0x01000000 + byte 3 * 0x00010000 + byte 2 * 0x00000100, byte 1,
      byte 1 * 0x00000001,
      byte 4 * 0x01000000 + byte 3 * 0x00010000 + byte 2 * 0x00000100 + byte 1 * 0x00000001]
  else []

/-- The little-endian number of the data bytes of an item, 0 when they run past
the end. -/
def itemData (rpt : List UInt8) (numBytes pos : Nat) : UInt32 :=
  if pos + numBytes < rpt.length then leValue ((rpt.drop (pos + 1)).take numBytes) else 0

/-- Every item that the loop meets, in any of the calls, is decoded to the number
of its data bytes and without overflow. -/
structure Decodes (d : HidrawDescriptor) : Prop where
  /-- the value that the switch stores -/
  value : ∀ pos s key sz, Visit d.value pos s → d.value[pos]? = some key →
    getHidItemSize d.value pos = some sz → s.switchKey (key &&& 0xfc).toNat none = none →
    getHidReportBytes d.value sz.dataLen pos = some (itemData d.value sz.dataLen pos)
  /-- the expressions in `get_hid_report_bytes`, where the switch calls it -/
  range : ∀ pos s key sz, Visit d.value pos s → d.value[pos]? = some key →
    getHidItemSize d.value pos = some sz → s.switchKey (key &&& 0xfc).toNat none = none →
    ∀ z ∈ getHidReportBytesInts d.value sz.dataLen pos, InInt z
  /-- the sum in the update of `*pos` -/
  update : ∀ pos s sz, Visit d.value pos s → getHidItemSize d.value pos = some sz →
    InInt sz.dataLen ∧ InInt sz.keySize ∧ InInt (sz.dataLen + sz.keySize)

/-- The parser reads the data of an item: of a Usage Page outside collections, of
a Usage, and of the other attributes in collections. -/
def readsData (key : UInt8) (inside : Bool) : Bool :=
  match (key &&& 0xfc).toNat with
  | 0x04 => !inside
  | 0x08 => true
  | 0x14 | 0x24 | 0x74 | 0x94 => inside
  | _ => false

/-- Only there the switch needs the data. -/
theorem switchKey_eq_none_iff (s : UsageVars) (key : UInt8) :
    s.switchKey (key &&& 0xfc).toNat none = none ↔ readsData key s.collection = true := by
  unfold readsData
  generalize (key &&& 0xfc).toNat = keyCmd
  unfold UsageVars.switchKey
  split <;> cases s.collection <;> simp_all
  all_goals split <;> simp_all

/-- An item with four data bytes that the parser reads does not have a most
significant byte above 0x7f. -/
def HidrawDescriptor.TopBitClear (d : HidrawDescriptor) : Prop :=
  ∀ ts pos key top, ItemAt d.value ts pos → d.value[pos]? = some key →
    readsData key (inCollection ts) = true → key &&& 0x3 = 0x3 →
    d.value[pos + 4]? = some top → top < 0x80

/-! ### One item -/

/-- Two's complement gives the number, whatever the bytes are. -/
theorem getHidReportBytes_eq {rpt : List UInt8} {numBytes pos : Nat} (hpos : pos < rpt.length)
    (hnum : numBytes = 0 ∨ numBytes = 1 ∨ numBytes = 2 ∨ numBytes = 4) :
    getHidReportBytes rpt numBytes pos = some (itemData rpt numBytes pos) := by
  unfold itemData
  split
  · next hin =>
      have hdata : ((rpt.drop (pos + 1)).take numBytes).length = numBytes := by
        rw [List.length_take, List.length_drop]
        omega
      have hsplit : rpt = rpt.take pos ++ rpt[pos] :: (rpt.drop (pos + 1)).take numBytes ++
          (rpt.drop (pos + 1)).drop numBytes := by
        rw [List.append_assoc, List.cons_append, List.take_append_drop, List.getElem_cons_drop,
          List.take_append_drop]
      have hcomplete := getHidReportBytes_complete (rpt.take pos)
        ((rpt.drop (pos + 1)).take numBytes) ((rpt.drop (pos + 1)).drop numBytes) rpt[pos]
        (by rw [hdata]; exact hnum)
      rwa [← hsplit, hdata, List.length_take_of_le (Nat.le_of_lt hpos)] at hcomplete
  · next hout => simp [getHidReportBytes, Nat.le_of_not_lt hout]

/-- The one thing that leaves the range is the most significant of four bytes. -/
theorem ints_inInt_iff {rpt : List UInt8} {numBytes pos : Nat}
    (hnum : numBytes = 0 ∨ numBytes = 1 ∨ numBytes = 2 ∨ numBytes = 4) :
    (∀ z ∈ getHidReportBytesInts rpt numBytes pos, InInt z) ↔
      (numBytes = 4 → ∀ top, rpt[pos + 4]? = some top → top < 0x80) := by
  have hbyte : ∀ i, (rpt[pos + i]?.getD 0).toNat < 256 := fun i => UInt8.toNat_lt _
  have h1 := hbyte 1
  have h2 := hbyte 2
  unfold getHidReportBytesInts
  dsimp only
  split
  · next hout =>
      refine iff_of_true (by simp) ?_
      intro h4 top htop
      rw [List.getElem?_eq_none (by omega)] at htop
      cases htop
  · next hin =>
      rcases hnum with rfl | rfl | rfl | rfl
      · simp
      · refine iff_of_true ?_ nofun
        simp [InInt]
        omega
      · refine iff_of_true ?_ nofun
        simp [InInt]
        omega
      · have h3 := hbyte 3
        have h4 := hbyte 4
        have htop : rpt[pos + 4]? = some rpt[pos + 4] := List.getElem?_eq_getElem (by omega)
        simp [InInt, htop, UInt8.lt_iff_toNat_lt] at h4 ⊢
        omega

theorem dataLen_eq_four_iff (key : UInt8) :
    (shortItemSize key).dataLen = 4 ↔ key &&& 0x3 = 0x3 := by
  rw [← UInt8.toNat_inj, shortItemSize]
  rcases sizeCode_cases key with h | h | h | h
  all_goals simp [h]

/-- The sizes of an item. -/
theorem getHidItemSize_le {rpt : List UInt8} {pos : Nat} {sz : ItemSize}
    (h : getHidItemSize rpt pos = some sz) : sz.dataLen ≤ 255 ∧ sz.keySize ≤ 3 := by
  unfold getHidItemSize at h
  split at h
  · cases h
  · next key _ =>
      split at h
      · split at h
        · cases h
        · next len _ =>
            have hlen := len.toNat_lt
            obtain rfl := Option.some.inj h
            exact ⟨by dsimp only; omega, Nat.le_refl 3⟩
      · obtain rfl := Option.some.inj h
        rcases shortItemSize_cases key with hs | hs | hs | hs <;> simp [hs]

/-! ### Every item -/

/-- An iteration that needs the data of an item does so for what the descriptor
has there. -/
theorem readsData_of_visit {d : HidrawDescriptor} {pos : Nat} {s : UsageVars} {key : UInt8}
    (hvisit : Visit d.value pos s) (hkey : d.value[pos]? = some key)
    (hdata : s.switchKey (key &&& 0xfc).toNat none = none) :
    ∃ ts, ItemAt d.value ts pos ∧ readsData key (inCollection ts) = true := by
  obtain ⟨ts, hitem, hcoll | hend⟩ := visit_itemAt d.size_le hvisit
  · exact ⟨ts, hitem, hcoll ▸ (switchKey_eq_none_iff s key).mp hdata⟩
  · obtain ⟨key', hkey', hcmd⟩ := key_of_endCollection hend
    obtain rfl := Option.some.inj (hkey.symm.trans hkey')
    rw [hcmd] at hdata
    cases hdata

/-- **Decoding.** No expression leaves the range of `int`, exactly if no item
that the parser reads has a most significant byte of four above 0x7f. -/
theorem decodes_iff (d : HidrawDescriptor) : Decodes d ↔ d.TopBitClear := by
  refine ⟨?_, ?_⟩
  · intro hdecodes ts pos key top hitem hkey hreads hfour htop
    obtain ⟨s, hvisit, hcoll⟩ := itemAt_visit d.size_le hitem
    have hsize := (itemSize_spec hitem.lt).1
    have hdata := (switchKey_eq_none_iff s key).mpr (hcoll ▸ hreads)
    have hrange := hdecodes.range pos s key _ hvisit hkey hsize hdata
    rw [itemSize_of_switchKey hkey hsize hdata,
      ints_inInt_iff (shortItemSize_dataLen key)] at hrange
    exact hrange ((dataLen_eq_four_iff key).mpr hfour) top htop
  · intro hclear
    refine ⟨?_, ?_, ?_⟩
    · intro pos s key sz hvisit hkey hsize hdata
      obtain rfl := itemSize_of_switchKey hkey hsize hdata
      obtain ⟨ts, hitem, -⟩ := readsData_of_visit hvisit hkey hdata
      exact getHidReportBytes_eq hitem.lt (shortItemSize_dataLen key)
    · intro pos s key sz hvisit hkey hsize hdata
      obtain rfl := itemSize_of_switchKey hkey hsize hdata
      obtain ⟨ts, hitem, hreads⟩ := readsData_of_visit hvisit hkey hdata
      rw [ints_inInt_iff (shortItemSize_dataLen key), dataLen_eq_four_iff]
      intro hfour top htop
      exact hclear ts pos key top hitem hkey hreads hfour htop
    · intro pos s sz hvisit hsize
      have hle := getHidItemSize_le hsize
      simp only [InInt]
      omega

/-- A Usage Page in four bytes, the last of them 0x80. -/
def topBitPage : HidrawDescriptor := ⟨[0x07, 0x00, 0x00, 0x00, 0x80], by decide⟩

/-- The product for its most significant byte is `2 ^ 31`. -/
theorem decodes_topBitPage :
    2 ^ 31 ∈ getHidReportBytesInts topBitPage.value 4 0 ∧ ¬ InInt (2 ^ 31) ∧
      ¬ Decodes topBitPage := by
  have hmem : 2 ^ 31 ∈ getHidReportBytesInts topBitPage.value 4 0 := by decide
  have hout : ¬ InInt (2 ^ 31) := by simp [InInt]
  refine ⟨hmem, hout, ?_⟩
  intro hdecodes
  exact hout (hdecodes.range 0 {} 0x07 (shortItemSize 0x07) (.start (by decide)) rfl rfl rfl _ hmem)

end QmkHidIdentify
