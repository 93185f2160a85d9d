import QmkHidIdentify.Windows.HidIdentify

/-!
# QmkHidIdentify.Windows.InterfaceNumber

Which interface number a device path has. The path is searched for `&MI_` first
and for `&mi_` only if there is none, so a `&mi_` to the left of the first
`&MI_` does not count (`DecidingTag`). `interfaceNumber_reads` says what is made
of the tag that does, for every path.
-/

namespace QmkHidIdentify

/-! ### Searching -/

/-- A tag starts at this position. -/
def TagAt (tag path : WString) (i : Nat) : Prop := tag <+: path.drop i

/-- The least position with a property. -/
def Leftmost (P : Nat → Prop) (i : Nat) : Prop := P i ∧ ∀ j < i, ¬ P j

theorem Leftmost.unique {P : Nat → Prop} {i j : Nat} (hi : Leftmost P i) (hj : Leftmost P j) :
    i = j := by
  rcases Nat.lt_trichotomy i j with h | h | h
  · exact absurd hi.1 (hj.2 i h)
  · exact h
  · exact absurd hj.1 (hi.2 j h)

/-- Either `find` returns the leftmost occurrence, or there is none. -/
theorem find_cases (tag path : WString) :
    (WString.find tag path = none ∧ ∀ i, ¬ TagAt tag path i) ∨
      ∃ i, WString.find tag path = some i ∧ Leftmost (TagAt tag path) i := by
  induction path with
  | nil =>
      unfold WString.find
      by_cases h : tag = []
      · exact .inr ⟨0, if_pos h, by simp [TagAt, h], by simp⟩
      · exact .inl ⟨if_neg h, by simpa [TagAt] using h⟩
  | cons c path ih =>
      unfold WString.find
      by_cases h : tag.isPrefixOf (c :: path)
      · exact .inr ⟨0, if_pos h, List.isPrefixOf_iff_prefix.mp h, by simp⟩
      · rw [if_neg h]
        have hzero : ¬ TagAt tag (c :: path) 0 := fun h' => h (List.isPrefixOf_iff_prefix.mpr h')
        rcases ih with ⟨hnone, hno⟩ | ⟨i, hsome, hat, hleft⟩
        · refine .inl ⟨by rw [hnone]; rfl, ?_⟩
          intro j
          cases j with
          | zero => exact hzero
          | succ j => exact hno j
        · refine .inr ⟨i + 1, by rw [hsome]; rfl, hat, ?_⟩
          intro j hj
          cases j with
          | zero => exact hzero
          | succ j => exact hleft j (Nat.lt_of_succ_lt_succ hj)

/-- The tag that `interface_number` takes: the leftmost `&MI_`, or the leftmost
`&mi_` of a path without `&MI_`. -/
def DecidingTag (path : WString) (i : Nat) : Prop :=
  Leftmost (TagAt tagUC path) i ∨ ((∀ j, ¬ TagAt tagUC path j) ∧ Leftmost (TagAt tagLC path) i)

/-- The leftmost of all tags. -/
def LeftmostTag (path : WString) (i : Nat) : Prop :=
  Leftmost (fun i => TagAt tagUC path i ∨ TagAt tagLC path i) i

theorem find_decidingTag (path : WString) (i : Nat) :
    ((WString.find tagUC path).orElse fun _ => WString.find tagLC path) = some i ↔
      DecidingTag path i := by
  unfold DecidingTag
  rcases find_cases tagUC path with ⟨hnone, hno⟩ | ⟨j, hsome, hleft⟩
  · have hnot : ¬ Leftmost (TagAt tagUC path) i := fun h => hno i h.1
    rw [hnone, or_iff_right hnot, and_iff_right hno, Option.orElse_none]
    rcases find_cases tagLC path with ⟨hnone', hno'⟩ | ⟨j, hsome, hleft⟩
    · simp [hnone', Leftmost, hno' i]
    · rw [hsome, Option.some.injEq]
      exact ⟨fun h => h ▸ hleft, fun h => hleft.unique h⟩
  · have hnot : ¬ ∀ j, ¬ TagAt tagUC path j := fun h => h j hleft.1
    rw [hsome, or_iff_left fun h => hnot h.1, Option.orElse_some, Option.some.injEq]
    exact ⟨fun h => h ▸ hleft, fun h => hleft.unique h⟩

/-! ### The number -/

/-- Two hexadecimal digits with these values follow a tag. -/
def DigitsAfter (path : WString) (i : Nat) (hi lo : Nat) : Prop :=
  ∃ h l, path[i + tagUC.length]? = some h ∧ path[i + tagUC.length + 1]? = some l ∧
    xdigitValue h = some hi ∧ xdigitValue l = some lo

/-- The path is read in bounds and without an exception, to the number that
follows its tag, or to -1 exactly if there is no tag or no number. -/
def ReadsInterface (tag : WString → Nat → Prop) (path : WString) : Prop :=
  ∃ n : Int16, interfaceNumber path = some n ∧
    (∀ i hi lo, tag path i → DigitsAfter path i hi lo → n.toInt = 16 * hi + lo) ∧
    (n = -1 ↔ ¬ ∃ i hi lo, tag path i ∧ DigitsAfter path i hi lo)

theorem xdigitValue_eq_some {ch : UInt16} {v : Nat} (h : xdigitValue ch = some v) :
    isxdigit ch = true ∧ v < 16 := by
  unfold xdigitValue at h
  simp only [isxdigit, isdigit, Bool.or_eq_true, Bool.and_eq_true, decide_eq_true_eq]
  simp only [UInt16.le_iff_toNat_le] at h ⊢
  split_ifs at h with h₁ h₂ h₃
  · obtain rfl := Option.some.inj h
    exact ⟨.inl (.inl h₁), by simp at h₁; omega⟩
  · obtain rfl := Option.some.inj h
    exact ⟨.inl (.inr h₂), by simp at h₂; omega⟩
  · obtain rfl := Option.some.inj h
    exact ⟨.inr h₃, by simp at h₃; omega⟩

/-- The digits after a tag are read, and `std::stoi` gives their value. -/
theorem interfaceNumber_of_digits {path : WString} {i hi lo : Nat} (htag : DecidingTag path i)
    (hdigits : DigitsAfter path i hi lo) :
    interfaceNumber path = some (.ofNat (16 * hi + lo)) := by
  obtain ⟨h, l, hh, hl, hhi, hlo⟩ := hdigits
  have hlen := (List.getElem?_eq_some_iff.mp hl).1
  unfold interfaceNumber
  rw [(find_decidingTag path i).mpr htag]
  dsimp only
  rw [if_neg (by omega), hh, hl]
  dsimp only
  rw [if_neg (by simp [(xdigitValue_eq_some hhi).1, (xdigitValue_eq_some hlo).1])]
  simp [stoi, hhi, hlo]

theorem interfaceNumber_of_no_digits {path : WString} {i : Nat} (htag : DecidingTag path i)
    (hno : ¬ ∃ hi lo, DigitsAfter path i hi lo) : interfaceNumber path = some (-1) := by
  unfold interfaceNumber
  rw [(find_decidingTag path i).mpr htag]
  dsimp only
  split_ifs with hlen
  · rfl
  · have hh : i + tagUC.length < path.length := by omega
    have hl : i + tagUC.length + 1 < path.length := by omega
    rw [List.getElem?_eq_getElem hh, List.getElem?_eq_getElem hl]
    dsimp only
    split_ifs with hdigits
    · rfl
    · exfalso
      apply hno
      simp only [Bool.or_eq_true, Bool.not_eq_true', not_or, Bool.not_eq_false] at hdigits
      obtain ⟨hi, hhi⟩ := Option.isSome_iff_exists.mp (xdigitValue_isSome hdigits.1)
      obtain ⟨lo, hlo⟩ := Option.isSome_iff_exists.mp (xdigitValue_isSome hdigits.2)
      exact ⟨hi, lo, _, _, List.getElem?_eq_getElem hh, List.getElem?_eq_getElem hl, hhi, hlo⟩

theorem interfaceNumber_of_no_tag {path : WString} (hno : ∀ i, ¬ DecidingTag path i) :
    interfaceNumber path = some (-1) := by
  unfold interfaceNumber
  cases hfind : (WString.find tagUC path).orElse fun _ => WString.find tagLC path with
  | none => rfl
  | some i => exact absurd ((find_decidingTag path i).mp hfind) (hno i)

theorem DigitsAfter.toInt_eq {path : WString} {i hi lo : Nat} (h : DigitsAfter path i hi lo) :
    (Int16.ofNat (16 * hi + lo)).toInt = 16 * hi + lo := by
  obtain ⟨ch, cl, -, -, hhi, hlo⟩ := h
  have hlt := (xdigitValue_eq_some hhi).2
  have hlt' := (xdigitValue_eq_some hlo).2
  rw [Int16.toInt_ofNat', Int.bmod_eq_of_le] <;> simp [Int16.size] <;> omega

/-- **The interface number** of every path is what follows its deciding tag. -/
theorem interfaceNumber_reads (path : WString) : ReadsInterface DecidingTag path := by
  by_cases hnum : ∃ i hi lo, DecidingTag path i ∧ DigitsAfter path i hi lo
  · obtain ⟨i, hi, lo, htag, hdigits⟩ := hnum
    have hread := interfaceNumber_of_digits htag hdigits
    refine ⟨_, hread, ?_, ?_⟩
    · intro j hi' lo' htag' hdigits'
      have hread' := interfaceNumber_of_digits htag' hdigits'
      rw [Option.some.inj (hread.symm.trans hread')]
      exact hdigits'.toInt_eq
    · refine iff_of_false ?_ (not_not_intro ⟨i, hi, lo, htag, hdigits⟩)
      intro hminus
      have hvalue := hdigits.toInt_eq
      rw [hminus, show (-1 : Int16).toInt = -1 by decide] at hvalue
      omega
  · refine ⟨-1, ?_, ?_, iff_of_true rfl hnum⟩
    · by_cases hany : ∃ i, DecidingTag path i
      · obtain ⟨i, htag⟩ := hany
        refine interfaceNumber_of_no_digits htag ?_
        intro hdigits
        obtain ⟨hi, lo, hdigits⟩ := hdigits
        exact hnum ⟨i, hi, lo, htag, hdigits⟩
      · exact interfaceNumber_of_no_tag (by simpa using hany)
    · intro i hi lo htag hdigits
      exact absurd ⟨i, hi, lo, htag, hdigits⟩ hnum

/-- The path `&mi_01&MI_02`. -/
def bothTags : WString := tagLC ++ [0x30, 0x31] ++ tagUC ++ [0x30, 0x32]

/-- Its number is 2: the leftmost of all tags does not decide. -/
theorem interfaceNumber_bothTags :
    interfaceNumber bothTags = some 2 ∧ LeftmostTag bothTags 0 ∧ DigitsAfter bothTags 0 0 1 ∧
      ¬ ReadsInterface LeftmostTag bothTags := by
  have hread : interfaceNumber bothTags = some 2 := by decide
  have htag : LeftmostTag bothTags 0 := ⟨.inr ⟨_, rfl⟩, by simp⟩
  have hdigits : DigitsAfter bothTags 0 0 1 := ⟨0x30, 0x31, rfl, rfl, rfl, rfl⟩
  refine ⟨hread, htag, hdigits, ?_⟩
  intro hreads
  obtain ⟨n, hn, hvalue, -⟩ := hreads
  obtain rfl := Option.some.inj (hread.symm.trans hn)
  exact absurd (hvalue 0 0 1 htag hdigits) (by decide)

end QmkHidIdentify
