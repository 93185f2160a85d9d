import QmkHidIdentify.Linux.Fallback

/-!
# QmkHidIdentify.Linux.Locality

How far the parser looks. A call of `get_next_hid_usage` that returns at an End
Collection has not read a byte after it, although the size of the descriptor is
tested at every item: two descriptors that agree up to there give the same call
(`found_local`). A descriptor that is longer therefore has the reports of the
shorter one first, unless the shorter one has none but that of the fallback at
its end (`reports_extend`).
-/

namespace QmkHidIdentify

/-- Two descriptors have the same first bytes. -/
structure Agree (n : Nat) (rpt rpt' : List UInt8) : Prop where
  le : n ≤ rpt.length
  le' : n ≤ rpt'.length
  get : ∀ i, i < n → rpt'[i]? = rpt[i]?

section Agree

variable {n pos : Nat} {rpt rpt' : List UInt8}

theorem Agree.of_take (hle : n ≤ rpt.length) (htake : rpt'.take n = rpt.take n) :
    Agree n rpt rpt' := by
  have hlength := congrArg List.length htake
  rw [List.length_take, List.length_take] at hlength
  refine ⟨hle, by omega, ?_⟩
  intro i hi
  have hget := congrArg (fun xs => xs[i]?) htake
  simpa [List.getElem?_take, hi] using hget

theorem Agree.of_extends (hextends : rpt <+: rpt') (hle : n ≤ rpt.length) : Agree n rpt rpt' := by
  obtain ⟨more, rfl⟩ := hextends
  refine .of_take hle ?_
  rw [List.take_append_of_le_length hle]

/-! ### One item -/

theorem Agree.getHidItemSize (h : Agree n rpt rpt') (hpos : pos + 1 < n) :
    getHidItemSize rpt' pos = getHidItemSize rpt pos := by
  have hlt := h.le
  have hlt' := h.le'
  unfold QmkHidIdentify.getHidItemSize
  rw [h.get pos (by omega), h.get (pos + 1) hpos]
  simp only [show pos + 1 < rpt.length by omega, show pos + 1 < rpt'.length by omega]

theorem Agree.getHidReportBytes (h : Agree n rpt rpt') {numBytes : Nat}
    (hin : pos + numBytes < n) :
    getHidReportBytes rpt' numBytes pos = getHidReportBytes rpt numBytes pos := by
  have hlt := h.le
  have hlt' := h.le'
  unfold QmkHidIdentify.getHidReportBytes
  rw [if_neg (show ¬ pos + numBytes ≥ rpt'.length by omega),
    if_neg (show ¬ pos + numBytes ≥ rpt.length by omega)]
  split_ifs with h0 h1 h2 h4
  · rfl
  · rw [h.get (pos + 1) (by omega)]
  · rw [h.get (pos + 1) (by omega), h.get (pos + 2) (by omega)]
  · rw [h.get (pos + 1) (by omega), h.get (pos + 2) (by omega), h.get (pos + 3) (by omega),
      h.get (pos + 4) (by omega)]
  · rfl

/-- An item that is followed by one of these bytes. -/
theorem Agree.item (h : Agree n rpt rpt') (hnext : nextPos rpt pos < n) :
    tokenAt rpt' pos = tokenAt rpt pos ∧ nextPos rpt' pos = nextPos rpt pos := by
  have hlt := pos_lt_nextPos rpt pos
  have hsize : itemSize rpt' pos = itemSize rpt pos := by
    unfold itemSize
    rw [h.getHidItemSize (by omega)]
  refine ⟨?_, by rw [nextPos, hsize, nextPos]⟩
  have hdata : pos + (itemSize rpt pos).dataLen < n := by
    unfold nextPos at hnext
    omega
  unfold tokenAt
  rw [hsize, h.get pos (by omega), h.getHidReportBytes hdata]

/-- An End Collection is known by its first byte. -/
theorem Agree.endCollection (h : Agree n rpt rpt') (hpos : pos < n)
    (htoken : tokenAt rpt pos = .endCollection) : tokenAt rpt' pos = .endCollection := by
  obtain ⟨key, hkey, hcmd⟩ := key_of_endCollection htoken
  rw [tokenAt, h.get pos hpos, hkey]
  simp only [hcmd, Token.ofKey]

end Agree

/-! ### One call -/

section Calls

variable {d d' : HidrawDescriptor} {initial : Bool} {fuel fuel' pos pos' : Nat} {s : UsageVars}
  {r : HIDReport}

/-- The loop of a call over both descriptors, until it returns. -/
theorem usageLoop_local {rpt rpt' : List UInt8} (hsize : rpt.length ≤ HID_MAX_DESCRIPTOR_SIZE)
    (hsize' : rpt'.length ≤ HID_MAX_DESCRIPTOR_SIZE)
    (hfound : usageLoop rpt initial fuel pos s = some ⟨.found, pos', r⟩)
    (hend : pos' < rpt.length) (hagree : Agree (pos' + 1) rpt rpt')
    (hfuel : rpt'.length < pos + fuel') (hf : 0 < fuel') :
    pos ≤ pos' ∧ usageLoop rpt' initial fuel' pos s = some ⟨.found, pos', r⟩ := by
  induction fuel generalizing fuel' pos s with
  | zero => cases hfound
  | succ fuel ih =>
      rw [usageLoop] at hfound
      by_cases h : pos < rpt.length
      · obtain ⟨fuel', rfl⟩ := Nat.exists_eq_succ_of_ne_zero hf.ne'
        rw [if_pos h, usageBody_eq hsize h] at hfound
        cases hr : s.returnsAt (tokenAt rpt pos) with
        | true =>
            rw [hr] at hfound
            obtain ⟨rfl, rfl⟩ : pos = pos' ∧ s.hidReport = r := by simpa using hfound
            obtain ⟨htoken, -, -⟩ := UsageVars.returnsAt_iff.mp hr
            have htoken' := hagree.endCollection (Nat.lt_succ_self pos) htoken
            have h' : pos < rpt'.length := hagree.le'
            refine ⟨Nat.le_refl _, ?_⟩
            rw [usageLoop, if_pos h', usageBody_eq hsize' h', htoken', ← htoken, hr]
            rfl
        | false =>
            rw [hr] at hfound
            have hlt := pos_lt_nextPos rpt pos
            have hrest : ∀ fuel', rpt'.length < nextPos rpt pos + fuel' → 0 < fuel' →
                nextPos rpt pos ≤ pos' ∧ usageLoop rpt' initial fuel' (nextPos rpt pos)
                  (s.step (tokenAt rpt pos)) = some ⟨.found, pos', r⟩ :=
              fun _ hfuel hf => ih hfound hfuel hf
            -- the item lies before `pos'`, as the rest of the call says
            obtain ⟨hle, -⟩ := hrest (rpt'.length + 1) (by omega) (by omega)
            obtain ⟨htoken, hnext⟩ := hagree.item (Nat.lt_succ_of_le hle)
            have h' : pos < rpt'.length := by
              have hle' := hagree.le'
              omega
            refine ⟨by omega, ?_⟩
            rw [usageLoop, if_pos h', usageBody_eq hsize' h', htoken, hr, hnext]
            exact (hrest fuel' (by omega) (by have hle' := hagree.le'; omega)).2
      · rw [if_neg h] at hfound
        obtain ⟨-, rfl, -⟩ := by simpa using hfound
        exact absurd hend h

theorem call_local (hfound : getNextHidUsage d.value pos = some ⟨.found, pos', r⟩)
    (hend : pos' < d.value.length) (hagree : Agree (pos' + 1) d.value d'.value) :
    getNextHidUsage d'.value pos = some ⟨.found, pos', r⟩ :=
  (usageLoop_local d.size_le d'.size_le hfound hend hagree (by omega) (by omega)).2

/-- **A call is local.** A call that returns at an End Collection returns the same
for any other descriptor that agrees with this one up to there. -/
theorem found_local (hfound : getNextHidUsage d.value pos = some ⟨.found, pos', r⟩)
    (hend : pos' < d.value.length)
    (hsame : d'.value.take (pos' + 1) = d.value.take (pos' + 1)) :
    getNextHidUsage d'.value pos = some ⟨.found, pos', r⟩ :=
  call_local hfound hend (.of_take hend hsame)

/-- A Collection with a pair, whose end has data. -/
def onePair : List Item := usageOnly ++ [Key.collection.byte 1, Key.endCollection.byte 5]

/-- The data of the End Collection may be missing. -/
theorem found_local_cut :
    getNextHidUsage ((encode onePair).take 7) 0 =
      some ⟨.found, 6, { usagePage := 1, usage := 2 }⟩ := by
  have hfound : getNextHidUsage (encode onePair) 0 =
      some ⟨.found, 6, { usagePage := 1, usage := 2 }⟩ := by decide
  have hcut : ∀ d : HidrawDescriptor, d.value.take 7 = (encode onePair).take 7 →
      getNextHidUsage d.value 0 = some ⟨.found, 6, { usagePage := 1, usage := 2 }⟩ :=
    fun _ hsame => found_local (d := ⟨encode onePair, by decide⟩) hfound (by decide) hsame
  exact hcut ⟨(encode onePair).take 7, by decide⟩ (by decide)

/-! ### Repeated calls -/

theorem hidUsagesLoop_extend (hextends : d.value <+: d'.value) {reports rs rs' : List HIDReport}
    {ret ret' : Ret} (h : hidUsagesLoop d.value fuel pos reports = some (ret, rs))
    (h' : hidUsagesLoop d'.value fuel' pos reports = some (ret', rs'))
    (hfallback : pos = 0 → ¬ FallsBack d.tokens) : rs <+: rs' := by
  induction fuel generalizing fuel' pos reports with
  | zero => cases h
  | succ fuel ih =>
      cases fuel' with
      | zero => cases h'
      | succ fuel' =>
          rw [hidUsagesLoop] at h
          split at h
          · cases h
          · next pos' r hcall =>
              by_cases hend : pos' < d.value.length
              · -- the call has stopped at an End Collection
                have hcall' := call_local hcall hend (.of_extends hextends hend)
                have hpos : pos' = 0 → ¬ FallsBack d.tokens := by
                  intro hzero
                  rcases found_cases hcall with ⟨-, hoff, -⟩ | ⟨hlt, -⟩ <;> omega
                rw [hidUsagesLoop, hcall'] at h'
                exact ih h h' hpos
              · obtain ⟨hzero, hback, -⟩ := fallsBack_of_call hcall (Nat.le_of_not_lt hend)
                exact absurd hback (hfallback hzero)
          · obtain ⟨-, rfl⟩ := by simpa using h
            obtain ⟨more, rfl⟩ := hidUsagesLoop_append h'
            exact List.prefix_append ..

/-- `init_reports` keeps the report of the first call. -/
theorem initReports_of_found (hfound : getNextHidUsage d.value 0 = some ⟨.found, pos', r⟩)
    (reports : List HIDReport) (result : Except Exception Unit × List HIDReport) :
    InitReports d reports result ↔ result = (.ok (), reports ++ [r]) := by
  constructor
  · intro hends
    obtain ⟨fuel, hfuel⟩ := hends
    cases fuel with
    | zero => cases hfuel
    | succ fuel => simpa [initReportsLoop, hfound] using hfuel.symm
  · intro hresult
    exact ⟨1, by simp [initReportsLoop, hfound, hresult]⟩

/-- **Bytes after the reports.** A descriptor with more bytes at its end has the
same reports before others, unless there is only the one of the fallback; and
`init_reports` leaves the same for both, if a pair is closed in the shorter one. -/
theorem reports_extend (hextends : d.value <+: d'.value) :
    (∃ rs rs', hidUsages d = some (.finished, rs) ∧ hidUsages d' = some (.finished, rs') ∧
      (rs <+: rs' ∨ FallsBack d.tokens)) ∧ (PairClosed d.tokens → SameReports d d') := by
  refine ⟨⟨_, _, hidUsages_eq d, hidUsages_eq d', ?_⟩, ?_⟩
  · by_cases hback : FallsBack d.tokens
    · exact .inr hback
    · exact .inl (hidUsagesLoop_extend hextends (hidUsages_eq d) (hidUsages_eq d')
        fun _ => hback)
  · intro hclosed result
    rcases getNextHidUsage_cases d 0 with
      ⟨pos', s, -, -, hrun, -⟩ | ⟨pos', r, rs, -, hend, -, -, hcall⟩
    · exact absurd hclosed ((run_eq_nil_iff _).mp hrun)
    · have hcall' := call_local hcall hend (.of_extends hextends hend)
      rw [initReports_of_found hcall, initReports_of_found hcall']

/-- A Collection that is opened again after the pair. -/
theorem reports_extend_opened :
    SameReports ⟨encode onePair, by decide⟩
      ⟨encode onePair ++ encode [Key.collection.byte 1], by decide⟩ := by
  refine (reports_extend (List.prefix_append _ _)).2 ?_
  by_contra hopen
  rw [tokens_encode, ← run_eq_nil_iff] at hopen
  cases hopen

end Calls

end QmkHidIdentify
