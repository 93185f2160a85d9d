import QmkHidIdentify.Linux.Calls

/-!
# QmkHidIdentify.Linux.Fallback

A call that runs off the end of the descriptor. It returns 0 there if it is the
first call and a Usage Page and a Usage were found, which is meant for a
descriptor without any top-level collection. The test does not look for a
Collection, and `hid_report.usage` is only stored at one: `fallback_iff` says
for which descriptors this makes no difference.
-/

namespace QmkHidIdentify

/-- The last Usage Page of a descriptor. -/
def lastUsagePage (ts : List Token) : Option UInt32 :=
  ts.foldl (fun p t => match t with
    | .usagePage v => some v
    | _ => p) none

/-- The Usage in scope at the end of a descriptor. -/
def scopedUsage (ts : List Token) : Option UInt32 :=
  ts.foldl (fun u t => match t with
    | .field .usage v => some v
    | t => if t.isMain then none else u) none

/-- A call that runs off the end returns 0 only if it is the first, on a
descriptor without any Collection, and then with the last Usage Page and the
Usage in scope. -/
def FallbackSound (d : HidrawDescriptor) : Prop :=
  ∀ pos pos' r, getNextHidUsage d.value pos = some ⟨.found, pos', r⟩ → d.value.length ≤ pos' →
    pos = 0 ∧ .collection ∉ d.tokens ∧
      ∃ page usage, lastUsagePage d.tokens = some page ∧ scopedUsage d.tokens = some usage ∧
        r = { usagePage := page, usage := usage }

/-- The first call runs off the end with a Usage Page and a Usage found. -/
def FallsBack (ts : List Token) : Prop :=
  ¬ PairClosed ts ∧ PageFound ts ∧ usageInScope ts = true

/-! ### The call -/

theorem fallsBack_of_call {d : HidrawDescriptor} {pos pos' : Nat} {r : HIDReport}
    (hcall : getNextHidUsage d.value pos = some ⟨.found, pos', r⟩)
    (hend : d.value.length ≤ pos') :
    pos = 0 ∧ FallsBack d.tokens ∧ r = (scanner.state {} d.tokens).vars.hidReport := by
  obtain ⟨rfl, -, s, hrun, hstate, hpage, husage, rfl⟩ :=
    (found_cases hcall).resolve_right fun h => Nat.not_lt.mpr hend h.2.1
  have hfirst := firstCall d.tokens
  rw [hstate] at hfirst ⊢
  exact ⟨rfl, ⟨(run_eq_nil_iff _).mp hrun, (hfirst.page rfl).mp hpage,
    hfirst.scan.usage ▸ husage⟩, rfl⟩

theorem FallsBack.call {d : HidrawDescriptor} (h : FallsBack d.tokens) :
    ∃ pos', d.value.length ≤ pos' ∧ getNextHidUsage d.value 0 =
      some ⟨.found, pos', (scanner.state {} d.tokens).vars.hidReport⟩ := by
  obtain ⟨hopen, hpage, husage⟩ := h
  rcases getNextHidUsage_cases d 0 with
    ⟨pos', s, hend, -, -, hstate, hcall⟩ | ⟨pos', r, rs, -, -, -, hrun, -⟩
  · have hfirst := firstCall d.tokens
    rw [show scanner.state {} d.tokens = ⟨true, s⟩ from hstate] at hfirst ⊢
    refine ⟨pos', hend, ?_⟩
    rw [hcall, (hfirst.page rfl).mpr hpage, hfirst.scan.usage, husage]
    rfl
  · have hnil : scanner.run ⟨0 == 0, {}⟩ (tokensFrom d.value 0) = [] :=
      (run_eq_nil_iff _).mpr hopen
    rw [hnil] at hrun
    cases hrun

/-! ### The report -/

theorem lastUsagePage_snoc (ts : List Token) (t : Token) :
    lastUsagePage (ts ++ [t]) = match t with
      | .usagePage v => some v
      | _ => lastUsagePage ts := by
  simp [lastUsagePage]

/-- Without a Collection a scan stores Usage Pages and nothing else. -/
structure NoCollection (ts : List Token) (s : Scan) : Prop where
  collection : s.vars.collection = false
  page : s.vars.usagePageFound = (lastUsagePage ts).isSome
  hidReport : s.vars.hidReport = { usagePage := (lastUsagePage ts).getD 0 }

theorem noCollection {ts : List Token} (hts : .collection ∉ ts) :
    NoCollection ts (scanner.state {} ts) := by
  revert hts
  refine Transducer.state_history (m := scanner) (s := {})
    (I := fun ts s => .collection ∉ ts → NoCollection ts s) (fun _ => ⟨rfl, rfl, rfl⟩) ?_ ts
  intro ts t s h hts
  rw [List.mem_append, not_or] at hts
  obtain ⟨hcoll, hpage, hreport⟩ := h hts.1
  have hr : s.vars.returnsAt t = false := by simp [UsageVars.returnsAt, hcoll]
  rw [(scanner_continues hr).1]
  cases t with
  | collection => simp at hts
  | field f v =>
      constructor <;> simp only [UsageVars.step, lastUsagePage_snoc] <;> split <;> assumption
  | _ => constructor <;> simp [UsageVars.step, lastUsagePage_snoc, hcoll, hpage, hreport]

/-- **The fallback at the end of the descriptor** is sound exactly for the
descriptors that do not come to it, and for those without any Collection whose
Usage is 0. -/
theorem fallback_iff (d : HidrawDescriptor) :
    FallbackSound d ↔
      (FallsBack d.tokens → .collection ∉ d.tokens ∧ scopedUsage d.tokens = some 0) := by
  refine ⟨?_, ?_⟩
  · intro hsound hfalls
    obtain ⟨pos', hend, hcall⟩ := hfalls.call
    obtain ⟨-, hcoll, page, usage, -, husage, hreport⟩ := hsound 0 pos' _ hcall hend
    rw [(noCollection hcoll).hidReport] at hreport
    obtain ⟨-, rfl⟩ : _ = page ∧ 0 = usage := by simpa using hreport
    exact ⟨hcoll, husage⟩
  · intro hcond pos pos' r hcall hend
    obtain ⟨rfl, hfalls, rfl⟩ := fallsBack_of_call hcall hend
    obtain ⟨hcoll, husage⟩ := hcond hfalls
    obtain ⟨-, hpage, hreport⟩ := noCollection hcoll
    have hfirst := firstCall d.tokens
    have hfound := (hfirst.page (hfirst.initial.mpr hfalls.1)).mpr hfalls.2.1
    obtain ⟨page, hlast⟩ := Option.isSome_iff_exists.mp (hpage ▸ hfound)
    refine ⟨rfl, hcoll, page, 0, hlast, husage, ?_⟩
    rw [hreport, hlast]
    rfl

/-- A Usage Page and a Usage. -/
def usageOnly : List Item := [Key.usagePage.byte 1, (Key.field .usage).byte 2]

/-- A Collection that is never closed, with a Usage after it. -/
def unclosed : List Item := usageOnly ++ [Key.collection.byte 1, (Key.field .usage).byte 3]

/-- The pair without a Collection is returned with the usage 0, and the unclosed
Collection is returned. -/
theorem fallback_unclosed :
    (getNextHidUsage (encode usageOnly) 0 = some ⟨.found, 4, { usagePage := 1, usage := 0 }⟩ ∧
      ¬ FallbackSound ⟨encode usageOnly, by decide⟩) ∧
    getNextHidUsage (encode unclosed) 0 = some ⟨.found, 8, { usagePage := 1, usage := 2 }⟩ ∧
      ¬ FallbackSound ⟨encode unclosed, by decide⟩ := by
  have hcall : getNextHidUsage (encode usageOnly) 0 =
      some ⟨.found, 4, { usagePage := 1, usage := 0 }⟩ := by decide
  have hcall' : getNextHidUsage (encode unclosed) 0 =
      some ⟨.found, 8, { usagePage := 1, usage := 2 }⟩ := by decide
  refine ⟨⟨hcall, ?_⟩, hcall', ?_⟩
  · intro hsound
    obtain ⟨-, -, page, usage, -, husage, hreport⟩ := hsound 0 4 _ hcall (by decide)
    rw [tokens_encode] at husage
    obtain ⟨-, rfl⟩ : 1 = page ∧ 0 = usage := by simpa using hreport
    exact absurd husage (by decide)
  · intro hsound
    obtain ⟨-, hcoll, -⟩ := hsound 0 8 _ hcall' (by decide)
    rw [tokens_encode] at hcoll
    simp [unclosed, usageOnly, Key.byte, Key.token] at hcoll

end QmkHidIdentify
