import QmkHidIdentify.Linux.Calls

/-!
# QmkHidIdentify.Linux.SafeParse

What holds of the parse of any bytes, well formed or not (`SafeParse`): reads in
bounds, data of 0, 1, 2 or 4 bytes, positions that move on but not far past the
end, and a bound on the reports. The one part that can fail is the end of the
loop of `init_reports`, which goes on after a call that returns 1.

A report needs four items: a Usage Page, a Usage, a Collection and an End
Collection, none of which counts for two reports. `Flags.seen` is the number of
them that the running call has behind it.
-/

namespace QmkHidIdentify

/-- A safe and terminating parse. -/
structure SafeParse (d : HidrawDescriptor) : Prop where
  /-- the loop of `init_reports` ends -/
  ends : ∃ result, InitReports d [] result
  /-- every call ends, and reads below `size` -/
  inBounds : ∀ pos, (getNextHidUsage d.value pos).isSome = true
  /-- where the switch calls `get_hid_report_bytes`, it asks for 0, 1, 2 or 4 bytes -/
  numBytes : ∀ pos key sz, d.value[pos]? = some key → getHidItemSize d.value pos = some sz →
    ∀ s : UsageVars, s.switchKey (key &&& 0xfc).toNat none = none → sz.dataLen ∈ [0, 1, 2, 4]
  /-- no step of the loop moves `*pos` above `size + 256` -/
  position : ∀ pos s pos' s', usageBody d.value pos s = some (.next pos' s') →
    pos' ≤ d.value.length + 256
  /-- and no call leaves it there -/
  returned : ∀ pos r, pos ≤ d.value.length + 256 → getNextHidUsage d.value pos = some r →
    r.pos ≤ d.value.length + 256
  /-- a call that returns 0 has moved on, to the end or to an End Collection -/
  progress : ∀ pos pos' r, getNextHidUsage d.value pos = some ⟨.found, pos', r⟩ →
    pos < pos' ∧ (pos' < d.value.length →
      ∃ key, d.value[pos']? = some key ∧ (key &&& 0xfc).toNat = 0xc0)
  /-- the number of reports that `init_reports` collects -/
  count : ∀ result, InitReports d [] result → result.2.length ≤ max 1 (d.value.length / 4)
  /-- and that repeated calls give -/
  countAll : ∀ ret rs, hidUsages d = some (ret, rs) → rs.length ≤ max 1 (d.value.length / 4)

/-! ### Items and positions -/

theorem numBytes_of_switchKey {rpt : List UInt8} {pos : Nat} {key : UInt8} {sz : ItemSize}
    (hkey : rpt[pos]? = some key) (hsize : getHidItemSize rpt pos = some sz) {s : UsageVars}
    (hdata : s.switchKey (key &&& 0xfc).toNat none = none) : sz.dataLen ∈ [0, 1, 2, 4] := by
  rw [itemSize_of_switchKey hkey hsize hdata]
  simpa using shortItemSize_dataLen key

theorem position_of_usageBody {rpt : List UInt8} (hsize : rpt.length ≤ HID_MAX_DESCRIPTOR_SIZE)
    {pos pos' : Nat} {s s' : UsageVars} (h : usageBody rpt pos s = some (.next pos' s')) :
    pos' ≤ rpt.length + 256 := by
  by_cases hpos : pos < rpt.length
  · rw [usageBody_eq hsize hpos, Option.some.injEq] at h
    split at h
    · cases h
    · cases h
      exact (itemSize_spec hpos).2.2.2
  · simp [usageBody, List.getElem?_eq_none (Nat.le_of_not_lt hpos)] at h

/-- A call that returns 0 has read an item. -/
theorem progress_of_call {d : HidrawDescriptor} {pos pos' : Nat} {r : HIDReport}
    (hcall : getNextHidUsage d.value pos = some ⟨.found, pos', r⟩) :
    pos < pos' ∧ (pos' < d.value.length →
      ∃ key, d.value[pos']? = some key ∧ (key &&& 0xfc).toNat = 0xc0) := by
  rcases found_cases hcall with ⟨rfl, hend, s, -, hstate, hpage, -, -⟩ | ⟨hlt, -, htoken⟩
  · refine ⟨?_, fun hin => absurd hin (Nat.not_lt.mpr hend)⟩
    by_contra hle
    -- an empty descriptor has no Usage Page
    rw [HidrawDescriptor.tokens, tokensFrom, if_neg (by omega)] at hstate
    obtain rfl : ({} : UsageVars) = s := congrArg Scan.vars hstate
    cases hpage
  · exact ⟨hlt, fun _ => key_of_endCollection htoken⟩

theorem returned_of_call {d : HidrawDescriptor} {pos : Nat} {r : NextUsage}
    (hpos : pos ≤ d.value.length + 256) (hcall : getNextHidUsage d.value pos = some r) :
    r.pos ≤ d.value.length + 256 := by
  rcases getNextHidUsage_cases d pos with
    ⟨pos', s, -, hmax, -, -, hcall'⟩ | ⟨pos', r', rs, -, hlt, -, -, hcall'⟩
  all_goals
    rw [hcall'] at hcall
    obtain rfl := Option.some.inj hcall
    dsimp only
    omega

/-! ### The number of reports -/

/-- The items of the next report that the running call has seen. -/
def Flags.seen (f : Flags) : Nat :=
  if f.ready then 3 else f.page.toNat + f.usage.toNat

theorem Flags.seen_step (f : Flags) (t : Token) : (f.step t).seen ≤ f.seen + 1 := by
  obtain ⟨initial, page, usage, collection, ready⟩ := f
  cases t with
  | field g v =>
      have hg := Bool.toNat_le (g == .usage)
      cases page <;> cases usage <;> cases ready <;> simp [step, returns, seen] <;> omega
  | _ =>
      cases page <;> cases usage <;> cases collection <;> cases ready <;>
        simp [step, returns, seen]

theorem four_mul_length_run_le (s : Scan) (ts : List Token) :
    4 * (scanner.run s ts).length ≤ ts.length + s.flags.seen := by
  induction ts generalizing s with
  | nil => simp
  | cons t ts ih =>
      rw [Transducer.run_cons, List.length_append, List.length_cons]
      cases hr : s.vars.returnsAt t with
      | true =>
          obtain ⟨-, -, hready⟩ := UsageVars.returnsAt_iff.mp hr
          have hseen : s.flags.seen = 3 := if_pos hready
          have hle := ih { initial := false }
          rw [(scanner_returns hr).1, (scanner_returns hr).2, hseen, List.length_singleton]
          rw [show (Scan.flags { initial := false }).seen = 0 from rfl] at hle
          omega
      | false =>
          have hle := ih (scanner.step s t)
          have hstep := s.flags.seen_step t
          rw [flags_step] at hle
          rw [(scanner_continues hr).2, List.length_nil]
          omega

/-- At most one report for four items, or the one of the fallback. -/
theorem length_eval_le_div (ts : List Token) :
    (scanner.eval {} ts).length ≤ max 1 (ts.length / 4) := by
  have hrun := four_mul_length_run_le {} ts
  rw [show (Scan.flags {}).seen = 0 from rfl] at hrun
  have hinitial := initial_state {} ts
  rw [Transducer.eval, List.length_append]
  cases hnil : scanner.run {} ts with
  | nil =>
      refine le_trans ?_ (le_max_left _ _)
      simp only [scanner, List.length_nil]
      split <;> simp
  | cons r rs =>
      -- after a report the call is not the first one
      rw [hnil] at hinitial hrun
      have hfinal : scanner.final (scanner.state {} ts) = [] := by
        generalize scanner.state {} ts = s at hinitial
        simp only [List.isEmpty_cons, Bool.and_false] at hinitial
        simp [scanner, hinitial]
      rw [hfinal, List.length_nil]
      omega

theorem length_tokensFrom_le (rpt : List UInt8) (pos : Nat) :
    (tokensFrom rpt pos).length ≤ rpt.length - pos := by
  fun_induction tokensFrom rpt pos with
  | case1 pos h ih =>
      have hlt := pos_lt_nextPos rpt pos
      rw [List.length_cons]
      omega
  | case2 pos h => simp

/-- **Safe and terminating parse.** All of it holds of any bytes, but for the end
of the loop of `init_reports`: that ends exactly if a Collection with a Usage
Page and a Usage is closed, or if the descriptor leaves a Usage Page and a Usage
at its end. -/
theorem safeParse_iff (d : HidrawDescriptor) :
    SafeParse d ↔ PairClosed d.tokens ∨ (PageFound d.tokens ∧ usageInScope d.tokens = true) := by
  have hcount := length_eval_le_div d.tokens
  have htokens := length_tokensFrom_le d.value 0
  have hbound : (scanner.eval {} d.tokens).length ≤ max 1 (d.value.length / 4) := by
    rw [HidrawDescriptor.tokens] at hcount ⊢
    omega
  rw [← eval_ne_nil_iff]
  refine ⟨?_, ?_⟩
  · intro hsafe
    obtain ⟨result, hends⟩ := hsafe.ends
    obtain ⟨r, rs, heval, -⟩ := (initReports_iff d [] result).mp hends
    simp [heval]
  · intro hne
    obtain ⟨r, rs, heval⟩ := List.exists_cons_of_ne_nil hne
    exact {
      ends := ⟨_, (initReports_iff d [] _).mpr ⟨r, rs, heval, rfl⟩⟩
      inBounds := getNextHidUsage_isSome d
      numBytes := fun _ _ _ hkey hsize _ hdata => numBytes_of_switchKey hkey hsize hdata
      position := fun _ _ _ _ hstep => position_of_usageBody d.size_le hstep
      returned := fun _ _ hpos hcall => returned_of_call hpos hcall
      progress := fun _ _ _ hcall => progress_of_call hcall
      count := by
        intro result hends
        obtain ⟨r, rs, -, rfl⟩ := (initReports_iff d [] result).mp hends
        simp
      countAll := by
        intro ret rs hall
        rw [hidUsages_eq] at hall
        obtain ⟨-, rfl⟩ : _ ∧ scanner.eval {} d.tokens = rs := by simpa using hall
        exact hbound }

/-- A descriptor that has only a Usage Page. -/
def pageOnly : List Item := [Key.usagePage.byte 1]

/-- The loop does not end on it. -/
theorem safeParse_pageOnly :
    (∀ result, ¬ InitReports ⟨encode pageOnly, by decide⟩ [] result) ∧
      ¬ SafeParse ⟨encode pageOnly, by decide⟩ := by
  have hnever : ∀ result, ¬ InitReports ⟨encode pageOnly, by decide⟩ [] result := by
    intro result hends
    obtain ⟨r, rs, heval, -⟩ := (initReports_encode _ _ _ _).mp hends
    rw [show scanner.eval {} (pageOnly.map Item.token) = [] from rfl] at heval
    cases heval
  refine ⟨hnever, ?_⟩
  intro hsafe
  obtain ⟨result, hends⟩ := hsafe.ends
  exact hnever result hends

end QmkHidIdentify
