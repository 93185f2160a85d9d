import QmkHidIdentify.Linux.Control

/-!
# QmkHidIdentify.Linux.Calls

One call of `get_next_hid_usage` over tokens, and what the first call remembers
in terms of the descriptor.

`usageLoop_cases` are the two ways in which the loop of a call ends: it returns
at an End Collection, or it runs off the end of the descriptor. Which of the two
the first call does, and with which flags, is a matter of the brackets and Usage
Pages that come before (`FirstCall`).
-/

namespace QmkHidIdentify

/-! ### How a call ends -/

/-- From any point of a call on, with enough fuel, the loop ends: off the end of
the descriptor, with the state after all tokens, or at an End Collection, with
the first report the scanner writes. -/
theorem usageLoop_cases {rpt : List UInt8} (hsize : rpt.length ≤ HID_MAX_DESCRIPTOR_SIZE)
    (initial : Bool) {fuel pos : Nat} (s : UsageVars) (hfuel : rpt.length < pos + fuel)
    (hf : 0 < fuel) :
    (∃ pos' s', rpt.length ≤ pos' ∧ pos ≤ pos' ∧ pos' ≤ max pos (rpt.length + 256) ∧
        scanner.run ⟨initial, s⟩ (tokensFrom rpt pos) = [] ∧
        scanner.state ⟨initial, s⟩ (tokensFrom rpt pos) = ⟨initial, s'⟩ ∧
        usageLoop rpt initial fuel pos s =
          some ⟨if initial && s'.usagePageFound && s'.tmp.hasUsage then .found else .finished,
            pos', s'.hidReport⟩) ∨
      ∃ pos' r rs, pos ≤ pos' ∧ (s.collection = false → pos < pos') ∧ pos' < rpt.length ∧
        tokenAt rpt pos' = .endCollection ∧
        scanner.run ⟨initial, s⟩ (tokensFrom rpt pos) = r :: rs ∧
        usageLoop rpt initial fuel pos s = some ⟨.found, pos', r⟩ := by
  induction fuel generalizing pos s with
  | zero => exact absurd hf (Nat.lt_irrefl 0)
  | succ fuel ih =>
      rw [tokensFrom, usageLoop]
      by_cases h : pos < rpt.length
      · rw [if_pos h, if_pos h, usageBody_eq hsize h]
        cases hr : s.returnsAt (tokenAt rpt pos) with
        | true =>
            obtain ⟨hend, hcoll, -⟩ := UsageVars.returnsAt_iff.mp hr
            rw [Transducer.run_cons, (scanner_returns (s := ⟨initial, s⟩) hr).2]
            exact .inr ⟨pos, s.hidReport, _, Nat.le_refl _, by simp [hcoll], h, hend, rfl, rfl⟩
        | false =>
            obtain ⟨hstep, hout⟩ := scanner_continues (s := ⟨initial, s⟩) hr
            have hlt := pos_lt_nextPos rpt pos
            have hnext := (itemSize_spec h).2.2.2
            rw [Transducer.run_cons, Transducer.state_cons, hstep, hout, List.nil_append]
            rcases @ih (nextPos rpt pos) (s.step (tokenAt rpt pos)) (by omega) (by omega) with
              ⟨pos', s', hend, hle, hmax, hrun, hstate, hloop⟩ | ⟨pos', r, rs, hle, -, hin⟩
            · exact .inl ⟨pos', s', hend, by omega, by omega, hrun, hstate, hloop⟩
            · exact .inr ⟨pos', r, rs, by omega, fun _ => by omega, hin⟩
      · rw [if_neg h, if_neg h]
        exact .inl ⟨pos, s, by omega, Nat.le_refl _, Nat.le_max_left _ _, rfl, rfl, rfl⟩

/-- **One call**, from any position: off the end of the descriptor it returns by
the flags it is left with; at an End Collection it has moved on. -/
theorem getNextHidUsage_cases (d : HidrawDescriptor) (pos : Nat) :
    (∃ pos' s', d.value.length ≤ pos' ∧ pos' ≤ max pos (d.value.length + 256) ∧
        scanner.run ⟨pos == 0, {}⟩ (tokensFrom d.value pos) = [] ∧
        scanner.state ⟨pos == 0, {}⟩ (tokensFrom d.value pos) = ⟨pos == 0, s'⟩ ∧
        getNextHidUsage d.value pos =
          some ⟨if pos == 0 && s'.usagePageFound && s'.tmp.hasUsage then .found else .finished,
            pos', s'.hidReport⟩) ∨
      ∃ pos' r rs, pos < pos' ∧ pos' < d.value.length ∧
        tokenAt d.value pos' = .endCollection ∧
        scanner.run ⟨pos == 0, {}⟩ (tokensFrom d.value pos) = r :: rs ∧
        getNextHidUsage d.value pos = some ⟨.found, pos', r⟩ := by
  have hfuel : d.value.length < pos + (d.value.length + 1) := by omega
  rcases usageLoop_cases d.size_le (pos == 0) {} hfuel (by omega) with
    ⟨pos', s', hend, -, hmax, hcall⟩ | ⟨pos', r, rs, -, hlt, hcall⟩
  · exact .inl ⟨pos', s', hend, hmax, hcall⟩
  · exact .inr ⟨pos', r, rs, hlt rfl, hcall⟩

/-- **A call that returns 0** has stopped at an End Collection, or it is the first
call and has come off the end with a Usage Page and a Usage found. -/
theorem found_cases {d : HidrawDescriptor} {pos pos' : Nat} {r : HIDReport}
    (hcall : getNextHidUsage d.value pos = some ⟨.found, pos', r⟩) :
    (pos = 0 ∧ d.value.length ≤ pos' ∧ ∃ s, scanner.run {} d.tokens = [] ∧
        scanner.state {} d.tokens = ⟨true, s⟩ ∧ s.usagePageFound = true ∧
        s.tmp.hasUsage = true ∧ r = s.hidReport) ∨
      (pos < pos' ∧ pos' < d.value.length ∧ tokenAt d.value pos' = .endCollection) := by
  rcases getNextHidUsage_cases d pos with
    ⟨pos'', s, hend, -, hrun, hstate, hcall'⟩ | ⟨pos'', r', rs, hlt, hin, htoken, -, hcall'⟩
  · rw [hcall'] at hcall
    simp only [Option.some.injEq, NextUsage.mk.injEq, ite_eq_left_iff, reduceCtorEq, imp_false,
      Decidable.not_not, Bool.and_eq_true, beq_iff_eq] at hcall
    obtain ⟨⟨⟨rfl, hpage⟩, husage⟩, rfl, rfl⟩ := hcall
    exact .inl ⟨rfl, hend, s, hrun, hstate, hpage, husage, rfl⟩
  · rw [hcall'] at hcall
    obtain ⟨rfl, -⟩ : pos'' = pos' ∧ r' = r := by simpa using hcall
    exact .inr ⟨hlt, hin, htoken⟩

/-- A call ends, and reads in bounds. -/
theorem getNextHidUsage_isSome (d : HidrawDescriptor) (pos : Nat) :
    (getNextHidUsage d.value pos).isSome = true := by
  rcases getNextHidUsage_cases d pos with
    ⟨pos', s', -, -, -, -, hcall⟩ | ⟨pos', r, rs, -, -, -, -, hcall⟩
  all_goals rw [hcall]; rfl

/-! ### Items that are read -/

/-- Where the switch needs the data, the item is one of those it interprets. -/
theorem UsageVars.switchKey_none {s : UsageVars} {keyCmd : Nat}
    (h : s.switchKey keyCmd none = none) (v : UInt32) : Token.ofKey keyCmd v ≠ .other := by
  unfold switchKey at h
  split at h <;> simp_all [Token.ofKey]

/-- It is then a short item. -/
theorem itemSize_of_switchKey {rpt : List UInt8} {pos : Nat} {key : UInt8} {sz : ItemSize}
    (hkey : rpt[pos]? = some key) (hsize : getHidItemSize rpt pos = some sz) {s : UsageVars}
    (hdata : s.switchKey (key &&& 0xfc).toNat none = none) : sz = shortItemSize key := by
  have hshort : key &&& 0xf0 ≠ 0xf0 :=
    fun hlong => UsageVars.switchKey_none hdata 0 (ofKey_of_long hlong 0)
  simpa [getHidItemSize, hkey, hshort] using hsize.symm

theorem Token.ofKey_eq_endCollection {keyCmd : Nat} {v : UInt32}
    (h : Token.ofKey keyCmd v = .endCollection) : keyCmd = 0xc0 := by
  unfold ofKey at h
  split at h <;> first | rfl | cases h

theorem key_of_endCollection {rpt : List UInt8} {pos : Nat}
    (h : tokenAt rpt pos = .endCollection) :
    ∃ key, rpt[pos]? = some key ∧ (key &&& 0xfc).toNat = 0xc0 := by
  unfold tokenAt at h
  split at h
  · cases h
  · next key hkey => exact ⟨key, hkey, Token.ofKey_eq_endCollection h⟩

/-! ### What the first call remembers -/

/-- The last bracket is a Collection. -/
def inCollection (ts : List Token) : Bool :=
  ts.foldl (fun c t => match t with
    | .collection => true
    | .endCollection => false
    | _ => c) false

/-- A token stands somewhere in the list, with what came before it. -/
def Occurs (P : List Token → Token → Prop) (ts : List Token) : Prop :=
  ∃ before t after, ts = before ++ t :: after ∧ P before t

/-- There is a Usage Page outside collections. -/
def PageFound (ts : List Token) : Prop :=
  Occurs (fun before t => inCollection before = false ∧ ∃ v, t = .usagePage v) ts

/-- A Collection with a Usage Page found and a Usage in scope has not been
closed. -/
def PairReady (ts : List Token) : Prop :=
  ∃ before after, ts = before ++ .collection :: after ∧ .endCollection ∉ after ∧
    PageFound before ∧ usageInScope before = true

/-- Such a Collection has been closed. -/
def PairClosed (ts : List Token) : Prop :=
  Occurs (fun before t => t = .endCollection ∧ PairReady before) ts

theorem inCollection_snoc (ts : List Token) (t : Token) :
    inCollection (ts ++ [t]) = match t with
      | .collection => true
      | .endCollection => false
      | _ => inCollection ts := by
  simp [inCollection]

/-- Where an element of `xs ++ [x]` stands. -/
theorem snoc_eq_append_cons {α : Type*} {xs ys zs : List α} {x y : α} :
    xs ++ [x] = ys ++ y :: zs ↔
      (zs = [] ∧ xs = ys ∧ x = y) ∨ ∃ ws, zs = ws ++ [x] ∧ xs = ys ++ y :: ws := by
  rcases List.eq_nil_or_concat zs with rfl | ⟨ws, z, rfl⟩
  · simp
  · rw [List.concat_eq_append, ← List.cons_append, ← List.append_assoc, List.append_singleton_inj]
    refine ⟨?_, ?_⟩
    · intro h
      obtain ⟨hxs, rfl⟩ := h
      exact .inr ⟨ws, rfl, hxs⟩
    · intro h
      obtain ⟨hnil, -⟩ | ⟨ws', hws, hxs⟩ := h
      · simp at hnil
      · obtain ⟨rfl, rfl⟩ := List.append_singleton_inj.mp hws
        exact ⟨hxs, rfl⟩

theorem occurs_snoc {P : List Token → Token → Prop} (ts : List Token) (t : Token) :
    Occurs P (ts ++ [t]) ↔ Occurs P ts ∨ P ts t := by
  refine ⟨?_, ?_⟩
  · intro h
    obtain ⟨before, x, after, heq, hp⟩ := h
    obtain ⟨-, rfl, rfl⟩ | ⟨after, -, rfl⟩ := snoc_eq_append_cons.mp heq
    · exact .inr hp
    · exact .inl ⟨before, x, after, rfl, hp⟩
  · intro h
    rcases h with ⟨before, x, after, rfl, hp⟩ | hp
    · exact ⟨before, x, after ++ [t], by simp, hp⟩
    · exact ⟨ts, t, [], rfl, hp⟩

theorem pageFound_snoc (ts : List Token) (t : Token) :
    PageFound (ts ++ [t]) ↔ PageFound ts ∨ (inCollection ts = false ∧ ∃ v, t = .usagePage v) :=
  occurs_snoc ts t

theorem pairClosed_snoc (ts : List Token) (t : Token) :
    PairClosed (ts ++ [t]) ↔ PairClosed ts ∨ (t = .endCollection ∧ PairReady ts) :=
  occurs_snoc ts t

theorem pairReady_snoc (ts : List Token) (t : Token) :
    PairReady (ts ++ [t]) ↔ (t ≠ .endCollection ∧ PairReady ts) ∨
      (t = .collection ∧ PageFound ts ∧ usageInScope ts = true) := by
  refine ⟨?_, ?_⟩
  · intro h
    obtain ⟨before, after, heq, hopen, hpair⟩ := h
    obtain ⟨-, rfl, rfl⟩ | ⟨after, rfl, rfl⟩ := snoc_eq_append_cons.mp heq
    · exact .inr ⟨rfl, hpair⟩
    · rw [List.mem_append, not_or] at hopen
      exact .inl ⟨fun he => hopen.2 (by simp [he]), before, after, rfl, hopen.1, hpair⟩
  · intro h
    rcases h with ⟨hne, before, after, rfl, hopen, hpair⟩ | ⟨rfl, hpair⟩
    · exact ⟨before, after ++ [t], by simp, by simp [hopen, Ne.symm hne], hpair⟩
    · exact ⟨ts, [], rfl, by simp, hpair⟩

/-- The first call goes on until a pair is closed; its flags are facts about the
descriptor. -/
structure FirstCall (ts : List Token) (s : Scan) : Prop where
  scan : ScanInv ts s
  initial : s.initial = true ↔ ¬ PairClosed ts
  collection : s.vars.collection = inCollection ts
  page : s.initial = true → (s.vars.usagePageFound = true ↔ PageFound ts)
  ready : s.initial = true → (s.vars.usagePairReady = true ↔ PairReady ts)

/-- A step that does not end the call. -/
theorem FirstCall.continues {ts : List Token} {s : Scan} (h : FirstCall ts s) {t : Token}
    (hr : s.vars.returnsAt t = false) : FirstCall (ts ++ [t]) ⟨s.initial, s.vars.step t⟩ := by
  have hscan := h.scan.step t
  rw [(scanner_continues hr).1] at hscan
  refine ⟨hscan, ?_, ?_, ?_, ?_⟩
  · rw [pairClosed_snoc, not_or, ← h.initial]
    refine ⟨?_, And.left⟩
    intro hinitial
    refine ⟨hinitial, ?_⟩
    intro hclosed
    obtain ⟨rfl, hready⟩ := hclosed
    -- with a pair ready the call would have returned
    have hpair := (h.ready hinitial).mpr hready
    rw [UsageVars.returnsAt_iff.mpr ⟨rfl, h.scan.ready hpair, hpair⟩] at hr
    cases hr
  · cases t <;> simp only [inCollection_snoc, UsageVars.step_collection, h.collection]
  · intro hinitial
    rw [UsageVars.step_usagePageFound, pageFound_snoc, ← h.page hinitial, ← h.collection]
    cases t <;> simp
  · intro hinitial
    rw [UsageVars.step_usagePairReady, pairReady_snoc, ← h.page hinitial, ← h.ready hinitial,
      ← h.scan.usage]
    cases t <;> simp

theorem FirstCall.step {ts : List Token} {s : Scan} (h : FirstCall ts s) (t : Token) :
    FirstCall (ts ++ [t]) (scanner.step s t) := by
  cases hr : s.vars.returnsAt t with
  | true =>
      obtain ⟨rfl, -, hpair⟩ := UsageVars.returnsAt_iff.mp hr
      have hscan := h.scan.step .endCollection
      have hclosed : PairClosed (ts ++ [.endCollection]) := by
        rw [pairClosed_snoc]
        by_cases hc : PairClosed ts
        · exact .inl hc
        · exact .inr ⟨rfl, (h.ready (h.initial.mpr hc)).mp hpair⟩
      rw [(scanner_returns hr).1] at hscan ⊢
      exact ⟨hscan, by simpa using hclosed, by simp [inCollection_snoc], by simp, by simp⟩
  | false =>
      rw [(scanner_continues hr).1]
      exact h.continues hr

theorem firstCall (ts : List Token) : FirstCall ts (scanner.state {} ts) := by
  refine Transducer.state_history ?_ (fun ts t s h => h.step t) ts
  refine ⟨scanInv [], ?_, rfl, ?_, ?_⟩
  · simp [PairClosed, Occurs]
  · simp [PageFound, Occurs]
  · simp [PairReady]

/-- The first call writes its report at an End Collection exactly if a pair is
closed. -/
theorem run_eq_nil_iff (ts : List Token) : scanner.run {} ts = [] ↔ ¬ PairClosed ts := by
  rw [← (firstCall ts).initial, initial_state, Bool.true_and, List.isEmpty_iff]

/-- Repeated calls find a report exactly if a pair is closed, or if there is a
Usage Page outside collections and a Usage in scope at the end. -/
theorem eval_ne_nil_iff (ts : List Token) :
    scanner.eval {} ts ≠ [] ↔ PairClosed ts ∨ (PageFound ts ∧ usageInScope ts = true) := by
  have hfirst := firstCall ts
  rw [Transducer.eval, ne_eq, List.append_eq_nil_iff, not_and_or, run_eq_nil_iff, not_not]
  by_cases hc : PairClosed ts
  · simp [hc]
  · have hinitial := hfirst.initial.mpr hc
    rw [← hfirst.page hinitial, ← hfirst.scan.usage]
    generalize scanner.state {} ts = s at hinitial
    simp [hc, scanner, hinitial]

end QmkHidIdentify
