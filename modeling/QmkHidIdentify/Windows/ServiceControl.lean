import Mathlib.Order.Monotone.Basic
import QmkHidIdentify.Windows.Win32

/-!
# QmkHidIdentify.Windows.ServiceControl

`wait_service_status` of `windows/service-control.cc`: polling the status of the
service until it leaves a pending state, or until its check point has not
changed for longer than the hint it gave.

The polls are numbered from the one before the loop. True time is a natural
number of milliseconds at each poll, and `GetTickCount` is that number modulo
`2 ^ 32`. What is left out: the messages, but for whether the loop gave up.
-/

namespace QmkHidIdentify

/-- What `wait_service_status` reads of a `SERVICE_STATUS_PROCESS`. -/
structure ServiceStatusProcess where
  currentState : UInt32
  checkPoint : UInt32
  waitHint : UInt32
  deriving DecidableEq, Repr

/-- What the system answers at each poll: to the query, and for the time. -/
structure StatusPolls where
  query : Nat → SizedCalls ServiceStatusProcess
  time : Nat → Nat

/-- `query_service_status`; `none` is its exception. -/
def queryServiceStatus (c : SizedCalls ServiceStatusProcess) : Option ServiceStatusProcess :=
  (makeSized c).map (·.data)

/-- `GetTickCount`. -/
def getTickCount (time : Nat) : UInt32 := .ofNat time

/-- How `wait_service_status` ends. -/
inductive WaitOutcome
  | returned (status : ServiceStatusProcess) (timeout : Bool)
  | thrown
  deriving DecidableEq, Repr

/-- The variables of the loop. -/
structure WaitVars where
  status : ServiceStatusProcess
  startTimeMs : UInt32
  checkPoint : UInt32
  waitHintMs : UInt32

/-- The `while` loop, after a poll. -/
def waitLoop (p : StatusPolls) (pendingState : UInt32) : Nat → Nat → WaitVars → Option WaitOutcome
  | 0, _, _ => none
  | fuel + 1, n, v =>
      if v.status.currentState = pendingState then
        match queryServiceStatus (p.query (n + 1)) with
        | none => some .thrown
        | some status =>
            if status.checkPoint ≠ v.checkPoint then
              waitLoop p pendingState fuel (n + 1)
                ⟨status, getTickCount (p.time (n + 1)), status.checkPoint, status.waitHint⟩
            else if status.currentState = pendingState then
              if getTickCount (p.time (n + 1)) - v.startTimeMs > v.waitHintMs then
                some (.returned status true)
              else waitLoop p pendingState fuel (n + 1) { v with status := status }
            else waitLoop p pendingState fuel (n + 1) { v with status := status }
      else some (.returned v.status false)

/-- `wait_service_status` ends in this way. -/
def WaitServiceStatus (p : StatusPolls) (pendingState : UInt32) (outcome : WaitOutcome) : Prop :=
  match queryServiceStatus (p.query 0) with
  | none => outcome = .thrown
  | some status =>
      ∃ fuel, waitLoop p pendingState fuel 0
        ⟨status, getTickCount (p.time 0), status.checkPoint, status.waitHint⟩ = some outcome

/-! ### The snapshots -/

section Snapshots

variable (p : StatusPolls) (snaps : Nat → ServiceStatusProcess)

/-- The poll at which the check point last changed, or the first one. -/
def lastChange : Nat → Nat
  | 0 => 0
  | n + 1 => if (snaps (n + 1)).checkPoint ≠ (snaps n).checkPoint then n + 1 else lastChange n

/-- The hint that was reported with the check point. -/
def hintAt (n : Nat) : Nat := (snaps (lastChange snaps n)).waitHint.toNat

/-- The true time since the check point changed. -/
def elapsed (n : Nat) : Nat := p.time n - p.time (lastChange snaps n)

/-- The state is not the pending one, or the hint has been exceeded. -/
def WaitEnds (pendingState : UInt32) (n : Nat) : Prop :=
  (snaps n).currentState ≠ pendingState ∨ hintAt snaps n < elapsed p snaps n

/-- The queries give these snapshots; time goes on by at most `gap` from poll to
poll, and no hint comes within `gap` of `2 ^ 32`. -/
structure Polled (gap : Nat) : Prop where
  snapshots : ∀ n, queryServiceStatus (p.query n) = some (snaps n)
  monotone : ∀ n, p.time n ≤ p.time (n + 1)
  polls : ∀ n, p.time (n + 1) ≤ p.time n + gap
  range : ∀ n, hintAt snaps n + gap < 2 ^ 32

end Snapshots

/-- The difference of two tick counts is the time between them, wherever the
counter wraps. -/
theorem getTickCount_sub {start now : Nat} (hle : start ≤ now) (hlt : now - start < 2 ^ 32) :
    (getTickCount now - getTickCount start).toNat = now - start := by
  simp only [getTickCount, UInt32.toNat_sub, UInt32.toNat_ofNat']
  omega

section Polled

variable {p : StatusPolls} {snaps : Nat → ServiceStatusProcess} {gap : Nat} {pendingState : UInt32}

theorem lastChange_le (n : Nat) : lastChange snaps n ≤ n := by
  induction n with
  | zero => exact Nat.le_refl 0
  | succ n ih =>
      rw [lastChange]
      split <;> omega

theorem Polled.time_le (h : Polled p snaps gap) {m n : Nat} (hle : m ≤ n) : p.time m ≤ p.time n :=
  monotone_nat_of_le_succ h.monotone hle

theorem lastChange_changed {n : Nat} (h : (snaps (n + 1)).checkPoint ≠ (snaps n).checkPoint) :
    lastChange snaps (n + 1) = n + 1 := if_pos h

theorem lastChange_same {n : Nat} (h : (snaps (n + 1)).checkPoint = (snaps n).checkPoint) :
    lastChange snaps (n + 1) = lastChange snaps n := if_neg (not_not_intro h)

@[simp] theorem elapsed_zero : elapsed p snaps 0 = 0 := Nat.sub_self _

theorem elapsed_changed {n : Nat} (h : (snaps (n + 1)).checkPoint ≠ (snaps n).checkPoint) :
    elapsed p snaps (n + 1) = 0 := by
  rw [elapsed, lastChange_changed h, Nat.sub_self]

/-- From poll to poll the time since the check point changed grows by at most
`gap`. -/
theorem Polled.elapsed_succ_le (h : Polled p snaps gap) (n : Nat) :
    elapsed p snaps (n + 1) ≤ elapsed p snaps n + gap := by
  by_cases hsame : (snaps (n + 1)).checkPoint = (snaps n).checkPoint
  · have hpolls := h.polls n
    rw [elapsed, elapsed, lastChange_same hsame]
    omega
  · rw [elapsed_changed hsame]
    exact Nat.zero_le _

/-- The variables of the loop after a poll. -/
def varsAt (p : StatusPolls) (snaps : Nat → ServiceStatusProcess) (n : Nat) : WaitVars where
  status := snaps n
  startTimeMs := getTickCount (p.time (lastChange snaps n))
  checkPoint := (snaps n).checkPoint
  waitHintMs := (snaps (lastChange snaps n)).waitHint

/-- How the wait ends at a poll. -/
def outcomeAt (snaps : Nat → ServiceStatusProcess) (pendingState : UInt32) (n : Nat) :
    WaitOutcome :=
  .returned (snaps n) (decide ((snaps n).currentState = pendingState))

/-- The comparison with the hint is the one of the true time. -/
theorem Polled.timeout_iff (h : Polled p snaps gap) {n : Nat}
    (hbefore : elapsed p snaps n ≤ hintAt snaps n)
    (hsame : (snaps (n + 1)).checkPoint = (snaps n).checkPoint) :
    getTickCount (p.time (n + 1)) - (varsAt p snaps n).startTimeMs > (varsAt p snaps n).waitHintMs ↔
      hintAt snaps (n + 1) < elapsed p snaps (n + 1) := by
  have helapsed := h.elapsed_succ_le n
  have hrange := h.range n
  have hle : p.time (lastChange snaps n) ≤ p.time (n + 1) :=
    h.time_le (Nat.le_trans (lastChange_le n) (Nat.le_succ n))
  have hsub := getTickCount_sub hle
  simp only [hintAt, elapsed, lastChange_same hsame] at helapsed hbefore hrange hsub ⊢
  rw [gt_iff_lt, UInt32.lt_iff_toNat_lt, varsAt, hsub (by omega)]

/-- The loop has not given up at this poll. -/
def Within (p : StatusPolls) (snaps : Nat → ServiceStatusProcess) (pendingState : UInt32)
    (n : Nat) : Prop :=
  (snaps n).currentState = pendingState → elapsed p snaps n ≤ hintAt snaps n

/-- A pending poll within the hint does not end the wait. -/
theorem Within.not_ends {n : Nat} (h : Within p snaps pendingState n)
    (hpending : (snaps n).currentState = pendingState) : ¬ WaitEnds p snaps pendingState n := by
  rw [WaitEnds, not_or]
  exact ⟨not_not_intro hpending, Nat.not_lt.mpr (h hpending)⟩

theorem within_of_not_timeout {n : Nat}
    (h : ¬ ((snaps n).currentState = pendingState ∧ hintAt snaps n < elapsed p snaps n)) :
    Within p snaps pendingState n :=
  fun hpending => Nat.le_of_not_lt fun hlt => h ⟨hpending, hlt⟩

/-- One iteration of the loop: it ends at this poll, it gives up at the next one,
or it goes on from there. -/
theorem Polled.waitLoop_succ (h : Polled p snaps gap) {n : Nat}
    (hwithin : Within p snaps pendingState n) (fuel : Nat) :
    waitLoop p pendingState (fuel + 1) n (varsAt p snaps n) =
      if (snaps n).currentState = pendingState then
        if (snaps (n + 1)).currentState = pendingState ∧
            hintAt snaps (n + 1) < elapsed p snaps (n + 1) then
          some (outcomeAt snaps pendingState (n + 1))
        else waitLoop p pendingState fuel (n + 1) (varsAt p snaps (n + 1))
      else some (outcomeAt snaps pendingState n) := by
  rw [waitLoop, show (varsAt p snaps n).status = snaps n from rfl,
    show (varsAt p snaps n).checkPoint = (snaps n).checkPoint from rfl]
  by_cases hpending : (snaps n).currentState = pendingState
  · rw [if_pos hpending, if_pos hpending, h.snapshots]
    dsimp only
    by_cases hsame : (snaps (n + 1)).checkPoint = (snaps n).checkPoint
    · have hnext : ⟨snaps (n + 1), (varsAt p snaps n).startTimeMs, (snaps n).checkPoint,
          (varsAt p snaps n).waitHintMs⟩ = varsAt p snaps (n + 1) := by
        simp [varsAt, lastChange_same hsame, hsame]
      rw [if_neg (not_not_intro hsame), hnext]
      simp only [h.timeout_iff (hwithin hpending) hsame]
      by_cases hpending' : (snaps (n + 1)).currentState = pendingState
      · simp [hpending', outcomeAt]
      · simp [hpending']
    · have hnext : varsAt p snaps (n + 1) = ⟨snaps (n + 1), getTickCount (p.time (n + 1)),
          (snaps (n + 1)).checkPoint, (snaps (n + 1)).waitHint⟩ := by
        simp [varsAt, lastChange_changed hsame]
      rw [if_pos hsame, elapsed_changed hsame, hnext, if_neg (by simp)]
  · rw [if_neg hpending, if_neg hpending, outcomeAt, decide_eq_false hpending]

/-- The loop ends only where the wait does, and with its outcome. -/
theorem Polled.of_waitLoop (h : Polled p snaps gap) {fuel n : Nat} {outcome : WaitOutcome}
    (hwithin : Within p snaps pendingState n)
    (hloop : waitLoop p pendingState fuel n (varsAt p snaps n) = some outcome) :
    ∃ k, (∀ m, n ≤ m → m < k → ¬ WaitEnds p snaps pendingState m) ∧
      WaitEnds p snaps pendingState k ∧ outcome = outcomeAt snaps pendingState k := by
  induction fuel generalizing n with
  | zero => cases hloop
  | succ fuel ih =>
      rw [h.waitLoop_succ hwithin] at hloop
      by_cases hpending : (snaps n).currentState = pendingState
      · rw [if_pos hpending] at hloop
        have hfirst : ∀ m, n ≤ m → m < n + 1 → ¬ WaitEnds p snaps pendingState m := by
          intro m hle hlt
          obtain rfl : m = n := by omega
          exact hwithin.not_ends hpending
        split at hloop
        · next htimeout => exact ⟨n + 1, hfirst, .inr htimeout.2, (Option.some.inj hloop).symm⟩
        · next hgoes =>
            obtain ⟨k, hbefore, hends, houtcome⟩ := ih (within_of_not_timeout hgoes) hloop
            refine ⟨k, ?_, hends, houtcome⟩
            intro m hle hlt
            by_cases hm : m < n + 1
            · exact hfirst m hle hm
            · exact hbefore m (by omega) hlt
      · rw [if_neg hpending] at hloop
        exact ⟨n, by omega, .inl hpending, (Option.some.inj hloop).symm⟩

/-- Where the wait ends, the loop does. -/
theorem Polled.waitLoop_of_ends (h : Polled p snaps gap) {n d : Nat}
    (hwithin : Within p snaps pendingState n)
    (hbefore : ∀ m, n ≤ m → m < n + d → ¬ WaitEnds p snaps pendingState m)
    (hends : WaitEnds p snaps pendingState (n + d)) :
    waitLoop p pendingState (d + 1) n (varsAt p snaps n) =
      some (outcomeAt snaps pendingState (n + d)) := by
  induction d generalizing n with
  | zero =>
      have hpending : (snaps n).currentState ≠ pendingState :=
        fun hpending => hwithin.not_ends hpending hends
      rw [h.waitLoop_succ hwithin, if_neg hpending]
      rfl
  | succ d ih =>
      have hnot := hbefore n (Nat.le_refl n) (by omega)
      simp only [WaitEnds, not_or, not_not] at hnot
      rw [h.waitLoop_succ hwithin, if_pos hnot.1]
      split
      · next htimeout =>
          cases d with
          | zero => rfl
          | succ d => exact absurd (.inr htimeout.2) (hbefore (n + 1) (by omega) (by omega))
      · next hgoes =>
          have hshift : n + (d + 1) = n + 1 + d := by omega
          rw [hshift] at hbefore hends ⊢
          exact ih (within_of_not_timeout hgoes) (fun m hle hlt => hbefore m (by omega) hlt) hends

/-- **The wait with a wrapping clock.** It ends at the first poll at which the
state is not the pending one, or at which the true time since the last change of
the check point exceeds the hint given with it, and returns that snapshot; up to
there this time never exceeds the hint by more than the time between two
polls. -/
theorem waitServiceStatus_iff (h : Polled p snaps gap) :
    (∀ outcome, WaitServiceStatus p pendingState outcome ↔
      ∃ n, (∀ m < n, ¬ WaitEnds p snaps pendingState m) ∧ WaitEnds p snaps pendingState n ∧
        outcome = outcomeAt snaps pendingState n) ∧
    ∀ n, (∀ m < n, ¬ WaitEnds p snaps pendingState m) →
      elapsed p snaps n ≤ hintAt snaps n + gap := by
  have hstart : Within p snaps pendingState 0 := by simp [Within]
  refine ⟨?_, ?_⟩
  · intro outcome
    rw [WaitServiceStatus, h.snapshots 0]
    refine ⟨?_, ?_⟩
    · intro hreturns
      obtain ⟨fuel, hloop⟩ := hreturns
      obtain ⟨n, hbefore, hends, houtcome⟩ := h.of_waitLoop hstart hloop
      exact ⟨n, fun m hlt => hbefore m (Nat.zero_le m) hlt, hends, houtcome⟩
    · intro hwait
      obtain ⟨n, hbefore, hends, rfl⟩ := hwait
      rw [← Nat.zero_add n] at hbefore hends ⊢
      exact ⟨n + 1, h.waitLoop_of_ends hstart (fun m _ hlt => hbefore m hlt) hends⟩
  · intro n hbefore
    cases n with
    | zero => simp
    | succ n =>
        have hnot := hbefore n (Nat.lt_succ_self n)
        simp only [WaitEnds, not_or, Nat.not_lt] at hnot
        by_cases hsame : (snaps (n + 1)).checkPoint = (snaps n).checkPoint
        · have helapsed := h.elapsed_succ_le n
          rw [hintAt, lastChange_same hsame, ← hintAt]
          omega
        · rw [elapsed_changed hsame]
          exact Nat.zero_le _

end Polled

/-- A service that stays in the state 2, with a hint of 250 ms. -/
def stuckStatus : ServiceStatusProcess := ⟨2, 1, 250⟩

/-- It is polled every 100 ms, and the tick counter wraps after the second
poll. -/
def stuckPolls : StatusPolls where
  query _ := ⟨false, true, 36, true, some stuckStatus⟩
  time n := 2 ^ 32 - 150 + 100 * n

/-- The wait gives up after 300 ms. -/
theorem waitServiceStatus_stuck :
    WaitServiceStatus stuckPolls 2 (.returned stuckStatus true) ∧
      elapsed stuckPolls (fun _ => stuckStatus) 3 = 300 := by
  have hlast : ∀ n, lastChange (fun _ => stuckStatus) n = 0 := by
    intro n
    induction n with
    | zero => rfl
    | succ n ih => rw [lastChange_same rfl, ih]
  have hhint : ∀ n, hintAt (fun _ => stuckStatus) n = 250 := fun _ => rfl
  have helapsed : ∀ n, elapsed stuckPolls (fun _ => stuckStatus) n = 100 * n := by
    intro n
    simp only [elapsed, hlast, stuckPolls]
    omega
  have hpolled : Polled stuckPolls (fun _ => stuckStatus) 100 := by
    refine ⟨fun _ => rfl, ?_, ?_, ?_⟩
    · intro n
      simp only [stuckPolls]
      omega
    · intro n
      simp only [stuckPolls]
      omega
    · intro n
      rw [hhint]
      omega
  refine ⟨((waitServiceStatus_iff hpolled).1 _).mpr ⟨3, ?_, ?_, rfl⟩, helapsed 3⟩
  · intro m hm
    simp only [WaitEnds, hhint, helapsed, not_or]
    exact ⟨not_not_intro rfl, by omega⟩
  · simp [WaitEnds, hhint, helapsed]

end QmkHidIdentify
