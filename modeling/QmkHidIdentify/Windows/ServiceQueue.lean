import QmkHidIdentify.Windows.Service

/-!
# QmkHidIdentify.Windows.ServiceQueue

The queue of devices between the callbacks and the main thread. Emptiness is
decided when a device is popped, and acted on after `devices_mutex_` was
released and the device identified; the invariant `QueueInv` follows that
decision: as long as the main thread takes the queue for empty, a device in it
comes with `device_event_` signalled, or with a callback about to signal it.

`queue_served` combines what the invariants say about the order of the paths and
about the wait.
-/

namespace QmkHidIdentify

/-- The device taken off the queue that is not identified yet. -/
def MainPc.current {α : Type} : MainPc α → List α
  | .unlockDevice device _ | .identify device _ => [device]
  | _ => []

/-- The main thread has found the queue empty and not looked again. -/
def MainPc.believesEmpty {α : Type} : MainPc α → Bool
  | .unlockEmpty | .unlockDevice _ true | .identify _ true | .wait true => true
  | _ => false

/-- `device_event_` has been created. -/
def MainPc.hasDeviceEvent {α : Type} : MainPc α → Bool
  | .registerHandler | .startPending | .createStop | .createPower | .createDevice => false
  | .reportStopped _ | .rethrow | .returned | .dead => false
  | _ => true

/-- The main thread holds `devices_mutex_`. -/
def MainPc.inCritical {α : Type} : MainPc α → Bool
  | .push _ _ | .unlockQueue _ | .pop | .unlockEmpty | .unlockDevice _ _ => true
  | _ => false

/-- The callback holds `devices_mutex_`. -/
def HandlerPc.inCritical {α : Type} : HandlerPc α → Bool
  | .arrivePush _ | .arriveSignal | .arriveUnlock => true
  | _ => false

namespace Service

variable {ι α : Type} {s s' : Service ι α}

/-! ### What the main thread keeps -/

/-- Identified, in work and queued, these are the paths that were queued. -/
def Conserved (s : Service ι α) : Prop :=
  s.identified ++ s.main.current ++ s.devices = s.pushed

theorem Conserved.mainStep (h : Conserved s) (hstep : MainStep s s') : Conserved s' := by
  unfold Conserved at h ⊢
  cases hstep with
  | push c device hpc => simp [enqueue, MainPc.current, ← h, hpc]
  | popDevice device devices hpc front => simpa [MainPc.current, hpc, front] using h
  | identify device empty hpc => simpa [MainPc.current, hpc] using h
  | acquireQueueTimeout c device hpc => cases c <;> simpa [MainPc.current, hpc] using h
  | startPending hpc | running hpc | stopped hpc | failed hpc =>
      simpa [MainPc.current, report, hpc] using h
  | _ => simp_all [MainPc.current]

/-- `devices_mutex_` belongs to the thread in its critical section. -/
structure LockInv (s : Service ι α) : Prop where
  main : s.main.inCritical = true ↔ s.lock = some .main
  handler : ∀ i, (s.handler i).inCritical = true ↔ s.lock = some (.handler i)

theorem LockInv.mainStep (h : LockInv s) (hstep : MainStep s s') : LockInv s' := by
  obtain ⟨hmain, hhandler⟩ := h
  cases hstep with
  | acquireQueueTimeout c device hpc =>
      refine ⟨?_, hhandler⟩
      cases c <;> simp_all [MainPc.inCritical]
  | _ => constructor <;> simp_all [MainPc.inCritical, report, enqueue]

/-- A device in a queue that the main thread takes for empty is announced. -/
structure WakeInv (s : Service ι α) : Prop where
  created : s.main.hasDeviceEvent = true → s.handles.deviceEvent = true
  wake : s.main.believesEmpty = true → s.devices ≠ [] →
    s.deviceSet = true ∨ ∃ i, s.handler i = .arriveSignal

theorem believesEmpty_hasDeviceEvent {pc : MainPc α} (h : pc.believesEmpty = true) :
    pc.hasDeviceEvent = true := by
  unfold MainPc.believesEmpty at h
  split at h <;> first | rfl | cases h

theorem WakeInv.mainStep (h : WakeInv s) (hstep : MainStep s s') : WakeInv s' := by
  obtain ⟨hcreated, hwake⟩ := h
  cases hstep with
  | acquireQueueTimeout c device hpc =>
      cases c <;> constructor <;> simp_all [MainPc.hasDeviceEvent, MainPc.believesEmpty]
  | identify device empty hpc =>
      rw [hpc] at hcreated hwake
      refine ⟨hcreated, fun hempty => hwake ?_⟩
      cases empty <;> exact hempty
  | unlockDevice device empty hpc =>
      rw [hpc] at hcreated hwake
      refine ⟨hcreated, fun hempty => hwake ?_⟩
      cases empty <;> exact hempty
  | popDevice device devices hpc front =>
      -- the queue is empty where the thread starts to believe it
      rw [hpc] at hcreated
      refine ⟨hcreated, ?_⟩
      intro hempty hne
      cases devices with
      | nil => exact absurd rfl hne
      | cons d ds => cases hempty
  | _ => constructor <;> simp_all [MainPc.hasDeviceEvent, MainPc.believesEmpty, report, enqueue]

/-! ### What a callback keeps -/

section Handler

variable [DecidableEq ι] {deliver : Service ι α → Control α → Prop} {i : ι}

theorem Conserved.handlerStep (h : Conserved s) (hstep : HandlerStep deliver i s s') :
    Conserved s' := by
  unfold Conserved at h ⊢
  cases hstep with
  | arrivePush device hpc => simp [enqueue, ← h]
  | _ => exact h

/-- What an action of a callback does to the lock: nothing, take it, or give it
back. -/
theorem HandlerStep.lock_cases (hstep : HandlerStep deliver i s s') :
    s'.main = s.main ∧ (∀ j, j ≠ i → s'.handler j = s.handler j) ∧
      (s'.lock = s.lock ∧ (s'.handler i).inCritical = (s.handler i).inCritical ∨
        s.lock = none ∧ s'.lock = some (.handler i) ∧ (s'.handler i).inCritical = true ∨
        (s.handler i).inCritical = true ∧ s'.lock = none ∧
          (s'.handler i).inCritical = false) := by
  refine ⟨by cases hstep <;> rfl, ?_, ?_⟩
  · intro j hj
    cases hstep <;> simp [goto_handler, hj, report, enqueue]
  · cases hstep with
    | control c hpc _ =>
        refine .inl ⟨rfl, ?_⟩
        rw [goto_handler, if_pos rfl, hpc]
        cases c <;> rfl
    | arriveAcquire device hpc _ free =>
        exact .inr (.inl ⟨free, rfl, by simp [goto_handler, HandlerPc.inCritical]⟩)
    | arriveUnlock hpc =>
        exact .inr (.inr ⟨by rw [hpc]; rfl, rfl, by simp [goto_handler, HandlerPc.inCritical]⟩)
    | _ =>
        refine .inl ⟨rfl, ?_⟩
        rw [goto_handler, if_pos rfl]
        simp [HandlerPc.inCritical, *]

theorem LockInv.handlerStep (h : LockInv s) (hstep : HandlerStep deliver i s s') :
    LockInv s' := by
  obtain ⟨hmain, hother, hlock⟩ := hstep.lock_cases
  have hi := h.handler i
  refine ⟨?_, ?_⟩
  · rw [hmain, h.main]
    rcases hlock with ⟨hl, -⟩ | ⟨hfree, hl, -⟩ | ⟨hheld, hl, -⟩
    · rw [hl]
    · simp [hfree, hl]
    · simp [hl, hi.mp hheld]
  · intro j
    by_cases hj : j = i
    · subst hj
      rcases hlock with ⟨hl, hc⟩ | ⟨-, hl, hc⟩ | ⟨-, hl, hc⟩
      · rw [hl, hc, hi]
      · simp [hl, hc]
      · simp [hl, hc]
    · rw [hother j hj, h.handler]
      rcases hlock with ⟨hl, -⟩ | ⟨hfree, hl, -⟩ | ⟨hheld, hl, -⟩
      · rw [hl]
      · simp [hfree, hl, Ne.symm hj]
      · simp [hl, hi.mp hheld, Ne.symm hj]

/-- A callback pushes before it signals, and signals before it ends. -/
theorem WakeInv.handlerStep (h : WakeInv s) (hstep : HandlerStep deliver i s s') :
    WakeInv s' := by
  obtain ⟨hcreated, hwake⟩ := h
  obtain ⟨hmain, hother, -⟩ := hstep.lock_cases
  have hhandles : s'.handles = s.handles := by cases hstep <;> rfl
  refine ⟨by rw [hmain, hhandles]; exact hcreated, ?_⟩
  rw [hmain]
  intro hempty hne
  cases hstep with
  | arrivePush device hpc => exact .inr ⟨i, by simp [goto_handler]⟩
  | arriveSignal hpc =>
      have := hcreated (believesEmpty_hasDeviceEvent hempty)
      exact .inl (by simp [this])
  | _ =>
      refine (hwake hempty hne).imp_right fun ⟨j, hj⟩ => ⟨j, ?_⟩
      have hne : j ≠ i := by
        intro he
        simp_all
      rw [hother j hne, hj]

end Handler

/-! ### Every run -/

/-- The invariants of the queue. -/
structure QueueInv (s : Service ι α) : Prop where
  conserved : Conserved s
  lock : LockInv s
  wake : WakeInv s

theorem QueueInv.init : QueueInv ({} : Service ι α) := by
  refine ⟨rfl, ⟨by simp [MainPc.inCritical], by simp [HandlerPc.inCritical]⟩, ?_⟩
  constructor <;> simp [MainPc.hasDeviceEvent]

theorem QueueInv.of_reachable [DecidableEq ι] {deliver : Service ι α → Control α → Prop}
    (h : (service deliver).Reachable s) : QueueInv s := by
  refine h.invariant ?_ ?_
  · intro s hinit
    rw [show s = {} from hinit]
    exact .init
  · intro s s' _ hinv hstep
    obtain ⟨-, hmain | ⟨i, hhandler⟩⟩ := hstep
    · exact ⟨hinv.conserved.mainStep hmain, hinv.lock.mainStep hmain, hinv.wake.mainStep hmain⟩
    · exact ⟨hinv.conserved.handlerStep hhandler, hinv.lock.handlerStep hhandler,
        hinv.wake.handlerStep hhandler⟩

/-- Two threads are never both in their critical sections. -/
theorem mutual_exclusion [DecidableEq ι] {deliver : Service ι α → Control α → Prop}
    (h : (service deliver).Reachable s) :
    (∀ i, (s.handler i).inCritical = true → s.main.inCritical = false) ∧
      ∀ i j, (s.handler i).inCritical = true → (s.handler j).inCritical = true → i = j := by
  obtain ⟨-, ⟨hmain, hhandler⟩, -⟩ := QueueInv.of_reachable h
  refine ⟨?_, ?_⟩
  · intro i hi
    by_contra hne
    have hlock := hmain.mp (by simpa using hne)
    rw [(hhandler i).mp hi] at hlock
    simp at hlock
  · intro i j hi hj
    have hlock := (hhandler i).mp hi
    rw [(hhandler j).mp hj] at hlock
    simpa using hlock.symm

/-- **Every arrived device is served.** In every reachable state the paths
identified, the one in work and those in the queue are the paths queued, in the
order of the lock; and in the infinite wait, with no callback in its critical
section, a device in the queue means that a waited event is signalled. -/
theorem queue_served [DecidableEq ι] {deliver : Service ι α → Control α → Prop}
    (h : (service deliver).Reachable s) :
    s.identified ++ s.main.current ++ s.devices = s.pushed ∧
      (s.main = .wait true → (∀ i, (s.handler i).inCritical = false) → s.devices ≠ [] →
        s.stopSet = true ∨ s.powerSet = true ∨ s.deviceSet = true) := by
  obtain ⟨hconserved, -, hwake⟩ := QueueInv.of_reachable h
  refine ⟨hconserved, ?_⟩
  intro hmain hidle hne
  rcases hwake.wake (by rw [hmain]; rfl) hne with hset | ⟨i, hi⟩
  · exact .inr (.inr hset)
  · exact absurd (hidle i) (by simp [hi, HandlerPc.inCritical])

/-- A device arrives while the main thread waits on an empty queue. -/
theorem queue_served_arrival :
    ∃ s : Service Unit Nat, (service fun _ _ => True).Reachable s ∧
      s.identified ++ s.main.current ++ s.devices = [7] ∧
      s.main = .wait true ∧ (s.stopSet = true ∨ s.powerSet = true ∨ s.deviceSet = true) := by
  have hwait := reachable_main (reachable_main (reachable_main (reachable_main (reachable_main
    (reachable_started : (service fun (_ : Service Unit Nat) _ => True).Reachable started)
    (.enumerate .startup rfl)) (.noMoreDevices .startup rfl)) (.acquireReport rfl rfl rfl))
    (.popEmpty rfl rfl)) (.unlockEmpty rfl)
  have harrived := reachable_handler (reachable_handler (reachable_handler (reachable_handler
    (reachable_handler hwait () (.control (.deviceArrival 7) rfl trivial))
      () (.arriveAcquire 7 rfl rfl rfl)) () (.arrivePush 7 rfl)) () (.arriveSignal rfl))
      () (.arriveUnlock rfl)
  obtain ⟨hpaths, hwake⟩ := queue_served harrived
  exact ⟨_, harrived, hpaths, rfl, hwake rfl (fun _ => rfl) (by simp [enqueue])⟩

end Service

end QmkHidIdentify
