import QmkHidIdentify.Windows.Service

/-!
# QmkHidIdentify.Windows.ServiceResources

The five handles of the service. `startup` creates them one after the other and
everything later relies on them, so the invariant follows the main thread:
`MainPc.created` are the handles it has behind it where it is.

The check after `CreateMutex` tests `device_event_`, which is valid there.
`MutexCreated` excludes just the steps in which `CreateMutex` fails, and
`resources_valid` shows that these are the steps that break the invariant.
-/

namespace QmkHidIdentify

/-- All handles are valid. -/
def Handles.valid (h : Handles) : Bool :=
  h.stopEvent && h.powerResumeEvent && h.deviceEvent && h.devicesMutex && h.deviceNotification

/-- The handles that `startup` has created are valid, and all of them after it.
A `startup` that failed is at its end. -/
def MainPc.created {α : Type} : MainPc α → Handles → Bool
  | .registerHandler, _ | .startPending, _ | .createStop, _ => true
  | .createPower, h => h.stopEvent
  | .createDevice, h => h.stopEvent && h.powerResumeEvent
  | .createMutex, h => h.stopEvent && h.powerResumeEvent && h.deviceEvent
  | .registerNotification, h =>
      h.stopEvent && h.powerResumeEvent && h.deviceEvent && h.devicesMutex
  | .reportStopped _, _ | .rethrow, _ | .returned, _ | .dead, _ => true
  | _, h => h.valid

/-- The next action is not applied to a null handle. -/
def MainPc.applied {α : Type} : MainPc α → Handles → Bool
  | .checkStop _ _, h => h.stopEvent
  | .acquireQueue _ _, h | .acquireReport, h => h.devicesMutex
  | .wait _, h => h.stopEvent && h.powerResumeEvent && h.deviceEvent
  | _, _ => true

/-- The next action is not applied to a null handle. -/
def HandlerPc.applied {α : Type} : HandlerPc α → Handles → Bool
  | .stopSignal, h => h.stopEvent
  | .arriveAcquire _, h => h.devicesMutex
  | .arriveSignal, h => h.deviceEvent
  | .powerSignal, h => h.powerResumeEvent
  | _, _ => true

theorem MainPc.applied_of_valid {α : Type} {h : Handles} (hvalid : h.valid = true)
    (pc : MainPc α) : pc.applied h = true := by
  cases pc <;> simp_all [Handles.valid, MainPc.applied]

theorem HandlerPc.applied_of_valid {α : Type} {h : Handles} (hvalid : h.valid = true)
    (pc : HandlerPc α) : pc.applied h = true := by
  cases pc <;> simp_all [Handles.valid, HandlerPc.applied]

namespace Service

variable {ι α : Type} {s s' : Service ι α}

/-- The handles of the service. -/
structure ResourceInv (s : Service ι α) : Prop where
  /-- `startup` goes on only with the handles it has created -/
  startup : s.main.created s.handles = true
  /-- all are valid once `SERVICE_RUNNING` has been reported -/
  running : .running ∈ s.status → s.handles.valid = true
  /-- and then no wait and no `SetEvent` is applied to a null handle -/
  applied : .running ∈ s.status → s.main.applied s.handles = true ∧
    ∀ i, (s.handler i).applied s.handles = true

theorem ResourceInv.of_valid (hstartup : s.main.created s.handles = true)
    (hrunning : .running ∈ s.status → s.handles.valid = true) : ResourceInv s where
  startup := hstartup
  running := hrunning
  applied h := ⟨MainPc.applied_of_valid (hrunning h) _,
    fun _ => HandlerPc.applied_of_valid (hrunning h) _⟩

/-- If the main thread calls `CreateMutex`, it gets a handle. -/
def MutexCreated (s s' : Service ι α) : Prop :=
  s.main = .createMutex → s'.main ≠ .createMutex → s'.handles.devicesMutex = true

theorem ResourceInv.mainStep (h : ResourceInv s) (hstep : MainStep s s')
    (hmutex : MutexCreated s s') : ResourceInv s' := by
  obtain ⟨hstartup, hrunning, -⟩ := h
  cases hstep with
  | createMutex hpc created check =>
      rw [show created = true from hmutex hpc nofun]
      refine .of_valid ?_ ?_ <;> simp_all [MainPc.created, Handles.valid]
  | acquireQueueTimeout c device hpc =>
      refine .of_valid ?_ hrunning
      cases c <;> simp_all [MainPc.created]
  | _ => refine .of_valid ?_ ?_ <;> simp_all [MainPc.created, Handles.valid, report, enqueue]

variable [DecidableEq ι] {deliver : Service ι α → Control α → Prop}

theorem HandlerStep.handles_eq {i : ι} (hstep : HandlerStep deliver i s s') :
    s'.main = s.main ∧ s'.handles = s.handles ∧ (.running ∈ s'.status → .running ∈ s.status) := by
  refine ⟨by cases hstep <;> rfl, by cases hstep <;> rfl, ?_⟩
  intro hrunning
  cases hstep with
  | stopReport hpc => simpa [goto, report] using hrunning
  | _ => exact hrunning

theorem ResourceInv.handlerStep {i : ι} (h : ResourceInv s)
    (hstep : HandlerStep deliver i s s') : ResourceInv s' := by
  obtain ⟨hmain, hhandles, hstatus⟩ := hstep.handles_eq
  refine .of_valid ?_ ?_
  · rw [hmain, hhandles]
    exact h.startup
  · intro hrunning
    rw [hhandles]
    exact h.running (hstatus hrunning)

theorem ResourceInv.of_reachable (h : ((service deliver).restrict MutexCreated).Reachable s) :
    ResourceInv s := by
  refine h.invariant ?_ ?_
  · intro s hinit
    rw [show s = {} from hinit]
    exact .of_valid rfl (by simp)
  · intro s s' _ hinv hstep
    obtain ⟨⟨-, hmain | ⟨i, hhandler⟩⟩, hmutex⟩ := hstep
    · exact hinv.mainStep hmain hmutex
    · exact hinv.handlerStep hhandler

/-- A `CreateMutex` that fails is not noticed: `startup` goes on with the null
handle. -/
theorem ResourceInv.mutexCreated (h : ResourceInv s) (hstep : Step deliver s s')
    (h' : ResourceInv s') : MutexCreated s s' := by
  intro hpc hne
  have hstartup := h.startup
  have hstartup' := h'.startup
  obtain ⟨-, hmain | ⟨i, hhandler⟩⟩ := hstep
  · cases hmain with
    | createMutex _ created check => simp_all [MainPc.created]
    | createMutexFails _ created check => simp_all [MainPc.created]
    | _ => simp_all
  · exact absurd (hhandler.handles_eq.1.trans hpc) hne

/-- **The resources of the running service.** The invariant holds in every state
that steps lead to in which `CreateMutex` does not fail, and there it holds after
a step exactly if `CreateMutex` does not fail in that step. -/
theorem resources_valid (h : ((service deliver).restrict MutexCreated).Reachable s) :
    ResourceInv s ∧ ∀ s', Step deliver s s' → (MutexCreated s s' ↔ ResourceInv s') := by
  have hinv := ResourceInv.of_reachable h
  refine ⟨hinv, ?_⟩
  intro s' hstep
  refine ⟨?_, ?_⟩
  · intro hmutex
    exact .of_reachable (h.step ⟨hstep, hmutex⟩)
  · exact hinv.mutexCreated hstep

/-- Everything is created, and the service runs. -/
theorem resources_valid_started :
    ∃ s : Service Unit Nat, ((service fun _ _ => True).restrict MutexCreated).Reachable s ∧
      .running ∈ s.status ∧ s.handles.valid = true := by
  have hinit : ((service fun (_ : Service Unit Nat) _ => True).restrict
      MutexCreated).Reachable {} := .of_init rfl
  have hpower := ((hinit.step ⟨⟨nofun, .inl (.registerHandler rfl)⟩, nofun⟩).step
    ⟨⟨nofun, .inl (.startPending rfl)⟩, nofun⟩).step ⟨⟨nofun, .inl (.createStop rfl)⟩, nofun⟩
  have hmutex := ((hpower.step ⟨⟨nofun, .inl (.createPower rfl)⟩, nofun⟩).step
    ⟨⟨nofun, .inl (.createDevice rfl)⟩, nofun⟩).step
    ⟨⟨nofun, .inl (.createMutex rfl true rfl)⟩, fun _ _ => rfl⟩
  have hstarted := (hmutex.step ⟨⟨nofun, .inl (.registerNotification rfl)⟩, nofun⟩).step
    ⟨⟨nofun, .inl (.running rfl)⟩, nofun⟩
  have hrunning : ServiceState.running ∈ [ServiceState.startPending, .running] := by simp
  exact ⟨_, hstarted, hrunning, (resources_valid hstarted).1.running hrunning⟩

/-- `CreateMutex` fails; the service reports that it is running, and then comes
to acquire the null handle. -/
theorem resources_valid_nullMutex :
    ∃ s : Service Unit Nat, (service fun _ _ => True).Reachable s ∧ .running ∈ s.status ∧
      s.main = .acquireReport ∧ s.handles.devicesMutex = false ∧ ¬ ResourceInv s := by
  have hcreated : (service fun _ _ => True).Reachable _ :=
    reachable_run (.of_init rfl) (run_starting (ι := Unit) (α := Nat) false)
  have hacquire := reachable_main (reachable_main (reachable_main (reachable_main hcreated
    (.registerNotification rfl)) (.running rfl)) (.enumerate .startup rfl))
    (.noMoreDevices .startup rfl)
  refine ⟨_, hacquire, by simp [report, starting], rfl, rfl, ?_⟩
  intro hinv
  exact absurd (hinv.running (by simp [report, starting])) (by decide)

end Service

end QmkHidIdentify
