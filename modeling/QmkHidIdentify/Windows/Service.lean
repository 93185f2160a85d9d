import Mathlib.Logic.Function.Basic
import QmkHidIdentify.Lib.Transition

/-!
# QmkHidIdentify.Windows.Service

The service of `windows/service.cc` as a transition system: the main thread
(`main`, `run`, `startup`, `queue_all_devices`, `process_events`,
`report_one_device`) and callbacks of the control handler (`control`,
`device_arrival`), interleaved at every system call and every access to what
they share.

* A program counter names the next action of a thread. `MainStep` and
  `HandlerStep` have one constructor for each outcome of each action.
* `ι` names the threads that callbacks run on, `α` is the type of device paths.
* A handle is a flag: whether it is not null. The wait functions fail on a null
  handle and may fail on any other; `SetEvent` does nothing on a null handle.
* When a control is delivered is up to the service control manager, a parameter
  of `service`.
* `pushed` and `identified` are not in the source. They record the paths in the
  order in which they were queued and in which their `identify` has ended.

An exception that leaves `main` ends the process (`dead`), since the function it
is called from is `noexcept`. What is left out: the log, the exit codes, the
controls that do nothing, and the reasons of failed calls.
-/

namespace QmkHidIdentify

/-- The values of `dwCurrentState` that are reported. -/
inductive ServiceState
  | startPending
  | running
  | stopPending
  | stopped
  deriving DecidableEq, Repr

/-- The call of `queue_all_devices`. -/
inductive QueueCaller
  /-- in `run` -/
  | startup
  /-- in `process_events`, where its result is ignored -/
  | resume
  deriving DecidableEq, Repr

/-- The next action of the main thread. -/
inductive MainPc (α : Type)
  | registerHandler
  | startPending
  | createStop
  | createPower
  | createDevice
  | createMutex
  | registerNotification
  | reportRunning
  -- `queue_all_devices`
  | enumerate (c : QueueCaller)
  | nextDevice (c : QueueCaller)
  | checkStop (c : QueueCaller) (device : α)
  | acquireQueue (c : QueueCaller) (device : α)
  | push (c : QueueCaller) (device : α)
  | unlockQueue (c : QueueCaller)
  -- `report_one_device` and the wait of `process_events`
  | acquireReport
  | pop
  | unlockEmpty
  | unlockDevice (device : α) (empty : Bool)
  | identify (device : α) (empty : Bool)
  | wait (infinite : Bool)
  -- the end of `main`
  | reportStopped (thrown : Bool)
  | rethrow
  | returned
  | dead
  deriving DecidableEq, Repr

/-- The next action of a callback. -/
inductive HandlerPc (α : Type)
  | idle
  -- `SERVICE_CONTROL_STOP`
  | stopReport
  | stopSignal
  -- `device_arrival`
  | arriveAcquire (device : α)
  | arrivePush (device : α)
  | arriveSignal
  | arriveUnlock
  -- `PBT_APMRESUMEAUTOMATIC`
  | powerSignal
  deriving DecidableEq, Repr

/-- The controls that do something. -/
inductive Control (α : Type)
  | stop
  | deviceArrival (device : α)
  | powerResume
  deriving DecidableEq, Repr

/-- Where a callback starts. -/
def Control.entry {α : Type} : Control α → HandlerPc α
  | .stop => .stopReport
  | .deviceArrival device => .arriveAcquire device
  | .powerResume => .powerSignal

/-- A holder of `devices_mutex_`. -/
inductive Thread (ι : Type)
  | main
  | handler (i : ι)
  deriving DecidableEq, Repr

/-- The handles of the service that are not null. -/
structure Handles where
  stopEvent : Bool := false
  powerResumeEvent : Bool := false
  deviceEvent : Bool := false
  devicesMutex : Bool := false
  deviceNotification : Bool := false
  deriving DecidableEq, Repr

structure Service (ι α : Type) where
  main : MainPc α := .registerHandler
  handler : ι → HandlerPc α := fun _ => .idle
  handles : Handles := {}
  /-- `stop_event_` is signalled; it is never reset -/
  stopSet : Bool := false
  /-- `power_resume_event_` is signalled -/
  powerSet : Bool := false
  /-- `device_event_` is signalled -/
  deviceSet : Bool := false
  /-- the owner of `devices_mutex_` -/
  lock : Option (Thread ι) := none
  devices : List α := []
  /-- the states passed to `SetServiceStatus` -/
  status : List ServiceState := []
  pushed : List α := []
  identified : List α := []

namespace Service

variable {ι α : Type}

/-- Report a state. -/
def report (s : Service ι α) (state : ServiceState) : Service ι α :=
  { s with status := s.status ++ [state] }

/-- Append a path to `devices_`. -/
def enqueue (s : Service ι α) (device : α) : Service ι α :=
  { s with devices := s.devices ++ [device], pushed := s.pushed ++ [device] }

/-- An action of the main thread. -/
inductive MainStep (s : Service ι α) : Service ι α → Prop
  | registerHandler (h : s.main = .registerHandler) : MainStep s { s with main := .startPending }
  | registerHandlerFails (h : s.main = .registerHandler) : MainStep s { s with main := .dead }
  | startPending (h : s.main = .startPending) :
      MainStep s { s.report .startPending with main := .createStop }
  -- `startup`
  | createStop (h : s.main = .createStop) :
      MainStep s { s with handles := { s.handles with stopEvent := true }, main := .createPower }
  | createStopFails (h : s.main = .createStop) :
      MainStep s { s with main := .reportStopped true }
  | createPower (h : s.main = .createPower) :
      MainStep s { s with
        handles := { s.handles with powerResumeEvent := true }, main := .createDevice }
  | createPowerFails (h : s.main = .createPower) :
      MainStep s { s with main := .reportStopped true }
  | createDevice (h : s.main = .createDevice) :
      MainStep s { s with
        handles := { s.handles with deviceEvent := true }, main := .createMutex }
  | createDeviceFails (h : s.main = .createDevice) :
      MainStep s { s with main := .reportStopped true }
  | createMutex (h : s.main = .createMutex) (created : Bool)
      -- the check after `CreateMutex` tests `device_event_`
      (check : s.handles.deviceEvent = true) :
      MainStep s { s with
        handles := { s.handles with devicesMutex := created }, main := .registerNotification }
  | createMutexFails (h : s.main = .createMutex) (created : Bool)
      (check : s.handles.deviceEvent = false) :
      MainStep s { s with
        handles := { s.handles with devicesMutex := created }, main := .reportStopped true }
  | registerNotification (h : s.main = .registerNotification) :
      MainStep s { s with
        handles := { s.handles with deviceNotification := true }, main := .reportRunning }
  | registerNotificationFails (h : s.main = .registerNotification) :
      MainStep s { s with main := .reportStopped true }
  | running (h : s.main = .reportRunning) :
      MainStep s { s.report .running with main := .enumerate .startup }
  -- `queue_all_devices`
  | enumerate (c : QueueCaller) (h : s.main = .enumerate c) :
      MainStep s { s with main := .nextDevice c }
  | enumerateFails (c : QueueCaller) (h : s.main = .enumerate c) :
      MainStep s { s with main := .reportStopped true }
  | device (c : QueueCaller) (device : α) (h : s.main = .nextDevice c) :
      MainStep s { s with main := .checkStop c device }
  | noMoreDevices (c : QueueCaller) (h : s.main = .nextDevice c) :
      MainStep s { s with main := .acquireReport }
  | stopping (c : QueueCaller) (device : α) (h : s.main = .checkStop c device)
      (valid : s.handles.stopEvent = true) (stop : s.stopSet = true) :
      MainStep s { s with main := .acquireReport }
  | notStopping (c : QueueCaller) (device : α) (h : s.main = .checkStop c device)
      (valid : s.handles.stopEvent = true) (stop : s.stopSet = false) :
      MainStep s { s with main := .acquireQueue c device }
  | checkStopFails (c : QueueCaller) (device : α) (h : s.main = .checkStop c device) :
      MainStep s { s with main := .reportStopped true }
  | acquireQueue (c : QueueCaller) (device : α) (h : s.main = .acquireQueue c device)
      (valid : s.handles.devicesMutex = true) (free : s.lock = none) :
      MainStep s { s with lock := some .main, main := .push c device }
  | acquireQueueTimeout (c : QueueCaller) (device : α) (h : s.main = .acquireQueue c device) :
      MainStep s { s with main := match c with
        | .startup => .reportStopped false
        | .resume => .acquireReport }
  | acquireQueueFails (c : QueueCaller) (device : α) (h : s.main = .acquireQueue c device) :
      MainStep s { s with main := .reportStopped true }
  | push (c : QueueCaller) (device : α) (h : s.main = .push c device) :
      MainStep s { s.enqueue device with main := .unlockQueue c }
  | unlockQueue (c : QueueCaller) (h : s.main = .unlockQueue c) :
      MainStep s { s with lock := none, main := .nextDevice c }
  -- `report_one_device`
  | acquireReport (h : s.main = .acquireReport) (valid : s.handles.devicesMutex = true)
      (free : s.lock = none) : MainStep s { s with lock := some .main, main := .pop }
  | acquireReportTimeout (h : s.main = .acquireReport) :
      MainStep s { s with main := .reportStopped false }
  | acquireReportFails (h : s.main = .acquireReport) :
      MainStep s { s with main := .reportStopped true }
  | popEmpty (h : s.main = .pop) (empty : s.devices = []) :
      MainStep s { s with main := .unlockEmpty }
  | popDevice (device : α) (devices : List α) (h : s.main = .pop)
      (front : s.devices = device :: devices) :
      MainStep s { s with devices := devices, main := .unlockDevice device devices.isEmpty }
  | unlockEmpty (h : s.main = .unlockEmpty) :
      MainStep s { s with lock := none, main := .wait true }
  | unlockDevice (device : α) (empty : Bool) (h : s.main = .unlockDevice device empty) :
      MainStep s { s with lock := none, main := .identify device empty }
  | identify (device : α) (empty : Bool) (h : s.main = .identify device empty) :
      MainStep s { s with identified := s.identified ++ [device], main := .wait empty }
  -- `WaitForMultipleObjects` takes the first signalled event
  | waitStop (infinite : Bool) (h : s.main = .wait infinite)
      (valid : s.handles.stopEvent = true ∧ s.handles.powerResumeEvent = true ∧
        s.handles.deviceEvent = true) (stop : s.stopSet = true) :
      MainStep s { s with main := .reportStopped false }
  | waitPower (infinite : Bool) (h : s.main = .wait infinite)
      (valid : s.handles.stopEvent = true ∧ s.handles.powerResumeEvent = true ∧
        s.handles.deviceEvent = true) (stop : s.stopSet = false) (power : s.powerSet = true) :
      MainStep s { s with powerSet := false, main := .enumerate .resume }
  | waitDevice (infinite : Bool) (h : s.main = .wait infinite)
      (valid : s.handles.stopEvent = true ∧ s.handles.powerResumeEvent = true ∧
        s.handles.deviceEvent = true) (stop : s.stopSet = false) (power : s.powerSet = false)
      (device : s.deviceSet = true) :
      MainStep s { s with deviceSet := false, main := .acquireReport }
  | waitTimeout (h : s.main = .wait false)
      (valid : s.handles.stopEvent = true ∧ s.handles.powerResumeEvent = true ∧
        s.handles.deviceEvent = true) (stop : s.stopSet = false) (power : s.powerSet = false)
      (device : s.deviceSet = false) : MainStep s { s with main := .acquireReport }
  | waitFails (infinite : Bool) (h : s.main = .wait infinite) :
      MainStep s { s with main := .reportStopped true }
  -- the end of `main`
  | stopped (h : s.main = .reportStopped false) :
      MainStep s { s.report .stopped with main := .returned }
  | failed (h : s.main = .reportStopped true) :
      MainStep s { s.report .stopped with main := .rethrow }
  | terminate (h : s.main = .rethrow) : MainStep s { s with main := .dead }

variable [DecidableEq ι]

/-- The callback on `i` comes to its next action. -/
def goto (s : Service ι α) (i : ι) (pc : HandlerPc α) : Service ι α :=
  { s with handler := Function.update s.handler i pc }

@[simp] theorem goto_main (s : Service ι α) (i : ι) (pc : HandlerPc α) :
    (s.goto i pc).main = s.main := rfl
@[simp] theorem goto_devices (s : Service ι α) (i : ι) (pc : HandlerPc α) :
    (s.goto i pc).devices = s.devices := rfl
@[simp] theorem goto_pushed (s : Service ι α) (i : ι) (pc : HandlerPc α) :
    (s.goto i pc).pushed = s.pushed := rfl
@[simp] theorem goto_identified (s : Service ι α) (i : ι) (pc : HandlerPc α) :
    (s.goto i pc).identified = s.identified := rfl
@[simp] theorem goto_deviceSet (s : Service ι α) (i : ι) (pc : HandlerPc α) :
    (s.goto i pc).deviceSet = s.deviceSet := rfl

theorem goto_handler (s : Service ι α) (i j : ι) (pc : HandlerPc α) :
    (s.goto i pc).handler j = if j = i then pc else s.handler j := by
  simp [goto, Function.update_apply]

/-- An action of the callback on `i`. -/
inductive HandlerStep (deliver : Service ι α → Control α → Prop) (i : ι) (s : Service ι α) :
    Service ι α → Prop
  | control (c : Control α) (h : s.handler i = .idle) (delivered : deliver s c) :
      HandlerStep deliver i s (s.goto i c.entry)
  | stopReport (h : s.handler i = .stopReport) :
      HandlerStep deliver i s ((s.report .stopPending).goto i .stopSignal)
  | stopSignal (h : s.handler i = .stopSignal) :
      HandlerStep deliver i s
        ({ s with stopSet := s.stopSet || s.handles.stopEvent }.goto i .idle)
  | arriveAcquire (device : α) (h : s.handler i = .arriveAcquire device)
      (valid : s.handles.devicesMutex = true) (free : s.lock = none) :
      HandlerStep deliver i s ({ s with lock := some (.handler i) }.goto i (.arrivePush device))
  -- an exception is turned into `control(SERVICE_CONTROL_STOP)`, like a timeout
  | arriveAcquireFails (device : α) (h : s.handler i = .arriveAcquire device) :
      HandlerStep deliver i s (s.goto i .stopReport)
  | arrivePush (device : α) (h : s.handler i = .arrivePush device) :
      HandlerStep deliver i s ((s.enqueue device).goto i .arriveSignal)
  | arriveSignal (h : s.handler i = .arriveSignal) :
      HandlerStep deliver i s
        ({ s with deviceSet := s.deviceSet || s.handles.deviceEvent }.goto i .arriveUnlock)
  | arriveUnlock (h : s.handler i = .arriveUnlock) :
      HandlerStep deliver i s ({ s with lock := none }.goto i .idle)
  | powerSignal (h : s.handler i = .powerSignal) :
      HandlerStep deliver i s
        ({ s with powerSet := s.powerSet || s.handles.powerResumeEvent }.goto i .idle)

/-- One action of any thread, while there is a process. -/
def Step (deliver : Service ι α → Control α → Prop) (s s' : Service ι α) : Prop :=
  s.main ≠ .dead ∧ (MainStep s s' ∨ ∃ i, HandlerStep deliver i s s')

end Service

/-- The service under a service control manager that delivers a control to an
idle handler whenever `deliver` allows it. -/
def service {ι α : Type} [DecidableEq ι] (deliver : Service ι α → Control α → Prop) :
    TransitionSystem (Service ι α) where
  init s := s = {}
  step := Service.Step deliver

namespace Service

variable {ι α : Type} [DecidableEq ι] {deliver : Service ι α → Control α → Prop}
  {s s' : Service ι α}

omit [DecidableEq ι] in
theorem MainStep.alive (h : MainStep s s') : s.main ≠ .dead := by cases h <;> simp_all

theorem reachable_main (h : (service deliver).Reachable s) (hstep : MainStep s s') :
    (service deliver).Reachable s' :=
  h.step ⟨hstep.alive, .inl hstep⟩

theorem reachable_run (h : (service deliver).Reachable s)
    (hrun : Relation.ReflTransGen MainStep s s') : (service deliver).Reachable s' := by
  induction hrun with
  | refl => exact h
  | tail _ hstep ih => exact reachable_main ih hstep

theorem reachable_handler (h : (service deliver).Reachable s) (i : ι)
    (hstep : HandlerStep deliver i s s') (hmain : s.main ≠ .dead := by nofun) :
    (service deliver).Reachable s' :=
  h.step ⟨hmain, .inr ⟨i, hstep⟩⟩

/-- The service before its notifications are registered, where nothing failed
but perhaps `CreateMutex`. -/
def starting (created : Bool) : Service ι α where
  main := .registerNotification
  handles := ⟨true, true, true, created, false⟩
  status := [.startPending]

/-- The service that has just reported that it is running. -/
def started : Service ι α where
  main := .enumerate .startup
  handles := ⟨true, true, true, true, true⟩
  status := [.startPending, .running]

omit [DecidableEq ι] in
theorem run_starting (created : Bool) :
    Relation.ReflTransGen MainStep ({} : Service ι α) (starting created) :=
  .head (.registerHandler rfl) <| .head (.startPending rfl) <| .head (.createStop rfl) <|
    .head (.createPower rfl) <| .head (.createDevice rfl) <|
    .single (.createMutex rfl created rfl)

omit [DecidableEq ι] in
theorem run_started : Relation.ReflTransGen MainStep ({} : Service ι α) started :=
  (run_starting true).trans <| .head (.registerNotification rfl) <| .single (.running rfl)

theorem reachable_started : (service deliver).Reachable started :=
  reachable_run (.of_init rfl) run_started

end Service

end QmkHidIdentify
