import QmkHidIdentify.Windows.Registry

/-!
# QmkHidIdentify.Windows.ServiceCommands

`service_install` and `service_uninstall` of `windows/service-control.cc`, as the
calls they make.

`wait_service_status` is here the loop of its calls, and
`callWaitServiceStatus_returns_iff` says that between the polls of `ServiceControl`
it is the loop there. A loop that has used up its fuel is not followed further, so
what holds for every fuel holds of every run.

What is left out: the messages, and with them the test of the state that
`service_install` ends with.
-/

namespace QmkHidIdentify

open Program Environment

/-! ### The status of the service -/

def SERVICE_STOPPED : UInt32 := 1
def SERVICE_START_PENDING : UInt32 := 2
def SERVICE_STOP_PENDING : UInt32 := 3
def SERVICE_RUNNING : UInt32 := 4

/-- The state of the service that was read last. -/
def lastState : (c : SystemCall) → c.Answer → Option UInt32 → Option UInt32
  | .queryServiceStatus _, r, seen => ((queryServiceStatus r).map (·.currentState)).or seen
  | _, _, seen => seen

/-- `query_service_status`, as a call. -/
def callQueryServiceStatus (service : Handle) : Calling ServiceStatusProcess := do
  match queryServiceStatus (← request (.queryServiceStatus service)) with
  | none => throw (.win32 "QueryServiceStatusEx")
  | some status => return status

/-- The loop of `wait_service_status`, after a poll. -/
def callWaitLoop (service : Handle) (pendingState : UInt32) :
    Nat → WaitVars → Calling ServiceStatusProcess
  | 0, _ => ExceptT.mk .cut
  | fuel + 1, v =>
      if v.status.currentState = pendingState then do
        request (.sleep 100)
        let status ← callQueryServiceStatus service
        if status.checkPoint ≠ v.checkPoint then
          let now ← request .getTickCount
          callWaitLoop service pendingState fuel ⟨status, now, status.checkPoint, status.waitHint⟩
        else if status.currentState = pendingState then
          let now ← request .getTickCount
          if now - v.startTimeMs > v.waitHintMs then return status
          else callWaitLoop service pendingState fuel { v with status := status }
        else callWaitLoop service pendingState fuel { v with status := status }
      else return v.status

/-- `wait_service_status`, as its calls. -/
def callWaitServiceStatus (fuel : Nat) (service : Handle) (pendingState : UInt32) :
    Calling ServiceStatusProcess := do
  let status ← callQueryServiceStatus service
  let startTimeMs ← request .getTickCount
  callWaitLoop service pendingState fuel ⟨status, startTimeMs, status.checkPoint, status.waitHint⟩

/-! ### The polls -/

/-- The polls as what the calls answer; the state is the number of queries that
have been made. -/
def polling (p : StatusPolls) : Environment SystemCall SystemCall.Answer Nat where
  other _ _ := False
  requires _ _ := True
  answers
    | .queryServiceStatus _, n, r, n' => r = p.query n ∧ n' = n + 1
    | .getTickCount, n, r, n' => r = QmkHidIdentify.getTickCount (p.time (n - 1)) ∧ n' = n
    | _, n, _, n' => n' = n

/-- What the caller sees of an outcome. -/
def WaitOutcome.result : WaitOutcome → Except Thrown ServiceStatusProcess
  | .returned status _ => .ok status
  | .thrown => .error (.win32 "QueryServiceStatusEx")

section Polling

variable {p : StatusPolls} {service : Handle} {pendingState : UInt32} {α : Type}
  {r : Except Thrown α}

theorem returns_query (f : ServiceStatusProcess → Calling α) (n : Nat) :
    (polling p).Returns n (callQueryServiceStatus service >>= f) r ↔
      match queryServiceStatus (p.query n) with
      | none => r = .error (.win32 "QueryServiceStatusEx")
      | some status => (polling p).Returns (n + 1) (f status) r := by
  -- the query, and then the rest of the function with its continuation
  have hanswer : ∀ a n', (polling p).answers (.queryServiceStatus service) n a n' ↔
      a = p.query n ∧ n' = n + 1 := fun _ _ => Iff.rfl
  refine (returns_answered (f := fun a => (match queryServiceStatus a with
    | none => throw (.win32 "QueryServiceStatusEx")
    | some status => pure status) >>= f) hanswer).trans ?_
  cases queryServiceStatus (p.query n) with
  | none => exact returns_throw
  | some status => rfl

theorem returns_tickCount (f : UInt32 → Calling α) (n : Nat) :
    (polling p).Returns (n + 1) (request .getTickCount >>= f) r ↔
      (polling p).Returns (n + 1) (f (getTickCount (p.time n))) r :=
  returns_answered fun _ _ => Iff.rfl

theorem returns_sleep (ms : UInt32) (f : Unit → Calling α) (n : Nat) :
    (polling p).Returns n (request (.sleep ms) >>= f) r ↔ (polling p).Returns n (f ()) r :=
  returns_answered fun _ _ => (and_iff_right rfl).symm

/-- The loops end alike. -/
theorem callWaitLoop_returns_iff (fuel n : Nat) (v : WaitVars)
    (r : Except Thrown ServiceStatusProcess) :
    (polling p).Returns (n + 1) (callWaitLoop service pendingState fuel v) r ↔
      ∃ outcome, waitLoop p pendingState fuel n v = some outcome ∧ r = outcome.result := by
  induction fuel generalizing n v with
  | zero => simp [callWaitLoop, waitLoop, not_returns_cut]
  | succ fuel ih =>
      rw [callWaitLoop, waitLoop]
      split
      · rw [returns_sleep, returns_query]
        cases queryServiceStatus (p.query (n + 1)) with
        | none => simp [WaitOutcome.result]
        | some status =>
            dsimp only
            split
            · rw [returns_tickCount, ih]
            · split
              · rw [returns_tickCount]
                split
                · simp [returns_pure, WaitOutcome.result]
                · rw [ih]
              · rw [ih]
      · simp [returns_pure, WaitOutcome.result]

/-- The calls of `wait_service_status` end as the polls say. -/
theorem callWaitServiceStatus_returns_iff (r : Except Thrown ServiceStatusProcess) :
    (∃ fuel, (polling p).Returns 0 (callWaitServiceStatus fuel service pendingState) r) ↔
      ∃ outcome, WaitServiceStatus p pendingState outcome ∧ r = outcome.result := by
  simp only [callWaitServiceStatus, returns_query, WaitServiceStatus]
  cases queryServiceStatus (p.query 0) with
  | none => simp [WaitOutcome.result]
  | some status =>
      constructor
      · intro h
        obtain ⟨fuel, hreturns⟩ := h
        obtain ⟨outcome, hloop, hr⟩ :=
          (callWaitLoop_returns_iff fuel 0 _ r).mp ((returns_tickCount _ 0).mp hreturns)
        exact ⟨outcome, ⟨fuel, hloop⟩, hr⟩
      · intro h
        obtain ⟨outcome, ⟨fuel, hloop⟩, hr⟩ := h
        exact ⟨fuel, (returns_tickCount _ 0).mpr
          ((callWaitLoop_returns_iff fuel 0 _ r).mpr ⟨outcome, hloop, hr⟩)⟩

end Polling

/-! ### The functions -/

def SVC_KEY : WString := wide "qmk-hid-identify"
def SVC_NAME : WString := wide "QMK HID Identify"
def SVC_DESC : WString := wide "Identify the current OS to connected QMK HID devices"

def SERVICE_WIN32_OWN_PROCESS : UInt32 := 0x10
def SERVICE_AUTO_START : UInt32 := 2
def SERVICE_ERROR_NORMAL : UInt32 := 1

/-- `exec_command`. -/
def execCommand (filename : WString) : WString := wide "\"" ++ filename ++ wide "\" service"

/-- The configuration for an `exec_command`. -/
def serviceConfig (execCommand : WString) : ServiceConfig where
  serviceType := SERVICE_WIN32_OWN_PROCESS
  startType := SERVICE_AUTO_START
  errorControl := SERVICE_ERROR_NORMAL
  binaryPathName := execCommand.cStr
  displayName := SVC_NAME

/-- The end of `service_install`, with the service configured. -/
def startInstalled (fuel : Nat) (service : Handle) : Calling Unit := do
  if !(← request (.changeServiceConfig2 service SVC_DESC)) then
    throw (.win32 "ChangeServiceConfig2")
  match ← request (.startService service) with
  | .error error =>
      if error = ERROR_SERVICE_ALREADY_RUNNING then return
      else throw (.win32 "StartService")
  | .ok () =>
      let _ ← callWaitServiceStatus fuel service SERVICE_START_PENDING
      return

/-- `service_install` with a handle for the service control manager. -/
def serviceInstallManaged (fuel : Nat) (manager : Handle) (config : ServiceConfig) :
    Calling Unit := do
  match ← request (.createService manager SVC_KEY config) with
  | .ok service => wrapped .closeServiceHandle (some service) fun _ => startInstalled fuel service
  | .error error =>
      if error = ERROR_SERVICE_EXISTS then
        match ← request (.openService manager SVC_KEY) with
        | .error _ => throw (.win32 "OpenService")
        | .ok service =>
            wrapped .closeServiceHandle (some service) fun _ => do
              if !(← request (.changeServiceConfig service config)) then
                throw (.win32 "ChangeServiceConfig")
              startInstalled fuel service
      else throw (.win32 "CreateService")

/-- `service_install`. -/
def serviceInstall (fuel : Nat) : Calling Unit := do
  let filename ← currentProcessFilename
  registryAddEventLog
  match ← request .openSCManager with
  | none => throw (.win32 "OpenSCManager")
  | some manager =>
      wrapped .closeServiceHandle (some manager) fun _ =>
        serviceInstallManaged fuel manager (serviceConfig (execCommand filename))

/-- The part of `service_uninstall` that stops the service: whether it is
stopped. -/
def stopService (fuel : Nat) (service : Handle) : Calling Bool := do
  let status ← callQueryServiceStatus service
  if status.currentState = SERVICE_STOPPED then return true
  if status.currentState ≠ SERVICE_STOP_PENDING then
    if !(← request (.controlStop service)) then
      throw (.win32 "ControlService")
  let status ← callWaitServiceStatus fuel service SERVICE_STOP_PENDING
  return status.currentState = SERVICE_STOPPED

/-- `service_uninstall`. -/
def serviceUninstall (fuel : Nat) : Calling Unit := do
  match ← request .openSCManager with
  | none => throw (.win32 "OpenSCManager")
  | some manager =>
      wrapped .closeServiceHandle (some manager) fun _ => do
        match ← request (.openService manager SVC_KEY) with
        | .error error =>
            if error = ERROR_SERVICE_DOES_NOT_EXIST then return
            else throw (.win32 "OpenService")
        | .ok service =>
            wrapped .closeServiceHandle (some service) fun _ => do
              if ← stopService fuel service then
                match ← request (.deleteService service) with
                | .ok () => return
                | .error error =>
                    if error = ERROR_SERVICE_MARKED_FOR_DELETE then throw .hidIdentify
                    else throw (.win32 "DeleteService")

/-! ### Waiting, and handles -/

namespace System

/-- With handles for the service control manager and the service. -/
def managing (s : System) (manager service : Handle) : System :=
  (s.setHandle manager (some .manager)).setHandle service (some (.service SVC_KEY))

variable {s : System} {manager service : Handle}

theorem managing_service : (s.managing manager service).handles service =
    some (.service SVC_KEY) := handles_setHandle ..

theorem managing_services : (s.managing manager service).services SVC_KEY =
    s.services SVC_KEY := rfl

end System

/-- Nothing has changed, and the status that a function returns is the one that was
read last. -/
def StatusKnown (s : System) (r : Except Thrown ServiceStatusProcess)
    (x : System × Option UInt32) : Prop :=
  x.1 = s ∧ ∀ status, r = .ok status → x.2 = some status.currentState

theorem StatusKnown.of_ok {s : System} {seen : Option UInt32} {status : ServiceStatusProcess}
    (h : seen = some status.currentState) : StatusKnown s (.ok status) (s, seen) := by
  refine ⟨rfl, ?_⟩
  intro status' he
  obtain rfl : status = status' := Except.ok.inj he
  exact h

section Administration

variable {s : System} {service h : Handle} {o : Object} {seen : Option UInt32}

/-- A call and what follows it, with the state that was read last. -/
theorem ensures_requestObserved {α : Type} {c : SystemCall} {f : c.Answer → Calling α}
    {Q : Except Thrown α → System × Option UInt32 → Prop} (hrequires : c.requires s)
    (hanswers : ∀ r s', c.answers s r s' →
      (administration.observing lastState).Ensures (s', lastState c r seen) (f r) Q) :
    (administration.observing lastState).Ensures (s, seen) (request c >>= f) Q :=
  ensures_call_observing administration_alone hrequires hanswers

theorem ensures_query (hopen : ∃ key, s.handles service = some (.service key)) :
    (administration.observing lastState).Ensures (s, seen) (callQueryServiceStatus service)
      (StatusKnown s) := by
  refine ensures_requestObserved hopen ?_
  intro r s' hanswer
  obtain rfl : s' = s := hanswer
  cases hquery : queryServiceStatus r with
  | none => exact ⟨rfl, nofun⟩
  | some status =>
      refine .of_ok ?_
      show ((queryServiceStatus r).map (·.currentState)).or seen = some status.currentState
      rw [hquery, Option.map_some, Option.some_or]

theorem ensures_waitLoop (hopen : ∃ key, s.handles service = some (.service key))
    (pendingState : UInt32) (fuel : Nat) {v : WaitVars}
    (hseen : seen = some v.status.currentState) :
    (administration.observing lastState).Ensures (s, seen)
      (callWaitLoop service pendingState fuel v)
      (StatusKnown s) := by
  induction fuel generalizing v seen with
  | zero => trivial
  | succ fuel ih =>
      rw [callWaitLoop]
      split
      · refine ensures_requestObserved trivial ?_
        intro _ s' hanswer
        obtain rfl : s' = s := hanswer
        refine (ensures_query hopen).seq ?_ fun _ _ h => ⟨h.1, nofun⟩
        intro status x hsame
        obtain ⟨s₁, seen₁⟩ := x
        obtain ⟨rfl, hstate⟩ := hsame
        have hseen₁ : seen₁ = some status.currentState := hstate status rfl
        split
        · refine ensures_requestObserved trivial ?_
          intro now s' hanswer
          obtain rfl := hanswer
          exact ih hseen₁
        · split
          · refine ensures_requestObserved trivial ?_
            intro now s' hanswer
            obtain rfl := hanswer
            split
            · exact .of_ok hseen₁
            · exact ih hseen₁
          · exact ih hseen₁
      · exact .of_ok hseen

/-- Waiting changes nothing, and returns the status that was read last. -/
theorem ensures_waitObserved (hopen : ∃ key, s.handles service = some (.service key))
    (pendingState : UInt32) (fuel : Nat) :
    (administration.observing lastState).Ensures (s, seen)
      (callWaitServiceStatus fuel service pendingState)
      (StatusKnown s) := by
  refine (ensures_query hopen).seq ?_ fun _ _ h => ⟨h.1, nofun⟩
  intro status x hsame
  obtain ⟨s₁, seen₁⟩ := x
  obtain ⟨rfl, hstate⟩ := hsame
  refine ensures_requestObserved trivial ?_
  intro now s' hanswer
  obtain rfl := hanswer
  exact ensures_waitLoop hopen pendingState fuel (hstate status rfl)

theorem ensures_wait (hopen : ∃ key, s.handles service = some (.service key))
    (pendingState : UInt32) (fuel : Nat) :
    administration.Ensures s (callWaitServiceStatus fuel service pendingState)
      fun _ s' => s' = s :=
  (ensures_observing_iff (o := none)).mp
    ((ensures_waitObserved hopen pendingState fuel).mono fun _ _ h => h.1)

/-- The scope of a handle of the service control manager, which is still open where
the scope ends. -/
theorem ensures_scopeObserved {α : Type} {scope : Option Handle → Calling α}
    {Q : Except Thrown α → System × Option UInt32 → Prop}
    (hkind : o = .manager ∨ ∃ key, o = .service key)
    (hscope : (administration.observing lastState).Ensures (s.setHandle h (some o), seen)
      (scope (some h)) fun r x =>
        ∃ s₁, s₁.handles h = none ∧ x.1 = s₁.setHandle h (some o) ∧ Q r (s₁, x.2)) :
    (administration.observing lastState).Ensures (s.setHandle h (some o), seen)
      (wrapped .closeServiceHandle (some h) scope) Q := by
  refine ensures_cleanup (observing_alone administration_alone) (hscope.mono ?_)
  intro r x hpost
  obtain ⟨s', seen'⟩ := x
  obtain ⟨s₁, hfree, rfl, hQ⟩ := hpost
  constructor
  · show SystemCall.requires (s₁.setHandle h (some o)) (.close .closeServiceHandle h)
    simp only [SystemCall.requires, System.setHandle_handles, if_true, Option.some.injEq]
    exact hkind
  · intro _ x hanswer
    obtain ⟨s'', seen''⟩ := x
    obtain ⟨rfl, rfl⟩ : s'' = (s₁.setHandle h (some o)).setHandle h none ∧ seen'' = seen' :=
      hanswer
    rwa [System.setHandle_setHandle, System.setHandle_free hfree]

theorem ensures_scope {α : Type} {scope : Option Handle → Calling α}
    {Q : Except Thrown α → System → Prop} (hkind : o = .manager ∨ ∃ key, o = .service key)
    (hscope : administration.Ensures (s.setHandle h (some o)) (scope (some h)) fun r s' =>
      ∃ s₁, s₁.handles h = none ∧ s' = s₁.setHandle h (some o) ∧ Q r s₁) :
    administration.Ensures (s.setHandle h (some o)) (wrapped .closeServiceHandle (some h) scope)
      Q :=
  (ensures_observing_iff (o := none)).mp
    (ensures_scopeObserved hkind (ensures_observing_iff.mpr hscope))

end Administration

end QmkHidIdentify
