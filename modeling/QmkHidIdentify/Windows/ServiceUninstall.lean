import QmkHidIdentify.Windows.ServiceStop
import QmkHidIdentify.Windows.ServiceInstall

/-!
# QmkHidIdentify.Windows.ServiceUninstall

What `service_uninstall` leaves, and what it does beside the service it removes.

`besideService` answers the same calls from a run of the service: the state of
the service is the last one that it reported, or STOPPED if it has no process,
and between two calls its threads do anything, or its process ends. It is assumed
that nobody starts the service meanwhile: `service_uninstall` does not look at it
again after it was STOPPED.
-/

namespace QmkHidIdentify

open Program Environment

/-! ### What it leaves -/

/-- What `service_uninstall` leaves where it returns, with the state of the service
that it has read last. It does not throw where the service does not stop. -/
inductive Uninstalled (s : System) : Option UInt32 → System → Prop
  | absent (h : s.services SVC_KEY = none) : Uninstalled s none s
  | notStopped (state : UInt32) (h : state ≠ SERVICE_STOPPED) : Uninstalled s (some state) s
  | marked (record : ServiceRecord) (h : s.services SVC_KEY = some record)
      (hkeep : record.markedForDelete = false) : Uninstalled s (some SERVICE_STOPPED)
        (s.setService SVC_KEY (some { record with markedForDelete := true }))

/-- What holds where `service_uninstall` ends. -/
def UninstallEnds (s : System) : Except Thrown Unit → System × Option UInt32 → Prop
  | .ok (), x => Uninstalled s x.2 x.1
  | .error _, x => x.1 = s

section Administration

variable {s : System} {service : Handle} {seen : Option UInt32}

/-- What is known after the service should have stopped. -/
def StopKnown (s : System) (r : Except Thrown Bool) (x : System × Option UInt32) : Prop :=
  x.1 = s ∧ ∀ stopped, r = .ok stopped →
    ∃ state, x.2 = some state ∧ stopped = decide (state = SERVICE_STOPPED)

theorem ensures_stopService (hopen : ∃ key, s.handles service = some (.service key))
    (fuel : Nat) :
    (administration.observing lastState).Ensures (s, seen) (stopService fuel service)
      (StopKnown s) := by
  have hwait : ∀ seen, (administration.observing lastState).Ensures (s, seen) (do
      let status ← callWaitServiceStatus fuel service SERVICE_STOP_PENDING
      return decide (status.currentState = SERVICE_STOPPED)) (StopKnown s) := by
    intro seen
    refine (ensures_waitObserved hopen _ fuel).seq ?_ fun _ _ h => ⟨h.1, nofun⟩
    intro status x hsame
    refine ⟨hsame.1, ?_⟩
    intro stopped he
    obtain rfl : decide (status.currentState = SERVICE_STOPPED) = stopped := Except.ok.inj he
    exact ⟨status.currentState, hsame.2 status rfl, rfl⟩
  refine (ensures_query hopen).seq ?_ fun _ _ h => ⟨h.1, nofun⟩
  intro status x hsame
  obtain ⟨s₁, seen₁⟩ := x
  obtain ⟨rfl, hstate⟩ := hsame
  split
  · next hstopped =>
      refine ⟨rfl, ?_⟩
      intro stopped he
      obtain rfl : true = stopped := Except.ok.inj he
      exact ⟨status.currentState, hstate status rfl, by simp [hstopped]⟩
  · split
    · refine ensures_requestObserved hopen ?_
      intro r s' hanswer
      obtain rfl := hanswer
      cases r with
      | false => exact ⟨rfl, nofun⟩
      | true => exact hwait _
    · exact hwait _

/-- `service_uninstall` with the service control manager open. -/
theorem ensures_serviceUninstall (s : System) (fuel : Nat) :
    (administration.observing lastState).Ensures (s, none) (serviceUninstall fuel)
      (UninstallEnds s) := by
  refine ensures_requestObserved trivial ?_
  intro r s' hanswer
  cases r with
  | none => exact hanswer
  | some manager =>
      obtain ⟨hmanager, rfl⟩ := hanswer
      refine ensures_scopeObserved (.inl rfl) ?_
      refine ensures_requestObserved (System.handles_setHandle ..) ?_
      intro r s' hanswer
      cases r with
      | error e =>
          obtain ⟨rfl, habsent⟩ := hanswer
          dsimp only
          split
          · next he => exact ⟨s, hmanager, rfl, .absent (habsent he)⟩
          · exact ⟨s, hmanager, rfl, rfl⟩
      | ok service =>
          obtain ⟨-, hfree, rfl⟩ := hanswer
          refine ensures_scopeObserved (.inr ⟨_, rfl⟩) ?_
          refine (ensures_stopService ⟨SVC_KEY, System.handles_setHandle ..⟩ fuel).seq ?_ ?_
          · intro stopped x hknown
            obtain ⟨s', seen⟩ := x
            obtain ⟨rfl, hstopped⟩ := hknown
            obtain ⟨state, hseen, rfl⟩ := hstopped stopped rfl
            obtain rfl : seen = some state := hseen
            by_cases hstate : state = SERVICE_STOPPED
            · subst hstate
              rw [decide_eq_true rfl]
              refine ensures_requestObserved ⟨SVC_KEY, System.handles_setHandle ..⟩ ?_
              intro r s' hanswer
              cases r with
              | ok =>
                  obtain ⟨key, record, hopen, hrecord, hkeep, rfl⟩ := hanswer
                  obtain rfl : SVC_KEY = key := by simpa [System.handles_setHandle] using hopen
                  refine ⟨(s.setService SVC_KEY (some { record with markedForDelete := true })
                    ).setHandle manager (some .manager), hfree, rfl, s.setService SVC_KEY
                      (some { record with markedForDelete := true }), hmanager, rfl, ?_⟩
                  exact .marked record hrecord hkeep
              | error e =>
                  obtain ⟨rfl, -⟩ := hanswer
                  dsimp only
                  split
                  · exact ⟨_, hfree, rfl, s, hmanager, rfl, rfl⟩
                  · exact ⟨_, hfree, rfl, s, hmanager, rfl, rfl⟩
            · rw [decide_eq_false hstate]
              exact ⟨_, hfree, rfl, s, hmanager, rfl, .notStopped state hstate⟩
          · intro e x hknown
            exact ⟨_, hfree, hknown.1, s, hmanager, rfl, rfl⟩

end Administration

/-! ### Beside the service -/

/-- The value of `dwCurrentState`. -/
def ServiceState.code : ServiceState → UInt32
  | .startPending => SERVICE_START_PENDING
  | .running => SERVICE_RUNNING
  | .stopPending => SERVICE_STOP_PENDING
  | .stopped => SERVICE_STOPPED

/-- The main thread has left `run`. -/
def MainPc.ended {α : Type} : MainPc α → Bool
  | .rethrow | .returned | .dead => true
  | _ => false

section Beside

variable {ι α : Type} [DecidableEq ι] {deliver : Service ι α → Control α → Prop}

/-- The state that the service control manager knows for the process of a
service. -/
def currentState : Option (Service ι α) → UInt32
  | none => SERVICE_STOPPED
  | some s => (s.status.getLast?.map ServiceState.code).getD SERVICE_START_PENDING

/-- A step of the service, or the end of its process. -/
inductive ProcessStep (deliver : Service ι α → Control α → Prop) :
    Option (Service ι α) → Option (Service ι α) → Prop
  | step {s s' : Service ι α} (h : Service.Step deliver s s') :
      ProcessStep deliver (some s) (some s')
  | exit {s : Service ι α} (h : s.main = .returned ∨ s.main = .dead) :
      ProcessStep deliver (some s) none

/-- In the process of a service the main thread has left `run`, or there is no
process. -/
def Ended (process : Option (Service ι α)) : Prop := ∀ s, process = some s → s.main.ended = true

/-- The calls of a program that is run beside the service. -/
def besideService (deliver : Service ι α → Control α → Prop) :
    Environment SystemCall SystemCall.Answer (Option (Service ι α)) where
  other := ProcessStep deliver
  requires
    | .deleteService _, process => Ended process
    | _, _ => True
  answers
    | .queryServiceStatus _, process, r, process' => process' = process ∧
        ∀ status, queryServiceStatus r = some status → status.currentState = currentState process
    | _, process, _, process' => process' = process

/-- STOPPED is only reported at the end of the main thread. -/
def StoppedAtEnd (process : Option (Service ι α)) : Prop :=
  ∀ s, process = some s → ServiceState.stopped ∈ s.status → s.main.ended = true

omit [DecidableEq ι] in
theorem stoppedAtEnd_mainStep {s s' : Service ι α} (hstep : Service.MainStep s s')
    (h : ServiceState.stopped ∈ s.status → s.main.ended = true) :
    ServiceState.stopped ∈ s'.status → s'.main.ended = true := by
  intro hstopped
  cases hstep with
  | stopped hpc => rfl
  | failed hpc => rfl
  | terminate hpc => rfl
  | startPending hpc => simp_all [Service.report, MainPc.ended]
  | running hpc => simp_all [Service.report, MainPc.ended]
  | acquireQueueTimeout c device hpc => simp_all [MainPc.ended]
  | _ => simp_all [Service.enqueue, MainPc.ended]

theorem stoppedAtEnd_handlerStep {s s' : Service ι α} {i : ι}
    (hstep : Service.HandlerStep deliver i s s')
    (h : ServiceState.stopped ∈ s.status → s.main.ended = true) :
    ServiceState.stopped ∈ s'.status → s'.main.ended = true := by
  intro hstopped
  cases hstep <;> simp_all [Service.goto, Service.report, Service.enqueue]

omit [DecidableEq ι] in
/-- The main thread does not come back to `run`. -/
theorem ended_mainStep {s s' : Service ι α} (hstep : Service.MainStep s s')
    (h : s.main.ended = true) : s'.main.ended = true := by
  cases hstep <;> simp_all [MainPc.ended]

theorem ProcessStep.stoppedAtEnd {process process' : Option (Service ι α)}
    (hstep : ProcessStep deliver process process') (h : StoppedAtEnd process) :
    StoppedAtEnd process' := by
  intro s' hs
  cases hstep with
  | exit _ => cases hs
  | step hstep =>
      cases hs
      obtain ⟨-, hmain | ⟨i, hhandler⟩⟩ := hstep
      · exact stoppedAtEnd_mainStep hmain (h _ rfl)
      · exact stoppedAtEnd_handlerStep hhandler (h _ rfl)

theorem ProcessStep.ended {process process' : Option (Service ι α)}
    (hstep : ProcessStep deliver process process') (h : Ended process) : Ended process' := by
  intro s' hs
  cases hstep with
  | exit _ => cases hs
  | step hstep =>
      cases hs
      obtain ⟨-, hmain | ⟨i, hhandler⟩⟩ := hstep
      · exact ended_mainStep hmain (h _ rfl)
      · have hpc : s'.main = _ := (Service.HandlerStep.starts_eq hhandler).1
        rw [hpc]
        exact h _ rfl

/-- What is known of the process, after the service was or was not seen stopped. -/
def Known (stopped : Prop) (process : Option (Service ι α)) : Prop :=
  StoppedAtEnd process ∧ (stopped → Ended process)

theorem known_stable (stopped : Prop) (process process' : Option (Service ι α))
    (hother : (besideService deliver).other process process') (h : Known stopped process) :
    Known stopped process' :=
  ⟨ProcessStep.stoppedAtEnd hother h.1, fun hs => ProcessStep.ended hother (h.2 hs)⟩

omit [DecidableEq ι] in
/-- The service has ended where it is reported to be stopped. -/
theorem ended_of_currentState {process : Option (Service ι α)} (h : StoppedAtEnd process)
    (hstopped : currentState process = SERVICE_STOPPED) : Ended process := by
  intro s hs
  subst hs
  refine h s rfl ?_
  simp only [currentState] at hstopped
  cases hlast : s.status.getLast? with
  | none =>
      rw [hlast] at hstopped
      exact absurd hstopped (by decide)
  | some state =>
      rw [hlast] at hstopped
      cases state with
      | stopped => exact List.mem_of_getLast? hlast
      | _ => exact absurd hstopped (by decide)

section Calls

variable {process : Option (Service ι α)} {service : Handle} {β : Type} {stopped : Prop}
  {Q : Except Thrown β → Option (Service ι α) → Prop}

/-- A query, after which the state that it answers is known. -/
theorem ensures_queryBeside (h : Known stopped process) :
    (besideService deliver).Ensures process (callQueryServiceStatus service) fun r process' =>
      ∀ status, r = .ok status →
        Known (status.currentState = SERVICE_STOPPED) process' := by
  refine ensures_call_stable (known_stable stopped) h (fun _ _ => trivial) ?_
  intro process₁ r process' hknown hanswer
  obtain ⟨rfl, hstate⟩ := hanswer
  cases hquery : queryServiceStatus r with
  | none => exact nofun
  | some status =>
      intro status' he
      obtain rfl : status = status' := Except.ok.inj he
      refine ⟨hknown.1, ?_⟩
      intro hcode
      exact ended_of_currentState hknown.1 ((hstate status hquery).symm.trans hcode)

/-- The other calls of the wait change nothing. -/
theorem ensures_waitLoopBeside (pendingState : UInt32) (fuel : Nat) (v : WaitVars)
    (h : Known (v.status.currentState = SERVICE_STOPPED) process) :
    (besideService deliver).Ensures process (callWaitLoop service pendingState fuel v)
      fun r process' => ∀ status, r = .ok status →
        Known (status.currentState = SERVICE_STOPPED) process' := by
  induction fuel generalizing v process with
  | zero => trivial
  | succ fuel ih =>
      rw [callWaitLoop]
      split
      · refine ensures_call_stable (known_stable _) h (fun _ _ => trivial) ?_
        intro process₁ _ process' hknown hanswer
        obtain rfl : process' = process₁ := hanswer
        refine (ensures_queryBeside hknown).seq ?_ fun _ _ _ _ he => by cases he
        intro status process' hstatus
        have hknown' := hstatus status rfl
        split
        · refine ensures_call_stable (known_stable _) hknown' (fun _ _ => trivial) ?_
          intro process₁ now process' hknown hanswer
          obtain rfl : process' = process₁ := hanswer
          exact ih _ hknown
        · split
          · refine ensures_call_stable (known_stable _) hknown' (fun _ _ => trivial) ?_
            intro process₁ now process' hknown hanswer
            obtain rfl : process' = process₁ := hanswer
            split
            · intro status' he
              obtain rfl : status = status' := Except.ok.inj he
              exact hknown
            · exact ih _ hknown
          · exact ih _ hknown'
      · intro status he
        obtain rfl : v.status = status := Except.ok.inj he
        exact h

theorem ensures_waitBeside (pendingState : UInt32) (fuel : Nat) (h : Known stopped process) :
    (besideService deliver).Ensures process (callWaitServiceStatus fuel service pendingState)
      fun r process' => ∀ status, r = .ok status →
        Known (status.currentState = SERVICE_STOPPED) process' := by
  refine (ensures_queryBeside h).seq ?_ fun _ _ _ _ he => by cases he
  intro status process' hstatus
  refine ensures_call_stable (known_stable _) (hstatus status rfl) (fun _ _ => trivial) ?_
  intro process₁ now process' hknown hanswer
  obtain rfl : process' = process₁ := hanswer
  exact ensures_waitLoopBeside pendingState fuel _ hknown

/-- If the service is found stopped, it has ended. -/
theorem ensures_stopBeside (fuel : Nat) (h : Known stopped process) :
    (besideService deliver).Ensures process (stopService fuel service) fun r process' =>
      r = .ok true → Known True process' := by
  have hwait : ∀ (stopped : Prop) (process : Option (Service ι α)), Known stopped process →
      (besideService deliver).Ensures process (do
        let status ← callWaitServiceStatus fuel service SERVICE_STOP_PENDING
        return decide (status.currentState = SERVICE_STOPPED)) fun r process' =>
          r = .ok true → Known True process' := by
    intro stopped process hknown
    refine (ensures_waitBeside _ fuel hknown).seq ?_ fun _ _ _ he => by cases he
    intro status process' hstatus hr
    have hstopped : status.currentState = SERVICE_STOPPED := by simpa using hr
    exact ⟨(hstatus status rfl).1, fun _ => (hstatus status rfl).2 hstopped⟩
  refine (ensures_queryBeside h).seq ?_ fun _ _ _ he => by cases he
  intro status process' hstatus
  have hknown := hstatus status rfl
  split
  · next hstopped => exact fun _ => ⟨hknown.1, fun _ => hknown.2 hstopped⟩
  · split
    · refine ensures_call_stable (known_stable _) hknown (fun _ _ => trivial) ?_
      intro process₁ accepted process' hknown hanswer
      obtain rfl : process' = process₁ := hanswer
      cases accepted with
      | false => exact nofun
      | true => exact hwait _ _ hknown
    · exact hwait _ _ hknown

/-- `service_uninstall` deletes the service where it has ended. -/
theorem ensures_uninstallBeside (fuel : Nat) (h : StoppedAtEnd process) :
    (besideService deliver).Ensures process (serviceUninstall fuel) fun _ _ => True := by
  have hknown : Known False process := ⟨h, False.elim⟩
  refine ensures_call_stable (known_stable _) hknown (fun _ _ => trivial) ?_
  intro process₁ manager process' hknown hanswer
  obtain rfl : process' = process₁ := hanswer
  cases manager with
  | none => trivial
  | some manager =>
      refine ensures_cleanup_any (fun _ => trivial) ?_
      refine ensures_call_stable (known_stable _) hknown (fun _ _ => trivial) ?_
      intro process₁ service process' hknown hanswer
      obtain rfl : process' = process₁ := hanswer
      cases service with
      | error e =>
          dsimp only
          split <;> trivial
      | ok service =>
          refine ensures_cleanup_any (fun _ => trivial) ?_
          refine (ensures_stopBeside fuel hknown).seq ?_ fun _ _ _ => trivial
          intro stopped process' hpost
          cases stopped with
          | false => trivial
          | true =>
              refine ensures_call_stable (known_stable _) (hpost rfl)
                (fun _ hknown => hknown.2 trivial) ?_
              intro process₁ r process' _ _
              cases r with
              | ok => trivial
              | error e =>
                  dsimp only
                  split <;> trivial

end Calls

/-- A main thread that has left `run` identifies no device. -/
theorem run_ended {s s' : Service ι α} (hended : s.main.ended = true)
    (hrun : Relation.ReflTransGen (Service.Step deliver) s s') :
    s'.main.ended = true ∧ s'.starts = s.starts := by
  induction hrun with
  | refl => exact ⟨hended, rfl⟩
  | tail _ hstep ih =>
      obtain ⟨hended', hstarts⟩ := ih
      obtain ⟨-, hmain | ⟨i, hhandler⟩⟩ := hstep
      · refine ⟨ended_mainStep hmain hended', ?_⟩
        rw [← hstarts]
        cases hmain <;> simp_all [MainPc.ended, Service.starts, MainPc.identifying]
      · obtain ⟨hpc, hstarts', -⟩ := hhandler.starts_eq
        exact ⟨by rw [hpc]; exact hended', hstarts'.trans hstarts⟩

omit [DecidableEq ι] in
theorem stoppedAtEnd_init : StoppedAtEnd (some ({} : Service ι α)) := by
  intro s hs
  obtain rfl := Option.some.inj hs
  exact nofun

theorem stoppedAtEnd_reachable {s : Service ι α} (h : (service deliver).Reachable s) :
    StoppedAtEnd (some s) := by
  refine h.invariant (I := fun s => StoppedAtEnd (some s)) ?_ ?_
  · intro s hinit
    obtain rfl : s = {} := hinit
    exact stoppedAtEnd_init
  · intro s s' _ hs hstep
    exact (ProcessStep.step hstep).stoppedAtEnd hs

/-- **The service is deleted after it has ended.** Whatever the threads of the
service do between the calls, and if nobody starts it meanwhile: where
`service_uninstall` deletes it the main thread has left `run` or there is no
process, and no device is started from there on. -/
theorem uninstall_after_end {fuel : Nat} {process process' : Option (Service ι α)} {h : Handle}
    {next : Except UInt32 Unit → Program SystemCall SystemCall.Answer (Except Thrown Unit)}
    (hprocess : ∀ s, process = some s → (service deliver).Reachable s)
    (hrun : ((besideService deliver).running (serviceUninstall fuel).run process).Reachable
      (.call (.deleteService h) next, process')) :
    ∀ s, process' = some s → s.main.ended = true ∧
      ∀ s', Relation.ReflTransGen (Service.Step deliver) s s' → s'.starts = s.starts := by
  have hstart : StoppedAtEnd process := by
    cases process with
    | none => exact fun _ hs => nomatch hs
    | some s => exact stoppedAtEnd_reachable (hprocess s rfl)
  have hended : Ended process' :=
    (wp_sound (ensures_uninstallBeside fuel hstart) hrun).1 (.deleteService h) next rfl
  intro s hs
  exact ⟨hended s hs, fun s' hsteps => (run_ended (hended s hs) hsteps).2⟩

end Beside

/-- A service whose startup failed. -/
def failedService : Service Unit Nat where
  main := .rethrow
  status := [.startPending, .stopped]

/-- The startup of the service fails, and then it is deleted. -/
theorem uninstall_after_end_failed :
    failedService.main.ended = true ∧ ∀ s' : Service Unit Nat,
      Relation.ReflTransGen (Service.Step fun _ _ => True) failedService s' →
        s'.starts = failedService.starts := by
  have hprocess : ∀ s : Service Unit Nat, some ({} : Service Unit Nat) = some s →
      (service fun _ _ => True).Reachable s := by
    intro s hs
    obtain rfl := Option.some.inj hs
    exact .of_init rfl
  have hrun : ∃ p', ((besideService fun (_ : Service Unit Nat) _ => True).running
      (serviceUninstall 0).run (some {})).Reachable (p', some failedService) ∧
        ∃ next, p' = .call (.deleteService 1) next := by
    apply Exists.intro
    refine ⟨⟨((serviceUninstall 0).run, some {}), rfl, ?_⟩, ?_⟩
    · refine .head (.other _ (.step ⟨nofun, .inl (.registerHandler rfl)⟩)) ?_
      refine .head (.other _ (.step ⟨nofun, .inl (.startPending rfl)⟩)) ?_
      refine .head (.other _ (.step ⟨nofun, .inl (.createStopFails rfl)⟩)) ?_
      refine .head (.other _ (.step ⟨nofun, .inl (.failed rfl)⟩)) ?_
      refine .head (.call _ _ (some 0) rfl) ?_
      refine .head (.call _ _ (.ok 1) rfl) ?_
      refine .head (.call _ _ (⟨false, true, 36, true, some ⟨1, 0, 0⟩⟩ :
        SizedCalls ServiceStatusProcess) ⟨rfl, ?_⟩) .refl
      intro status hstatus
      obtain rfl := Option.some.inj hstatus
      rfl
    · exact ⟨_, rfl⟩
  obtain ⟨_, hrun, next, rfl⟩ := hrun
  exact uninstall_after_end hprocess hrun failedService rfl

end QmkHidIdentify
