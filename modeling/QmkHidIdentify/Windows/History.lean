import QmkHidIdentify.Windows.Main

/-!
# QmkHidIdentify.Windows.History

Histories of a system that is administered: the commands of `windows/main.cc` for
an administrator, which end or are killed, and what the service control manager
does between them.

A command that is killed leaves what it leaves if every call fails from there on,
since all that happens then is that its handles are closed (`AdminCommand.killed`).
`history_safe` is what holds after any history.
-/

namespace QmkHidIdentify

open Program Environment

/-! ### Calls that fail -/

def ERROR_ACCESS_DENIED : UInt32 := 5

/-- What a call answers that has failed, if it can fail. -/
def SystemCall.failure : (c : SystemCall) → c.Answer
  | getModuleFileName _ => ⟨0, []⟩
  | close _ _ | sleep _ => ()
  | createTransaction | regCreateKeyTransacted _ _ | openSCManager => none
  | createService _ _ _ | openService _ _ => .error ERROR_ACCESS_DENIED
  | regDeleteKeyTransacted _ _ | startService _ | deleteService _ => .error ERROR_ACCESS_DENIED
  | regSetValueEx _ _ _ | commitTransaction _ | changeServiceConfig _ _ => false
  | changeServiceConfig2 _ _ | controlStop _ => false
  | queryServiceStatus _ => ⟨false, false, 0, false, none⟩
  | getTickCount => 0

/-- The system without the processes that have opened something. -/
def System.closed (s : System) : System := { s with handles := fun _ => none }

/-- Every call can fail, and then changes no more than handles. -/
theorem administration_refusing : administration.Refusing SystemCall.failure System.closed := by
  intro c s _
  cases c with
  | close deleter h => exact ⟨s.setHandle h none, rfl, rfl⟩
  | getModuleFileName size => exact ⟨s, ⟨rfl, .inl rfl⟩, rfl⟩
  | createService manager key config => exact ⟨s, ⟨rfl, nofun⟩, rfl⟩
  | openService manager key => exact ⟨s, ⟨rfl, nofun⟩, rfl⟩
  | regDeleteKeyTransacted subKey txn => exact ⟨s, ⟨rfl, nofun⟩, rfl⟩
  | deleteService service => exact ⟨s, ⟨rfl, nofun⟩, rfl⟩
  | _ => exact ⟨s, rfl, rfl⟩

/-! ### Going on longer -/

section Outlasted

variable {service : Handle}

theorem uncut_query : Uncut (callQueryServiceStatus service).run := by
  apply uncut_request
  intro r
  cases queryServiceStatus r with
  | none => trivial
  | some status => trivial

theorem outlasted_waitLoop (pendingState : UInt32) (fuel : Nat) (v : WaitVars) :
    (callWaitLoop service pendingState fuel v).run.Outlasted SystemCall.failure
      (callWaitLoop service pendingState (fuel + 1) v).run := by
  induction fuel generalizing v with
  | zero =>
      -- the next query fails
      show (refused SystemCall.failure (callWaitLoop service pendingState 1 v).run).isSome = true
      rw [callWaitLoop]
      split
      · rfl
      · rfl
  | succ fuel ih =>
      unfold callWaitLoop
      split
      · apply outlasted_request
        intro _
        refine uncut_query.outlasted.seq ?_
        intro status
        split
        · exact outlasted_request fun now => ih _
        · split
          · apply outlasted_request
            intro now
            split
            · rfl
            · exact ih _
          · exact ih _
      · rfl

theorem outlasted_wait (pendingState : UInt32) (fuel : Nat) :
    (callWaitServiceStatus fuel service pendingState).run.Outlasted SystemCall.failure
      (callWaitServiceStatus (fuel + 1) service pendingState).run :=
  uncut_query.outlasted.seq fun _ =>
    outlasted_request fun _ => outlasted_waitLoop pendingState fuel _

theorem outlasted_startInstalled (fuel : Nat) :
    (startInstalled fuel service).run.Outlasted SystemCall.failure
      (startInstalled (fuel + 1) service).run := by
  apply outlasted_request
  intro described
  cases described with
  | false => rfl
  | true =>
      apply outlasted_request
      intro r
      cases r with
      | ok => exact (outlasted_wait SERVICE_START_PENDING fuel).seq fun _ => rfl
      | error e =>
          dsimp only
          split
          · rfl
          · rfl

theorem outlasted_serviceInstallManaged (fuel : Nat) (manager : Handle) (config : ServiceConfig) :
    (serviceInstallManaged fuel manager config).run.Outlasted SystemCall.failure
      (serviceInstallManaged (fuel + 1) manager config).run := by
  apply outlasted_request
  intro r
  cases r with
  | ok service => exact (outlasted_startInstalled fuel).cleanup
  | error e =>
      dsimp only
      split
      · apply outlasted_request
        intro r
        cases r with
        | error e => rfl
        | ok service =>
            refine Outlasted.cleanup (outlasted_request ?_)
            intro changed
            cases changed with
            | false => rfl
            | true => exact outlasted_startInstalled fuel
      · rfl

theorem uncut_currentProcessFilename : Uncut currentProcessFilename.run := by
  apply uncut_request
  intro name
  split
  · trivial
  · trivial

theorem uncut_registrySetValue (key : Handle) (name : WString) (data : RegData) :
    Uncut (registrySetValue key name data).run := by
  apply uncut_request
  intro stored
  cases stored with
  | false => trivial
  | true => trivial

theorem uncut_commit (txn : Option Handle) : Uncut (commit txn).run := by
  apply uncut_request
  intro committed
  cases committed with
  | false => trivial
  | true => trivial

theorem uncut_wrapped {α : Type} {deleter : Deleter} {handle : Option Handle}
    {scope : Option Handle → Calling α} (h : Uncut (scope handle).run) :
    Uncut (wrapped deleter handle scope).run := by
  cases handle with
  | none => exact h
  | some _ => exact h.cleanup

theorem uncut_registryAddEventLog : Uncut registryAddEventLog.run := by
  refine uncut_request fun txn => uncut_wrapped (uncut_request ?_)
  intro key
  cases key with
  | none => trivial
  | some key =>
      refine uncut_wrapped (uncut_currentProcessFilename.seq fun _ => ?_)
      refine Uncut.seq (uncut_registrySetValue _ _ _) fun _ => ?_
      refine Uncut.seq (uncut_registrySetValue _ _ _) fun _ => ?_
      refine Uncut.seq (uncut_registrySetValue _ _ _) fun _ => ?_
      exact Uncut.seq (uncut_registrySetValue _ _ _) fun _ => uncut_commit txn

theorem uncut_registryRemoveEventLog : Uncut registryRemoveEventLog.run := by
  refine uncut_request fun txn => uncut_wrapped (uncut_request ?_)
  intro r
  cases r with
  | ok => exact uncut_commit txn
  | error e =>
      dsimp only
      split
      · exact uncut_commit txn
      · trivial

theorem outlasted_serviceInstall (fuel : Nat) :
    (serviceInstall fuel).run.Outlasted SystemCall.failure (serviceInstall (fuel + 1)).run := by
  refine uncut_currentProcessFilename.outlasted.seq fun filename => ?_
  refine uncut_registryAddEventLog.outlasted.seq fun _ => outlasted_request ?_
  intro manager
  cases manager with
  | none => rfl
  | some manager => exact (outlasted_serviceInstallManaged fuel manager _).cleanup

theorem outlasted_stopService (fuel : Nat) :
    (stopService fuel service).run.Outlasted SystemCall.failure
      (stopService (fuel + 1) service).run := by
  have hwait : (do
      let status ← callWaitServiceStatus fuel service SERVICE_STOP_PENDING
      return decide (status.currentState = SERVICE_STOPPED) : Calling Bool).run.Outlasted
        SystemCall.failure (do
          let status ← callWaitServiceStatus (fuel + 1) service SERVICE_STOP_PENDING
          return decide (status.currentState = SERVICE_STOPPED) : Calling Bool).run :=
    (outlasted_wait SERVICE_STOP_PENDING fuel).seq fun _ => rfl
  refine uncut_query.outlasted.seq fun status => ?_
  split
  · rfl
  · split
    · apply outlasted_request
      intro stopping
      cases stopping with
      | false => rfl
      | true => exact hwait
    · exact hwait

theorem outlasted_serviceUninstall (fuel : Nat) :
    (serviceUninstall fuel).run.Outlasted SystemCall.failure
      (serviceUninstall (fuel + 1)).run := by
  apply outlasted_request
  intro manager
  cases manager with
  | none => rfl
  | some manager =>
      refine Outlasted.cleanup (outlasted_request ?_)
      intro r
      cases r with
      | error e =>
          dsimp only
          split
          · rfl
          · rfl
      | ok service =>
          refine Outlasted.cleanup ((outlasted_stopService fuel).seq fun stopped => ?_)
          cases stopped with
          | false => rfl
          | true =>
              apply outlasted_request
              intro r
              cases r with
              | ok => rfl
              | error e =>
                  dsimp only
                  split
                  · rfl
                  · rfl

end Outlasted

namespace AdminCommand

/-- With more fuel a command only goes on longer. -/
theorem outlasted (c : AdminCommand) (fuel : Nat) :
    (c.call fuel).run.Outlasted SystemCall.failure (c.call (fuel + 1)).run := by
  cases c with
  | install => exact (outlasted_serviceInstall fuel).seq fun _ => rfl
  | uninstall => exact (outlasted_serviceUninstall fuel).seq fun _ => rfl
  | register => exact uncut_registryAddEventLog.outlasted.seq fun _ => rfl
  | unregister => exact uncut_registryRemoveEventLog.outlasted.seq fun _ => rfl

/-- **Killing a command.** Wherever it is, what is left when its handles have been
closed is what it leaves where it ends. -/
theorem killed (c : AdminCommand) {fuel : Nat} {s s' : System}
    {p : Program SystemCall SystemCall.Answer (Except Thrown Int32)}
    (h : (administration.running (c.call fuel).run s).Reachable (p, s')) :
    ∃ r seen, c.Leaves s r ({ s' with handles := s.handles }, seen) := by
  obtain ⟨r, s'', hview, seen, hleaves⟩ := wp_stopped administration_alone
    administration_refusing (c.outlasted fuel) (c.ensures_call (fuel + 1) s).unobserved h
  have hsame : s'' = { s' with handles := s''.handles } :=
    congrArg (fun s : System => { s with handles := s''.handles }) hview
  have hhandles : s''.handles = s.handles := hleaves.handles
  rw [hhandles] at hsame
  exact ⟨r, seen, hsame ▸ hleaves⟩

end AdminCommand

/-! ### Histories -/

/-- What changes the system while no command is running, or a command from its
start to its end. A command that ends shows an exit code, and by its messages
the state of the service that it has read last. -/
inductive Happens (s : System) :
    Option (AdminCommand × Option Int32 × Option UInt32) → System → Prop
  | ends (c : AdminCommand) (fuel : Nat) (r : Except Thrown Int32) {s' : System}
      {seen : Option UInt32}
      (h : ((administration.observing lastState).running (c.call fuel).run (s, none)).Reachable
        (.done r, (s', seen))) : Happens s (some (c, exitCode r, seen)) s'
  | killed (c : AdminCommand) (fuel : Nat) {s' : System}
      {p : Program SystemCall SystemCall.Answer (Except Thrown Int32)}
      (h : (administration.running (c.call fuel).run s).Reachable (p, s')) :
      Happens s none { s' with handles := s.handles }
  /-- the service control manager removes a service that is marked for deletion -/
  | removed (record : ServiceRecord) (h : s.services SVC_KEY = some record)
      (hmarked : record.markedForDelete = true) : Happens s none (s.setService SVC_KEY none)

theorem Happens.leaves {s s' : System} {c : AdminCommand} {exit : Option Int32}
    {seen : Option UInt32} (h : Happens s (some (c, exit, seen)) s') :
    ∃ r, exitCode r = exit ∧ c.Leaves s r (s', seen) := by
  generalize hshown : some (c, exit, seen) = shown at h
  cases h with
  | ends c' fuel r hrun =>
      obtain ⟨rfl, hrest⟩ := Prod.mk.inj (Option.some.inj hshown)
      obtain ⟨rfl, rfl⟩ := Prod.mk.inj hrest
      exact ⟨r, rfl, (c.ensures_call fuel s).ends (observing_alone administration_alone) hrun⟩
  | killed | removed => cases hshown

/-- The system from a time on at which no command is running. -/
def administered (s₀ : System) : TransitionSystem System where
  init s := s = s₀
  step s s' := ∃ shown, Happens s shown s'

/-- The event source as it can be: as it was before, not there, or complete. -/
inductive EventSource (s₀ : System) : Option RegKey → Prop
  | before : EventSource s₀ (s₀.registry LOG_REG_HLKM_KEY)
  | absent : EventSource s₀ none
  | registered (values : RegKey) : EventSource s₀ (some (eventLogValues s₀.filename values))

/-- The service as it can be: as it was before, not there, or configured, and in
each case perhaps marked for deletion. -/
inductive ServiceEntry (s₀ : System) : Option ServiceRecord → Prop
  | before : ServiceEntry s₀ (s₀.services SVC_KEY)
  | absent : ServiceEntry s₀ none
  | installed (description : WString) :
      ServiceEntry s₀ (some (installedRecord s₀ description))
  | marked {record : ServiceRecord} (h : ServiceEntry s₀ (some record)) :
      ServiceEntry s₀ (some { record with markedForDelete := true })

/-- The invariant of a history. -/
structure Administered (s₀ s : System) : Prop where
  path : s.path = s₀.path
  handles : s.handles = s₀.handles
  registry : ∀ key ≠ LOG_REG_HLKM_KEY, s.registry key = s₀.registry key
  services : ∀ key ≠ SVC_KEY, s.services key = s₀.services key
  eventSource : EventSource s₀ (s.registry LOG_REG_HLKM_KEY)
  service : ServiceEntry s₀ (s.services SVC_KEY)

namespace Administered

variable {s₀ s s' : System}

theorem init (s₀ : System) : Administered s₀ s₀ :=
  ⟨rfl, rfl, fun _ _ => rfl, fun _ _ => rfl, .before, .before⟩

theorem filename (h : Administered s₀ s) : s.filename = s₀.filename := by
  rw [System.filename, h.path, System.filename]

theorem withEventLog (h : Administered s₀ s) : Administered s₀ s.withEventLog where
  path := h.path
  handles := h.handles
  registry key hne := (Function.update_of_ne hne ..).trans (h.registry key hne)
  services := h.services
  eventSource := by
    rw [System.registry_withEventLog, h.filename]
    exact .registered _
  service := h.service

theorem withoutEventLog (h : Administered s₀ s) : Administered s₀ s.withoutEventLog where
  path := h.path
  handles := h.handles
  registry key hne := (Function.update_of_ne hne ..).trans (h.registry key hne)
  services := h.services
  eventSource := by
    rw [System.registry_withoutEventLog]
    exact .absent
  service := h.service

theorem setService (h : Administered s₀ s) {record : Option ServiceRecord}
    (hrecord : ServiceEntry s₀ record) : Administered s₀ (s.setService SVC_KEY record) where
  path := h.path
  handles := h.handles
  registry := h.registry
  services key hne := (Function.update_of_ne hne ..).trans (h.services key hne)
  eventSource := h.eventSource
  service := by
    rw [System.setService_services]
    exact hrecord

theorem installStage (h : Administered s₀ s) (hstage : InstallStage s s') :
    Administered s₀ s' := by
  cases hstage with
  | nothing => exact h
  | eventLog => exact h.withEventLog
  | configured description =>
      refine h.withEventLog.setService ?_
      rw [installedRecord, h.filename]
      exact .installed description

theorem uninstall (h : Administered s₀ s) {seen : Option UInt32}
    (huninstalled : Uninstalled s seen s') : Administered s₀ s' := by
  cases huninstalled with
  | absent | notStopped => exact h
  | marked record hrecord hkeep => exact h.setService (.marked (hrecord ▸ h.service))

/-- A command keeps it, however it ends. -/
theorem leaves (h : Administered s₀ s) {c : AdminCommand} {r : Except Thrown Int32}
    {seen : Option UInt32} (hleaves : c.Leaves s r (s', seen)) : Administered s₀ s' := by
  cases r with
  | ok n =>
      have hdone := (hleaves.ok n rfl).2
      cases c with
      | install =>
          obtain rfl : s' = installed s := hdone
          exact h.installStage (.configured SVC_DESC)
      | uninstall => exact h.uninstall hdone
      | register =>
          obtain rfl : s' = s.withEventLog := hdone
          exact h.withEventLog
      | unregister =>
          obtain rfl : s' = s.withoutEventLog := hdone
          exact h.withoutEventLog
  | error e =>
      have hundone := hleaves.error e rfl
      cases c with
      | install => exact h.installStage hundone
      | _ => exact (show s' = s from hundone) ▸ h

theorem happens (h : Administered s₀ s)
    {shown : Option (AdminCommand × Option Int32 × Option UInt32)}
    (hhappens : Happens s shown s') : Administered s₀ s' := by
  cases hhappens with
  | ends c fuel r hrun =>
      obtain ⟨_, -, hleaves⟩ := (Happens.ends c fuel r hrun).leaves
      exact h.leaves hleaves
  | killed c fuel hrun =>
      obtain ⟨r, seen, hleaves⟩ := c.killed hrun
      exact h.leaves hleaves
  | removed record hrecord hmarked => exact h.setService .absent

theorem of_reachable (h : (administered s₀).Reachable s) : Administered s₀ s := by
  refine h.invariant ?_ ?_
  · intro s hinit
    obtain rfl : s = s₀ := hinit
    exact init s
  · intro s s' _ hs hstep
    obtain ⟨shown, hhappens⟩ := hstep
    exact hs.happens hhappens

end Administered

/-- What a command is for. A service that is marked for deletion is removed when it
has ended and its handles are closed. -/
def AdminCommand.Effect (s₀ : System) : AdminCommand → System → Prop
  | install, s =>
      (∃ values, s.registry LOG_REG_HLKM_KEY = some (eventLogValues s₀.filename values)) ∧
        s.services SVC_KEY = some (installedRecord s₀ SVC_DESC)
  | uninstall, s =>
      s.services SVC_KEY = none ∨
        ∃ record, s.services SVC_KEY = some record ∧ record.markedForDelete = true
  | register, s => ∃ values, s.registry LOG_REG_HLKM_KEY = some (eventLogValues s₀.filename values)
  | unregister, s => s.registry LOG_REG_HLKM_KEY = none

/-- `uninstall` has found a service that does not stop, and has left it as it is. -/
def AdminCommand.NotStopped (s s' : System) (c : AdminCommand) (seen : Option UInt32) : Prop :=
  c = uninstall ∧ s' = s ∧ ∃ state, seen = some state ∧ state ≠ SERVICE_STOPPED

theorem Uninstalled.effect {s₀ s s' : System} {seen : Option UInt32}
    (h : Uninstalled s seen s') :
    AdminCommand.uninstall.Effect s₀ s' ∨ AdminCommand.uninstall.NotStopped s s' seen := by
  cases h with
  | absent hnone => exact .inl (.inl hnone)
  | notStopped state hne => exact .inr ⟨rfl, rfl, state, rfl, hne⟩
  | marked record hrecord hkeep =>
      exact .inl (.inr ⟨_, System.setService_services .., rfl⟩)

theorem AdminCommand.Leaves.effect {s₀ s s' : System} (hpath : s.filename = s₀.filename)
    {c : AdminCommand} {r : Except Thrown Int32} {seen : Option UInt32}
    (h : c.Leaves s r (s', seen)) (hzero : exitCode r = some 0) :
    c.Effect s₀ s' ∨ c.NotStopped s s' seen := by
  cases r with
  | error e => cases e <;> simp [exitCode] at hzero
  | ok n =>
      have hdone := (h.ok n rfl).2
      cases c with
      | install =>
          obtain rfl : s' = installed s := hdone
          refine .inl ⟨⟨_, hpath ▸ System.registry_withEventLog s⟩, ?_⟩
          rw [installed, System.setService_services, installedRecord, hpath, installedRecord]
      | uninstall => exact Uninstalled.effect hdone
      | register =>
          obtain rfl : s' = s.withEventLog := hdone
          exact .inl ⟨_, hpath ▸ System.registry_withEventLog s⟩
      | unregister =>
          obtain rfl : s' = s.withoutEventLog := hdone
          exact .inl (System.registry_withoutEventLog s)

end QmkHidIdentify
