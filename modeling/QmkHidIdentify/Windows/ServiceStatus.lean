import QmkHidIdentify.Windows.ServiceQueue

/-!
# QmkHidIdentify.Windows.ServiceStatus

The states reported with `SetServiceStatus`. Both threads report, and no record
of what was reported last is kept: a callback that cannot acquire
`devices_mutex_` turns into a stop and reports `SERVICE_STOP_PENDING`, also
between `RegisterDeviceNotification` and the report of `SERVICE_RUNNING`, and a
callback that stops the service may make its report after the main thread has
made its last one.

`Orderly` excludes exactly these two reports. What has been reported follows the
phase of the main thread (`StatusInv`) in every orderly run, and every other
step leads out of the protocol (`status_protocol`).
-/

namespace QmkHidIdentify

/-- The controls accepted with a state, `dwControlsAccepted`. -/
def ServiceState.accepts {α : Type} : ServiceState → Control α → Bool
  | .running, .stop | .running, .powerResume => true
  | _, _ => false

/-- What the main thread has reported where it is. -/
inductive Phase
  | before
  | startup
  /-- notifications are registered, `SERVICE_RUNNING` is not reported yet -/
  | registered
  | serving
  | stopping
  /-- `SERVICE_STOPPED` has been reported -/
  | ended
  | dead
  deriving DecidableEq, Repr

def MainPc.phase {α : Type} : MainPc α → Phase
  | .registerHandler | .startPending => .before
  | .createStop | .createPower | .createDevice | .createMutex | .registerNotification => .startup
  | .reportRunning => .registered
  | .reportStopped _ => .stopping
  | .rethrow | .returned => .ended
  | .dead => .dead
  | _ => .serving

/-- The whole sequence of states of a service that did or did not come to run. -/
def statusSequence (ran : Bool) (n : Nat) : List ServiceState :=
  .startPending :: ((if ran then [.running] else []) ++ List.replicate n .stopPending) ++ [.stopped]

/-- A service that is not stopped has reported this. -/
def Unstopped (log : List ServiceState) : Prop :=
  log = [.startPending] ∨ ∃ n, log = .startPending :: .running :: List.replicate n .stopPending

/-- The reports made in a phase of an orderly run. -/
def Phase.Reported (log : List ServiceState) : Phase → Prop
  | .before => log = []
  | .startup | .registered => log = [.startPending]
  | .serving => ∃ n, log = .startPending :: .running :: List.replicate n .stopPending
  | .stopping => Unstopped log
  | .ended => ∃ ran, Unstopped ran ∧ log = ran ++ [.stopped]
  | .dead => log = [] ∨ ∃ ran, Unstopped ran ∧ log = ran ++ [.stopped]

/-- The phases the main thread comes to without a report. -/
def Phase.Silent (p p' : Phase) : Prop :=
  p' = p ∨ (p, p') ∈ [(before, dead), (startup, registered), (startup, stopping),
    (serving, stopping), (ended, dead)]

theorem Phase.Reported.silent {log : List ServiceState} {p p' : Phase} (h : p.Reported log)
    (hs : p.Silent p') : p'.Reported log := by
  rcases hs with rfl | hs
  · exact h
  · simp only [List.mem_cons, Prod.mk.injEq, List.not_mem_nil, or_false] at hs
    rcases hs with ⟨rfl, rfl⟩ | ⟨rfl, rfl⟩ | ⟨rfl, rfl⟩ | ⟨rfl, rfl⟩ | ⟨rfl, rfl⟩
    · exact .inl h
    · exact h
    · exact .inl h
    · exact .inr h
    · exact .inr h

/-- A callback that reports where it may adds to the `SERVICE_STOP_PENDING`. -/
theorem Phase.Reported.stopPending {log : List ServiceState} {p : Phase} (h : p.Reported log)
    (hrunning : .running ∈ log) (hended : p ≠ .ended) (hdead : p ≠ .dead) :
    p.Reported (log ++ [.stopPending]) := by
  have hmore : ∀ n, ServiceState.startPending :: .running :: List.replicate n .stopPending ++
      [.stopPending] = .startPending :: .running :: List.replicate (n + 1) .stopPending := by
    simp [List.replicate_succ']
  cases p with
  | before | startup | registered => simp [Phase.Reported.eq_def] at h; simp [h] at hrunning
  | serving =>
      obtain ⟨n, rfl⟩ := h
      exact ⟨n + 1, hmore n⟩
  | stopping =>
      rcases h with rfl | ⟨n, rfl⟩
      · simp at hrunning
      · exact .inr ⟨n + 1, hmore n⟩
  | ended => exact absurd rfl hended
  | dead => exact absurd rfl hdead

/-! ### The sequence -/

theorem Unstopped.append_stopped {log : List ServiceState} (h : Unstopped log) :
    ∃ ran n, log ++ [.stopped] = statusSequence ran n := by
  rcases h with rfl | ⟨n, rfl⟩
  · exact ⟨false, 0, rfl⟩
  · exact ⟨true, n, rfl⟩

theorem Phase.Reported.part {log : List ServiceState} {p : Phase} (h : p.Reported log) :
    ∃ ran n, log <+: statusSequence ran n := by
  have hended : ∀ ran, Unstopped ran → ∀ log, log <+: ran ++ [.stopped] →
      ∃ ran n, log <+: statusSequence ran n := by
    intro ran hran log hlog
    obtain ⟨r, n, hseq⟩ := hran.append_stopped
    exact ⟨r, n, hseq ▸ hlog⟩
  cases p with
  | before =>
      rw [show log = [] from h]
      exact ⟨false, 0, _, rfl⟩
  | startup | registered => exact hended log (.inl h) log (List.prefix_append _ _)
  | serving => exact hended log (.inr h) log (List.prefix_append _ _)
  | stopping => exact hended log h log (List.prefix_append _ _)
  | ended =>
      obtain ⟨ran, hran, rfl⟩ := h
      exact hended ran hran _ (List.prefix_refl _)
  | dead =>
      rcases h with rfl | ⟨ran, hran, rfl⟩
      · exact ⟨false, 0, _, rfl⟩
      · exact hended ran hran _ (List.prefix_refl _)

/-- Nothing comes after `SERVICE_STOPPED`. -/
theorem not_prefix_statusSequence {log : List ServiceState} {state : ServiceState} {ran : Bool}
    {n : Nat} : ¬ log ++ [.stopped, state] <+: statusSequence ran n := by
  intro hprefix
  obtain ⟨rest, h⟩ := hprefix
  unfold statusSequence at h
  have hnot : ServiceState.stopped ∉
      .startPending :: ((if ran then [.running] else []) ++ List.replicate n .stopPending) := by
    cases ran <;> simp
  rw [List.append_assoc] at h
  obtain ⟨mid, hmid, hrest⟩ | ⟨mid, hmid, hrest⟩ := List.append_eq_append_iff.mp h
  · cases mid with
    | nil => simp at hrest
    | cons a as =>
        obtain ⟨rfl, -⟩ : ServiceState.stopped = a ∧ _ := by simpa using hrest
        exact hnot (hmid ▸ by simp)
  · have := congrArg List.length hrest
    simp at this
    omega

/-- `SERVICE_RUNNING` does not come after `SERVICE_STOP_PENDING`. -/
theorem not_prefix_running {ran : Bool} {n : Nat} :
    ¬ [.startPending, .stopPending, .running] <+: statusSequence ran n := by
  cases ran with
  | true => simp [statusSequence]
  | false =>
      match n with
      | 0 | 1 | n + 2 => simp [statusSequence, List.replicate_succ]

/-- The callback reports, or may come to report. -/
def HandlerPc.mayReport {α : Type} : HandlerPc α → Bool
  | .stopReport | .arriveAcquire _ => true
  | _ => false

namespace Service

variable {α : Type} {s s' : Service Unit α}

/-- The controls given to the handler: those that the last state accepts, and
device arrivals from `RegisterDeviceNotification` on. -/
def controls (s : Service Unit α) : Control α → Prop
  | .deviceArrival _ => s.handles.deviceNotification = true
  | c => ∃ state ∈ s.status.getLast?, state.accepts c = true

/-- What is reported is part of the sequence, and all of it in the end. -/
structure Protocol (s : Service Unit α) : Prop where
  order : ∃ ran n, s.status <+: statusSequence ran n
  complete : s.main.phase = .ended → ∃ ran n, s.status = statusSequence ran n

/-- Unless the main thread is between `RegisterDeviceNotification` and its
report of `SERVICE_RUNNING`, or past its last report, a callback may report. -/
def Orderly (s s' : Service Unit α) : Prop :=
  s.handler () = .stopReport → s'.handler () = .stopSignal →
    s.main.phase ≠ .registered ∧ s.main.phase ≠ .ended

/-- The runs whose steps are all orderly. -/
abbrev orderly (α : Type) : TransitionSystem (Service Unit α) :=
  (service controls).restrict Orderly

/-! ### One step -/

/-- What an action of the main thread reports. -/
theorem MainStep.phase_cases (hstep : MainStep s s') :
    (s'.status = s.status ∧ s.main.phase.Silent s'.main.phase ∧
      (s'.handles.deviceNotification = s.handles.deviceNotification ∨
        s'.main.phase = .registered)) ∨
    (s.main.phase = .before ∧ s'.main.phase = .startup ∧
      s'.status = s.status ++ [.startPending] ∧ s'.handles = s.handles) ∨
    (s.main.phase = .registered ∧ s'.main.phase = .serving ∧
      s'.status = s.status ++ [.running]) ∨
    (s.main.phase = .stopping ∧ s'.main.phase = .ended ∧
      s'.status = s.status ++ [.stopped] ∧ s'.handles = s.handles) := by
  cases hstep with
  | startPending h => exact .inr (.inl ⟨by simp [h, MainPc.phase], rfl, rfl, rfl⟩)
  | running h => exact .inr (.inr (.inl ⟨by simp [h, MainPc.phase], rfl, rfl⟩))
  | stopped h | failed h => exact .inr (.inr (.inr ⟨by simp [h, MainPc.phase], rfl, rfl, rfl⟩))
  | acquireQueueTimeout c device h =>
      refine .inl ⟨rfl, ?_, .inl rfl⟩
      cases c <;> simp [h, MainPc.phase, Phase.Silent]
  | registerNotification h => exact .inl ⟨rfl, by simp [h, MainPc.phase, Phase.Silent], .inr rfl⟩
  | _ => exact .inl ⟨rfl, by simp [*, MainPc.phase, Phase.Silent], .inl rfl⟩

theorem MainStep.handler_eq (hstep : MainStep s s') : s'.handler = s.handler := by
  cases hstep <;> rfl

/-- What an action of the callback reports; before it may report, the control
was given to it. -/
theorem HandlerStep.phase_cases (hstep : HandlerStep controls () s s') :
    s'.main = s.main ∧ s'.handles = s.handles ∧
      (s.handler () = .stopReport ∧ s'.handler () = .stopSignal ∧
          s'.status = s.status ++ [.stopPending] ∨
        s.handler () ≠ .stopReport ∧ s'.status = s.status ∧
          ((s'.handler ()).mayReport = true → (s.handler ()).mayReport = true ∨
            .running ∈ s.status ∨ s.handles.deviceNotification = true)) := by
  refine ⟨by cases hstep <;> rfl, by cases hstep <;> rfl, ?_⟩
  cases hstep with
  | control c h delivered =>
      refine .inr ⟨by simp [h], rfl, fun hreport => .inr ?_⟩
      cases c with
      | deviceArrival device => exact .inr delivered
      | stop | powerResume =>
          obtain ⟨state, hlast, haccepts⟩ := delivered
          cases state <;> try cases haccepts
          exact .inl (List.mem_of_getLast? hlast)
  | stopReport h => exact .inl ⟨h, by simp [goto_handler], rfl⟩
  | arriveAcquireFails device h =>
      exact .inr ⟨by simp [h], rfl, fun _ => .inl (by simp [h, HandlerPc.mayReport])⟩
  | _ => exact .inr ⟨by simp [*], rfl, by simp [goto_handler, HandlerPc.mayReport]⟩

/-! ### Orderly runs -/

/-- Device arrivals may be given to the handler. -/
def Notified (s : Service Unit α) : Prop :=
  s.main.phase = .registered ∨ .running ∈ s.status

/-- What is reported follows the phase of the main thread, and a callback
reports only once it is notified. -/
structure StatusInv (s : Service Unit α) : Prop where
  reported : s.main.phase.Reported s.status
  notification : s.handles.deviceNotification = true → Notified s
  handler : (s.handler ()).mayReport = true → Notified s

theorem Notified.mainStep (h : Notified s) (hstep : MainStep s s') : Notified s' := by
  unfold Notified at h ⊢
  rcases h with hphase | hrunning
  · obtain ⟨-, hsilent, -⟩ | ⟨hp, -⟩ | ⟨-, -, hstatus⟩ | ⟨hp, -⟩ := hstep.phase_cases
    · rw [hphase] at hsilent
      exact .inl (by simpa [Phase.Silent] using hsilent)
    · simp [hphase] at hp
    · exact .inr (by simp [hstatus])
    · simp [hphase] at hp
  · obtain ⟨hstatus, -⟩ | ⟨-, -, hstatus, -⟩ | ⟨-, -, hstatus⟩ | ⟨-, -, hstatus, -⟩ :=
      hstep.phase_cases
    all_goals exact .inr (by simp [hstatus, hrunning])

theorem StatusInv.mainStep (h : StatusInv s) (hstep : MainStep s s') : StatusInv s' := by
  obtain ⟨hreported, hnotification, hhandler⟩ := h
  refine ⟨?_, ?_, ?_⟩
  · obtain ⟨hstatus, hsilent, -⟩ | ⟨hp, hp', hstatus, -⟩ | ⟨hp, hp', hstatus⟩ |
      ⟨hp, hp', hstatus, -⟩ := hstep.phase_cases
    · rw [hstatus]
      exact hreported.silent hsilent
    all_goals rw [hp] at hreported; rw [hp', hstatus]
    · rw [show s.status = [] from hreported]
      rfl
    · rw [show s.status = [.startPending] from hreported]
      exact ⟨0, rfl⟩
    · exact ⟨_, hreported, rfl⟩
  · intro hset
    obtain ⟨-, -, hkept | hp⟩ | ⟨-, -, -, hkept⟩ | ⟨-, -, hstatus⟩ | ⟨-, -, -, hkept⟩ :=
      hstep.phase_cases
    · exact (hnotification (hkept ▸ hset)).mainStep hstep
    · exact .inl hp
    · exact (hnotification (hkept ▸ hset)).mainStep hstep
    · exact .inr (by simp [hstatus])
    · exact (hnotification (hkept ▸ hset)).mainStep hstep
  · intro hmay
    rw [hstep.handler_eq] at hmay
    exact (hhandler hmay).mainStep hstep

theorem StatusInv.handlerStep (h : StatusInv s) (hstep : HandlerStep controls () s s')
    (hdead : s.main ≠ .dead) (horderly : Orderly s s') : StatusInv s' := by
  obtain ⟨hreported, hnotification, hhandler⟩ := h
  obtain ⟨hmain, hhandles, ⟨hstop, hstop', hstatus⟩ | ⟨-, hstatus, hmay⟩⟩ := hstep.phase_cases
  · have hrunning : .running ∈ s.status :=
      (hhandler (by rw [hstop]; rfl)).resolve_left (horderly hstop hstop').1
    refine ⟨?_, fun _ => .inr (by simp [hstatus, hrunning]), by simp [hstop', HandlerPc.mayReport]⟩
    rw [hmain, hstatus]
    refine hreported.stopPending hrunning (horderly hstop hstop').2 ?_
    intro hp
    apply hdead
    cases hpc : s.main <;> simp_all [MainPc.phase]
  · have hkept : Notified s → Notified s' := by
      unfold Notified
      rw [hmain, hstatus]
      exact id
    refine ⟨by rw [hmain, hstatus]; exact hreported, ?_, ?_⟩
    · intro hset
      rw [hhandles] at hset
      exact hkept (hnotification hset)
    · intro hreport
      apply hkept
      rcases hmay hreport with hbefore | hrunning | hset
      · exact hhandler hbefore
      · exact .inr hrunning
      · exact hnotification hset

theorem StatusInv.of_reachable (h : (orderly α).Reachable s) : StatusInv s := by
  refine h.invariant ?_ ?_
  · intro s hinit
    rw [show s = {} from hinit]
    exact ⟨rfl, by simp, by simp [HandlerPc.mayReport]⟩
  · intro s s' _ hinv hstep
    obtain ⟨⟨hdead, hmain | ⟨⟨⟩, hhandler⟩⟩, horderly⟩ := hstep
    · exact hinv.mainStep hmain
    · exact hinv.handlerStep hhandler hdead horderly

theorem StatusInv.protocol (h : StatusInv s) : Protocol s where
  order := h.reported.part
  complete := by
    intro hended
    have hreported := h.reported
    rw [hended] at hreported
    obtain ⟨ran, hran, hstatus⟩ := hreported
    rw [hstatus]
    exact hran.append_stopped

/-- After a report of a callback that is not orderly, the protocol is broken,
or will be by the next action of the main thread. -/
theorem StatusInv.disorderly (h : StatusInv s) (hstep : Step controls s s')
    (hdis : ¬ Orderly s s') (hprotocol : Protocol s') :
    ∃ s'', MainStep s' s'' ∧ ¬ Protocol s'' := by
  simp only [Orderly, Classical.not_imp, not_and, ne_eq, Decidable.not_not] at hdis
  obtain ⟨hstop, hstop', hphase⟩ := hdis
  obtain ⟨-, hmain | ⟨⟨⟩, hhandler⟩⟩ := hstep
  · rw [hmain.handler_eq, hstop] at hstop'
    cases hstop'
  obtain ⟨hmain, -, hcases⟩ := hhandler.phase_cases
  obtain ⟨-, -, hstatus⟩ := hcases.resolve_right fun h => h.1 hstop
  have hreported := h.reported
  by_cases hregistered : s.main.phase = .registered
  · have hpc : s'.main = .reportRunning := by
      rw [hmain]
      cases hpc : s.main <;> simp_all [MainPc.phase]
    rw [hregistered] at hreported
    rw [show s.status = [.startPending] from hreported] at hstatus
    refine ⟨_, .running hpc, ?_⟩
    intro hbroken
    obtain ⟨ran, n, horder⟩ := hbroken.order
    exact not_prefix_running (by simpa [report, hstatus] using horder)
  · rw [hphase hregistered] at hreported
    obtain ⟨ran, -, hran⟩ := hreported
    obtain ⟨⟨r, n, horder⟩, -⟩ := hprotocol
    rw [hstatus, hran, List.append_assoc] at horder
    exact absurd horder not_prefix_statusSequence

/-- **The status protocol.** It holds in every state that orderly steps lead to,
and there a step is orderly if and only if it holds after the step and after
whatever action of the main thread comes next. -/
theorem status_protocol (h : (orderly α).Reachable s) :
    Protocol s ∧ ∀ s', Step controls s s' →
      (Orderly s s' ↔ Protocol s' ∧ ∀ s'', MainStep s' s'' → Protocol s'') := by
  have hinv := StatusInv.of_reachable h
  refine ⟨hinv.protocol, ?_⟩
  intro s' hstep
  constructor
  · intro horderly
    have hinv' := StatusInv.of_reachable (h.step ⟨hstep, horderly⟩)
    exact ⟨hinv'.protocol, fun s'' hmain => (hinv'.mainStep hmain).protocol⟩
  · intro hkeeps
    by_contra hdis
    obtain ⟨s'', hmain, hbroken⟩ := hinv.disorderly hstep hdis hkeeps.1
    exact hbroken (hkeeps.2 s'' hmain)

theorem orderly_run (h : (orderly α).Reachable s) (hrun : Relation.ReflTransGen MainStep s s') :
    (orderly α).Reachable s' := by
  induction hrun with
  | refl => exact h
  | tail _ hstep ih =>
      refine ih.step ⟨⟨hstep.alive, .inl hstep⟩, ?_⟩
      intro hstop hstop'
      rw [hstep.handler_eq, hstop] at hstop'
      cases hstop'

/-- A service is stopped while it waits for devices. -/
theorem status_protocol_stop :
    ∃ s : Service Unit Nat, (orderly Nat).Reachable s ∧ Protocol s ∧
      s.status = [.startPending, .running, .stopPending, .stopped] := by
  have hwait : (orderly Nat).Reachable _ :=
    orderly_run (.of_init rfl) <| run_started.trans <| .head (.enumerate .startup rfl) <|
      .head (.noMoreDevices .startup rfl) <| .head (.acquireReport rfl rfl rfl) <|
      .head (.popEmpty rfl rfl) <| .single (.unlockEmpty rfl)
  have hstop := ((hwait.step
    ⟨⟨nofun, .inr ⟨(), .control .stop rfl ⟨_, rfl, rfl⟩⟩⟩, nofun⟩).step
    ⟨⟨nofun, .inr ⟨(), .stopReport rfl⟩⟩, fun _ _ => ⟨nofun, nofun⟩⟩).step
    ⟨⟨nofun, .inr ⟨(), .stopSignal rfl⟩⟩, nofun⟩
  have hstopped := orderly_run hstop <|
    .head (.waitStop true rfl ⟨rfl, rfl, rfl⟩ rfl) <| .single (.stopped rfl)
  exact ⟨_, hstopped, (status_protocol hstopped).1, rfl⟩

/-- `CreateMutex` fails, which the check after it does not see; a device arrives
before the service has reported that it is running. -/
theorem status_protocol_arrival :
    ∃ s : Service Unit Nat, (service controls).Reachable s ∧
      s.status = [.startPending, .stopPending, .running] ∧ ¬ Protocol s := by
  have hregistered : (service controls).Reachable _ :=
    reachable_main (reachable_run (.of_init rfl) (run_starting (ι := Unit) (α := Nat) false))
      (.registerNotification rfl)
  have hstop := reachable_handler (reachable_handler (reachable_handler hregistered ()
    (.control (.deviceArrival 7) rfl rfl)) () (.arriveAcquireFails 7 rfl)) () (.stopReport rfl)
  refine ⟨_, reachable_main hstop (.running rfl), rfl, ?_⟩
  intro hprotocol
  obtain ⟨ran, n, horder⟩ := hprotocol.order
  exact not_prefix_running horder

end Service

end QmkHidIdentify
