import QmkHidIdentify.Windows.Report
import QmkHidIdentify.Windows.ServiceQueue

/-!
# QmkHidIdentify.Windows.ServiceObjects

The service together with the device objects that `report_one_device` makes: their
calls on handles, one after another, among the steps of all threads.

`Service` takes one `identify()` as one action. Here it is an object with a trace,
which is chosen when the object is made: nothing that the threads do has an effect
on it. `objects_ordered` says what the handles are at any time.
-/

namespace QmkHidIdentify

variable {ι : Type}

/-- The service and its object. -/
structure ServiceObjects (ι : Type) where
  threads : Service ι WString := {}
  /-- what the object still does, if there is one, next event first -/
  object : Option (List (OsEvent HiddAttributes HidCapabilities)) := none
  /-- what all objects have done, latest first -/
  trace : List (OsEvent HiddAttributes HidCapabilities) := []

namespace ServiceObjects

/-- The main thread is at the `identify()` of this device. -/
def At (x : ServiceObjects ι) (device : WString) : Prop :=
  ∃ empty, x.threads.main = .identify device empty

/-- A step of a thread, or an event of the object. -/
inductive Step [DecidableEq ι] (deliver : Service ι WString → Control WString → Prop)
    (x : ServiceObjects ι) : ServiceObjects ι → Prop
  | handler {s' : Service ι WString} (i : ι) (halive : x.threads.main ≠ .dead)
      (h : Service.HandlerStep deliver i x.threads s') : Step deliver x { x with threads := s' }
  | main {s' : Service ι WString} (hbusy : ∀ device, ¬ x.At device)
      (h : Service.MainStep x.threads s') : Step deliver x { x with threads := s' }
  | construct {device : WString} (hat : x.At device) (hobject : x.object = none)
      {result : Except Exception Unit} {trace : List (OsEvent HiddAttributes HidCapabilities)}
      (h : ReportsDevice device result trace) :
      Step deliver x { x with object := some trace.reverse }
  | event {e : OsEvent HiddAttributes HidCapabilities}
      {es : List (OsEvent HiddAttributes HidCapabilities)} (hobject : x.object = some (e :: es)) :
      Step deliver x { x with object := some es, trace := e :: x.trace }
  | destroy {s' : Service ι WString} {device : WString} (hat : x.At device)
      (hobject : x.object = some []) (h : Service.MainStep x.threads s') :
      Step deliver x { x with threads := s', object := none }

/-- The service from its start on. -/
def system [DecidableEq ι] (deliver : Service ι WString → Control WString → Prop) :
    TransitionSystem (ServiceObjects ι) where
  init x := x = {}
  step := Step deliver

variable [DecidableEq ι] {deliver : Service ι WString → Control WString → Prop}
  {x : ServiceObjects ι}

/-- The threads do not do anything that they do not do in `service`. -/
theorem threads_reachable (h : (system deliver).Reachable x) :
    (service deliver).Reachable x.threads := by
  refine h.simulated (f := ServiceObjects.threads) ?_ ?_
  · intro x hinit
    obtain rfl : x = {} := hinit
    rfl
  · intro x x' hstep
    change Step deliver x x' at hstep
    cases hstep with
    | handler i halive h => exact .inr ⟨halive, .inr ⟨i, h⟩⟩
    | main hbusy h => exact .inr ⟨h.alive, .inl h⟩
    | construct | event => exact .inl rfl
    | destroy hat hobject h => exact .inr ⟨h.alive, .inl h⟩

/-! ### The objects one after another -/

/-- The objects so far: those of the devices that have been identified, in their
order, and the one there is. -/
def Accounted (x : ServiceObjects ι) : Prop :=
  ∃ (runs : List (Iteration WString HiddAttributes HidCapabilities))
    (current : List (OsEvent HiddAttributes HidCapabilities)),
    runs.map (·.device) = x.threads.identified ∧
    (∀ run ∈ runs, ReportsDevice run.device run.result run.trace) ∧
    x.trace = current ++ (runs.map (·.trace)).reverse.flatten ∧
    match x.object with
    | none => current = []
    | some coming => ∃ device result, x.At device ∧
        ReportsDevice device result (coming.reverse ++ current)

omit [DecidableEq ι] in
theorem mainStep_identified {s s' : Service ι WString} (h : Service.MainStep s s') :
    s'.identified = s.identified ∨
      ∃ device empty, s.main = .identify device empty ∧
        s'.identified = s.identified ++ [device] := by
  cases h with
  | identify device empty hpc => exact .inr ⟨device, empty, hpc, rfl⟩
  | _ => exact .inl rfl

theorem handlerStep_main {s s' : Service ι WString} {i : ι}
    (h : Service.HandlerStep deliver i s s') :
    s'.main = s.main ∧ s'.identified = s.identified := by
  cases h <;> exact ⟨rfl, rfl⟩

theorem Accounted.step {x' : ServiceObjects ι} (h : x.Accounted) (hstep : Step deliver x x') :
    x'.Accounted := by
  obtain ⟨runs, current, hdevices, hruns, htrace, hobject⟩ := h
  cases hstep with
  | @handler s' i halive h =>
      obtain ⟨hmain, hidentified⟩ := handlerStep_main h
      refine ⟨runs, current, hdevices.trans hidentified.symm, hruns, htrace, ?_⟩
      cases hcoming : x.object with
      | none => simpa [hcoming] using hobject
      | some coming =>
          rw [hcoming] at hobject
          obtain ⟨device, result, ⟨empty, hat⟩, hreports⟩ := hobject
          exact ⟨device, result, ⟨empty, hmain.trans hat⟩, hreports⟩
  | main hbusy h =>
      have hnone : x.object = none := by
        cases hcoming : x.object with
        | none => rfl
        | some coming =>
            rw [hcoming] at hobject
            obtain ⟨device, result, hat, -⟩ := hobject
            exact absurd hat (hbusy device)
      have hidentified := (mainStep_identified h).resolve_right fun hat =>
        hbusy _ ⟨_, hat.choose_spec.choose_spec.1⟩
      refine ⟨runs, current, hdevices.trans hidentified.symm, hruns, htrace, ?_⟩
      simpa [hnone] using hobject
  | @construct device hat hnone result trace hreports =>
      rw [hnone] at hobject
      obtain rfl : current = [] := hobject
      refine ⟨runs, [], hdevices, hruns, htrace, device, result, hat, ?_⟩
      simpa using hreports
  | @event e es hcoming =>
      rw [hcoming] at hobject
      obtain ⟨device, result, hat, hreports⟩ := hobject
      refine ⟨runs, e :: current, hdevices, hruns, by rw [htrace]; rfl, device, result, hat, ?_⟩
      simpa using hreports
  | @destroy s' device hat hempty h =>
      rw [hempty] at hobject
      obtain ⟨device', result, ⟨empty, hat'⟩, hreports⟩ := hobject
      -- the only step of the main thread there
      have hidentified : s'.identified = x.threads.identified ++ [device'] := by
        cases h <;> simp_all
      refine ⟨runs ++ [⟨device', result, current⟩], [], ?_, ?_, ?_, rfl⟩
      · rw [List.map_append, hdevices]
        exact hidentified.symm
      · intro run hmem
        rcases List.mem_append.mp hmem with hmem | hmem
        · exact hruns run hmem
        · obtain rfl := List.mem_singleton.mp hmem
          exact hreports
      · simp [htrace]

theorem Accounted.of_reachable (h : (system deliver).Reachable x) : x.Accounted := by
  refine h.invariant ?_ fun x x' _ hx hstep => hx.step hstep
  intro x hinit
  obtain rfl : x = {} := hinit
  exact ⟨[], [], rfl, nofun, rfl, rfl⟩

/-- Every state of the service is one with objects, such as those whose constructor
throws. -/
theorem exists_objects {s : Service ι WString} (h : (service deliver).Reachable s) :
    (system deliver).Reachable ⟨s, none, []⟩ := by
  refine h.invariant (I := fun s => (system deliver).Reachable ⟨s, none, []⟩) ?_ ?_
  · intro s hinit
    obtain rfl : s = {} := hinit
    exact .of_init rfl
  · intro s s' _ hreach hstep
    obtain ⟨halive, hmain | ⟨i, hhandler⟩⟩ := hstep
    · by_cases hbusy : ∃ device, At ⟨s, none, []⟩ device
      · obtain ⟨device, hat⟩ := hbusy
        have hobject := hreach.step (.construct hat rfl (.inl ⟨rfl, rfl⟩))
        exact hobject.step (.destroy hat rfl hmain)
      · exact hreach.step (.main (fun device hat => hbusy ⟨device, hat⟩) hmain)
    · exact hreach.step (.handler i halive hhandler)

end ServiceObjects

open ServiceObjects

/-- **Device objects in the service.** At any time among the steps of all threads
there has been one object for each device that has been identified, in the order
of the queue and one after another, and perhaps one for the device that is being
identified: nothing else was done on handles than what these objects have done,
and they sent every message through the gates. At most one handle is open, only
inside an `identify()`, and never while the main thread holds `devices_mutex_`. -/
theorem objects_ordered [DecidableEq ι] {deliver : Service ι WString → Control WString → Prop}
    {x : ServiceObjects ι} (h : (system deliver).Reachable x) :
    ∃ (runs : List (Iteration WString HiddAttributes HidCapabilities))
      (current : List (OsEvent HiddAttributes HidCapabilities)),
      x.trace = current ++ (runs.map (·.trace)).reverse.flatten ∧
      runs.map (·.device) = x.threads.identified ∧
      runs.map (·.device) ++ x.threads.main.current ++ x.threads.devices = x.threads.pushed ∧
      (∀ run ∈ runs, ReportsDevice run.device run.result run.trace ∧
        AllGated (WindowsHIDDevice.deviceClass run.device)
          (WindowsHIDDevice.decoding run.device) run.trace) ∧
      (x.object = none → current = []) ∧
      (∀ coming, x.object = some coming → ∃ device result, x.At device ∧
        ReportsDevice device result (coming.reverse ++ current) ∧
        AllGated (WindowsHIDDevice.deviceClass device) (WindowsHIDDevice.decoding device)
          current) ∧
      ∃ phase, (handleProtocol _ _).state x.trace = some phase ∧
        (phase.held = true → (∃ device, x.At device) ∧ x.threads.lock ≠ some .main) := by
  obtain ⟨runs, current, hdevices, hruns, htrace, hobject⟩ := Accounted.of_reachable h
  obtain ⟨hconserved, hlock, -⟩ := Service.QueueInv.of_reachable (threads_reachable h)
  have hclosed : (handleProtocol HiddAttributes HidCapabilities).state
      (runs.map (·.trace)).reverse.flatten = some .closed :=
    handleProtocol_flatten (forall_traces fun run hrun => (hruns run hrun).ordered.1)
  have hnone : x.object = none → current = [] := by
    intro hobject'
    simpa [hobject'] using hobject
  have hsome : ∀ coming, x.object = some coming → ∃ device result, x.At device ∧
      ReportsDevice device result (coming.reverse ++ current) := by
    intro coming hcoming
    simpa [hcoming] using hobject
  refine ⟨runs, current, htrace, hdevices, ?_, ?_, hnone, ?_, ?_⟩
  · rw [hdevices]
    exact hconserved
  · exact fun run hmem => ⟨hruns run hmem, (hruns run hmem).ordered.2⟩
  · intro coming hcoming
    obtain ⟨device, result, hat, hreports⟩ := hsome coming hcoming
    exact ⟨device, result, hat, hreports, hreports.ordered.2.of_append⟩
  · rw [htrace, Monitor.state_append hclosed]
    cases hcoming : x.object with
    | none =>
        rw [hnone hcoming]
        exact ⟨.closed, rfl, nofun⟩
    | some coming =>
        obtain ⟨device, result, hat, hreports⟩ := hsome coming hcoming
        -- what it has done is the older part of its trace
        obtain ⟨phase, hphase⟩ := Monitor.state_of_append hreports.ordered.1
        refine ⟨phase, hphase, fun _ => ⟨⟨device, hat⟩, ?_⟩⟩
        intro hmain
        obtain ⟨empty, hat⟩ := hat
        have hcritical := hlock.main.mpr hmain
        rw [hat] at hcritical
        cases hcritical

/-- A device arrives while the handle of another one is open; the callback has got
the mutex. -/
theorem objects_ordered_arrival :
    ∃ x : ServiceObjects Unit, (system fun _ _ => True).Reachable x ∧ x.trace = [.opened] ∧
      x.threads.handler () = .arrivePush rawHidPath ∧ (∃ device, x.At device) ∧
      x.threads.lock ≠ some .main := by
  have hrun : Relation.ReflTransGen Service.MainStep (Service.started : Service Unit WString) _ :=
    .head (.enumerate .startup rfl) <| .head (.device .startup rawHidPath rfl) <|
    .head (.notStopping .startup rawHidPath rfl rfl rfl) <|
    .head (.acquireQueue .startup rawHidPath rfl rfl rfl) <|
    .head (.push .startup rawHidPath rfl) <| .head (.unlockQueue .startup rfl) <|
    .head (.noMoreDevices .startup rfl) <| .head (.acquireReport rfl rfl rfl) <|
    .head (.popDevice rawHidPath [] rfl rfl) <| .single (.unlockDevice rawHidPath true rfl)
  have hthreads : (service fun (_ : Service Unit WString) _ => True).Reachable _ :=
    Service.reachable_run Service.reachable_started hrun
  have hidentifies : IdentifiesNew (WindowsHIDDevice.deviceClass rawHidPath) {} rawHidCalls
      ⟨true, true, some 33⟩ (.ok ()) _ :=
    ⟨{}, _, ⟨.ok (), _, ⟨.ok (), _, ⟨1, by decide, rfl⟩, rfl⟩, rfl⟩, rfl⟩
  have hobject := (exists_objects hthreads).step
    (.construct ⟨true, rfl⟩ rfl (.inr ⟨_, _, hidentifies⟩))
  have hopened := hobject.step (.event (e := .opened) rfl)
  have harriving := hopened.step
    (.handler () nofun (.control (.deviceArrival rawHidPath) rfl trivial))
  have harrived := harriving.step (.handler () nofun (.arriveAcquire rawHidPath rfl rfl rfl))
  obtain ⟨runs, current, -, -, -, -, -, -, phase, hphase, hheld⟩ := objects_ordered harrived
  obtain rfl : HandlePhase.opened = phase := Option.some.inj hphase
  exact ⟨_, harrived, rfl, rfl, hheld rfl⟩

end QmkHidIdentify
