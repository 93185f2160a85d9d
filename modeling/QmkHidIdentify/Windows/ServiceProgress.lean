import QmkHidIdentify.Windows.ServiceQueue
import QmkHidIdentify.Windows.ServiceResources
import QmkHidIdentify.Windows.ServiceStop

/-!
# QmkHidIdentify.Windows.ServiceProgress

What the service comes to. Once `stop_event_` is signalled only a few actions of
the main thread are left (`MainPc.actions`), in every run. Before that, and
after it, a service with valid handles is never stuck: `Serves` are the runs in
which nothing fails, and from every state in which it is running there is one
that serves the queue to its end, or that stops the service.

A thread that waits for `devices_mutex_` is not stuck, since the callback that
holds it can always release it.
-/

namespace QmkHidIdentify

/-- The actions that are left from here on, once `stop_event_` is signalled. -/
def MainPc.actions {α : Type} : MainPc α → Nat
  | .returned | .dead => 0
  | .rethrow => 1
  | .reportStopped _ => 2
  | .wait _ => 3
  | .identify _ _ | .unlockEmpty => 4
  | .unlockDevice _ _ => 5
  | .pop => 6
  | .acquireReport => 7
  | .checkStop _ _ => 8
  | .nextDevice _ => 9
  | .unlockQueue _ | .enumerate _ => 10
  | .push _ _ | .reportRunning => 11
  | .acquireQueue _ _ | .registerNotification => 12
  | .createMutex => 13
  | .createDevice => 14
  | .createPower => 15
  | .createStop => 16
  | .startPending => 17
  | .registerHandler => 18

/-- The main thread has reported RUNNING and not come to its end. -/
def MainPc.serving {α : Type} : MainPc α → Bool
  | .enumerate _ | .nextDevice _ | .checkStop _ _ | .acquireQueue _ _ | .push _ _ => true
  | .unlockQueue _ | .acquireReport | .pop | .unlockEmpty | .unlockDevice _ _ => true
  | .identify _ _ | .wait _ => true
  | _ => false

namespace Service

variable {ι α : Type} {s s' s'' : Service ι α}

/-! ### After the signal -/

/-- The main thread comes nearer to its end with every action. -/
theorem MainStep.actions_lt (hstep : MainStep s s') (hstop : s.stopSet = true) :
    s'.main.actions < s.main.actions := by
  cases hstep with
  | acquireQueueTimeout c device hpc => cases c <;> simp [hpc, MainPc.actions]
  | _ => simp_all [MainPc.actions]

theorem actions_le (s : Service ι α) : s.main.actions ≤ 18 := by
  cases s.main <;> simp [MainPc.actions]

variable [DecidableEq ι] {deliver : Service ι α → Control α → Prop}

/-- A run with a number of actions of the main thread. -/
inductive Acts (deliver : Service ι α → Control α → Prop) (s : Service ι α) :
    Nat → Service ι α → Prop
  | refl : Acts deliver s 0 s
  | main {n : Nat} {s' s'' : Service ι α} (h : Acts deliver s n s') (hstep : MainStep s' s'') :
      Acts deliver s (n + 1) s''
  | handler {n : Nat} {s' s'' : Service ι α} (h : Acts deliver s n s') {i : ι}
      (hstep : HandlerStep deliver i s' s'') : Acts deliver s n s''

theorem Acts.actions_le {n : Nat} (h : Acts deliver s n s') (hstop : s.stopSet = true) :
    s'.stopSet = true ∧ n + s'.main.actions ≤ s.main.actions := by
  induction h with
  | refl => exact ⟨hstop, by omega⟩
  | main _ hstep ih =>
      obtain ⟨hset, hle⟩ := ih
      have hlt := hstep.actions_lt hset
      exact ⟨hstep.stopSet_eq.trans hset, by omega⟩
  | handler _ hstep ih =>
      obtain ⟨hset, hle⟩ := ih
      obtain ⟨hmain, -, hkeeps⟩ := hstep.starts_eq
      exact ⟨hkeeps hset, by rw [hmain]; exact hle⟩

/-! ### Runs in which nothing fails -/

/-- A run that goes on serving: nothing is reported, and nothing is lost. -/
structure Serves (deliver : Service ι α → Control α → Prop) (s s' : Service ι α) : Prop where
  run : Relation.ReflTransGen (Step deliver) s s'
  handles : s'.handles = s.handles
  stopSet : s'.stopSet = s.stopSet
  status : s'.status = s.status
  pushed : s.pushed <+: s'.pushed

theorem Serves.refl (s : Service ι α) : Serves deliver s s :=
  ⟨.refl, rfl, rfl, rfl, List.prefix_rfl⟩

theorem Serves.trans (h : Serves deliver s s') (h' : Serves deliver s' s'') :
    Serves deliver s s'' :=
  ⟨h.run.trans h'.run, h'.handles.trans h.handles, h'.stopSet.trans h.stopSet,
    h'.status.trans h.status, h.pushed.trans h'.pushed⟩

/-- One action of the main thread. -/
theorem Serves.main (hstep : MainStep s s')
    (hsame : s'.handles = s.handles ∧ s'.status = s.status ∧ s.pushed <+: s'.pushed) :
    Serves deliver s s' :=
  ⟨.single ⟨hstep.alive, .inl hstep⟩, hsame.1, hstep.stopSet_eq, hsame.2.1, hsame.2.2⟩

/-- An action that leaves all of this as it is. -/
theorem Serves.quiet (hstep : MainStep s s')
    (hsame : s'.handles = s.handles ∧ s'.status = s.status ∧ s'.pushed = s.pushed) :
    Serves deliver s s' :=
  .main hstep ⟨hsame.1, hsame.2.1, hsame.2.2 ▸ List.prefix_rfl⟩

theorem Serves.reachable (h : Serves deliver s s') (hreach : (service deliver).Reachable s) :
    (service deliver).Reachable s' := by
  obtain ⟨s₀, hinit, hsteps⟩ := hreach
  exact ⟨s₀, hinit, hsteps.trans h.run⟩

/-- The mutex is free and the handles are valid. -/
structure Ready (s : Service ι α) : Prop where
  lock : s.lock = none
  valid : s.handles.valid = true

omit [DecidableEq ι] in
theorem Ready.stopEvent (h : Ready s) : s.handles.stopEvent = true := by
  have hvalid := h.valid
  simp_all [Handles.valid]

omit [DecidableEq ι] in
theorem Ready.devicesMutex (h : Ready s) : s.handles.devicesMutex = true := by
  have hvalid := h.valid
  simp_all [Handles.valid]

omit [DecidableEq ι] in
theorem Ready.waited (h : Ready s) : s.handles.stopEvent = true ∧
    s.handles.powerResumeEvent = true ∧ s.handles.deviceEvent = true := by
  have hvalid := h.valid
  simp_all [Handles.valid]

/-! ### From one device to the next -/

/-- The main thread stops queueing and goes on to the queue. -/
theorem Ready.enumerate_report (h : Ready s) (c : QueueCaller) (hpc : s.main = .enumerate c) :
    ∃ s', Serves deliver s s' ∧ Ready s' ∧ s'.main = .acquireReport ∧
      s'.devices = s.devices :=
  ⟨{ s with main := .acquireReport },
    (Serves.quiet (.enumerate c hpc) ⟨rfl, rfl, rfl⟩).trans
      (.quiet (.noMoreDevices c rfl) ⟨rfl, rfl, rfl⟩), ⟨h.lock, h.valid⟩, rfl, rfl⟩

/-- A device is taken off the queue and identified, or there is none. -/
theorem Ready.report_wait (h : Ready s) (hpc : s.main = .acquireReport) :
    ∃ s', Serves deliver s s' ∧ Ready s' ∧ s'.main = .wait s'.devices.isEmpty ∧
      s'.devices = s.devices.tail := by
  have hacquire : MainStep s _ := .acquireReport hpc h.devicesMutex h.lock
  cases hdevices : s.devices with
  | nil =>
      refine ⟨_, ((Serves.quiet hacquire ⟨rfl, rfl, rfl⟩).trans
        (.quiet (.popEmpty rfl hdevices) ⟨rfl, rfl, rfl⟩)).trans
          (.quiet (.unlockEmpty rfl) ⟨rfl, rfl, rfl⟩), ⟨rfl, h.valid⟩, ?_, ?_⟩
      · simp [hdevices]
      · simp [hdevices]
  | cons device devices =>
      exact ⟨_, (((Serves.quiet hacquire ⟨rfl, rfl, rfl⟩).trans
        (.quiet (.popDevice device devices rfl hdevices) ⟨rfl, rfl, rfl⟩)).trans
          (.quiet (.unlockDevice device _ rfl) ⟨rfl, rfl, rfl⟩)).trans
            (.quiet (.identify device _ rfl) ⟨rfl, rfl, rfl⟩), ⟨rfl, h.valid⟩, rfl, rfl⟩

/-- The main thread can come to the wait of `process_events`. -/
def ToWait (deliver : Service ι α → Control α → Prop) (s : Service ι α) : Prop :=
  ∃ s' infinite, Serves deliver s s' ∧ Ready s' ∧ s'.main = .wait infinite

theorem Serves.toWait (hserves : Serves deliver s s') (h : ToWait deliver s') :
    ToWait deliver s := by
  obtain ⟨s'', infinite, hserves', hready, hpc⟩ := h
  exact ⟨s'', infinite, hserves.trans hserves', hready, hpc⟩

theorem Ready.toWait_acquireReport (h : Ready s) (hpc : s.main = .acquireReport) :
    ToWait deliver s := by
  obtain ⟨s', hserves, hready, hpc', -⟩ := h.report_wait hpc
  exact ⟨s', _, hserves, hready, hpc'⟩

theorem Ready.toWait_nextDevice (h : Ready s) {c : QueueCaller} (hpc : s.main = .nextDevice c) :
    ToWait deliver s :=
  (Serves.quiet (.noMoreDevices c hpc) ⟨rfl, rfl, rfl⟩).toWait
    (Ready.toWait_acquireReport ⟨h.lock, h.valid⟩ rfl)

theorem toWait_unlockQueue (hvalid : s.handles.valid = true) {c : QueueCaller}
    (hpc : s.main = .unlockQueue c) : ToWait deliver s :=
  (Serves.quiet (.unlockQueue c hpc) ⟨rfl, rfl, rfl⟩).toWait
    (Ready.toWait_nextDevice ⟨rfl, hvalid⟩ rfl)

theorem toWait_push (hvalid : s.handles.valid = true) {c : QueueCaller} {device : α}
    (hpc : s.main = .push c device) : ToWait deliver s :=
  (Serves.main (.push c device hpc) ⟨rfl, rfl, List.prefix_append ..⟩).toWait
    (toWait_unlockQueue hvalid rfl)

theorem Ready.toWait_acquireQueue (h : Ready s) {c : QueueCaller} {device : α}
    (hpc : s.main = .acquireQueue c device) : ToWait deliver s :=
  (Serves.quiet (.acquireQueue c device hpc h.devicesMutex h.lock) ⟨rfl, rfl, rfl⟩).toWait
    (toWait_push h.valid rfl)

theorem Ready.toWait_checkStop (h : Ready s) {c : QueueCaller} {device : α}
    (hpc : s.main = .checkStop c device) : ToWait deliver s := by
  cases hstop : s.stopSet with
  | true =>
      exact (Serves.quiet (.stopping c device hpc h.stopEvent hstop) ⟨rfl, rfl, rfl⟩).toWait
        (Ready.toWait_acquireReport ⟨h.lock, h.valid⟩ rfl)
  | false =>
      exact (Serves.quiet (.notStopping c device hpc h.stopEvent hstop) ⟨rfl, rfl, rfl⟩).toWait
        (Ready.toWait_acquireQueue ⟨h.lock, h.valid⟩ rfl)

theorem Ready.toWait_identify (h : Ready s) {device : α} {empty : Bool}
    (hpc : s.main = .identify device empty) : ToWait deliver s :=
  ⟨_, empty, .quiet (.identify device empty hpc) ⟨rfl, rfl, rfl⟩, ⟨h.lock, h.valid⟩, rfl⟩

theorem toWait_unlockDevice (hvalid : s.handles.valid = true) {device : α} {empty : Bool}
    (hpc : s.main = .unlockDevice device empty) : ToWait deliver s :=
  (Serves.quiet (.unlockDevice device empty hpc) ⟨rfl, rfl, rfl⟩).toWait
    (Ready.toWait_identify ⟨rfl, hvalid⟩ rfl)

theorem toWait_unlockEmpty (hvalid : s.handles.valid = true) (hpc : s.main = .unlockEmpty) :
    ToWait deliver s :=
  ⟨_, true, .quiet (.unlockEmpty hpc) ⟨rfl, rfl, rfl⟩, ⟨rfl, hvalid⟩, rfl⟩

theorem toWait_pop (hvalid : s.handles.valid = true) (hpc : s.main = .pop) :
    ToWait deliver s := by
  cases hdevices : s.devices with
  | nil =>
      exact (Serves.quiet (.popEmpty hpc hdevices) ⟨rfl, rfl, rfl⟩).toWait
        (toWait_unlockEmpty hvalid rfl)
  | cons device devices =>
      exact (Serves.quiet (.popDevice device devices hpc hdevices) ⟨rfl, rfl, rfl⟩).toWait
        (toWait_unlockDevice hvalid rfl)

/-- From everywhere, as long as no callback holds the mutex. -/
theorem toWait_serving (hlock : LockInv s) (hfree : ∀ i, s.lock ≠ some (.handler i))
    (hvalid : s.handles.valid = true) (hserving : s.main.serving = true) : ToWait deliver s := by
  have hready : s.main.inCritical = false → Ready s := by
    intro hcritical
    refine ⟨?_, hvalid⟩
    cases hl : s.lock with
    | none => rfl
    | some thread =>
        cases thread with
        | main => simp [hlock.main.mpr hl] at hcritical
        | handler i => exact absurd hl (hfree i)
  cases hpc : s.main with
  | enumerate c =>
      obtain ⟨s', hserves, hready', hpc', -⟩ := (hready (by rw [hpc]; rfl)).enumerate_report c hpc
      exact hserves.toWait (hready'.toWait_acquireReport hpc')
  | nextDevice c => exact (hready (by rw [hpc]; rfl)).toWait_nextDevice hpc
  | checkStop c device => exact (hready (by rw [hpc]; rfl)).toWait_checkStop hpc
  | acquireQueue c device => exact (hready (by rw [hpc]; rfl)).toWait_acquireQueue hpc
  | push c device => exact toWait_push hvalid hpc
  | unlockQueue c => exact toWait_unlockQueue hvalid hpc
  | acquireReport => exact (hready (by rw [hpc]; rfl)).toWait_acquireReport hpc
  | pop => exact toWait_pop hvalid hpc
  | unlockEmpty => exact toWait_unlockEmpty hvalid hpc
  | unlockDevice device empty => exact toWait_unlockDevice hvalid hpc
  | identify device empty => exact (hready (by rw [hpc]; rfl)).toWait_identify hpc
  | wait infinite => exact ⟨s, infinite, .refl s, hready (by rw [hpc]; rfl), hpc⟩
  | _ => simp [hpc, MainPc.serving] at hserving

/-! ### The callback that holds the mutex -/

/-- A callback can release the mutex. -/
def Releases (deliver : Service ι α → Control α → Prop) (s : Service ι α) : Prop :=
  ∃ s', Serves deliver s s' ∧ s'.main = s.main ∧ s'.lock = none

/-- One action of a callback, where the main thread stays. -/
theorem Releases.before {i : ι} (halive : s.main ≠ .dead) (hstep : HandlerStep deliver i s s')
    (hsame : s'.handles = s.handles ∧ s'.stopSet = s.stopSet ∧ s'.status = s.status ∧
      s.pushed <+: s'.pushed) (h : Releases deliver s') : Releases deliver s := by
  obtain ⟨s'', hserves, hmain, hlock⟩ := h
  have hserves' : Serves deliver s s' :=
    ⟨.single ⟨halive, .inr ⟨i, hstep⟩⟩, hsame.1, hsame.2.1, hsame.2.2.1, hsame.2.2.2⟩
  exact ⟨s'', hserves'.trans hserves, hmain.trans hstep.starts_eq.1, hlock⟩

theorem releases_unlock {i : ι} (halive : s.main ≠ .dead) (hpc : s.handler i = .arriveUnlock) :
    Releases deliver s :=
  .before halive (.arriveUnlock hpc) ⟨rfl, rfl, rfl, List.prefix_rfl⟩ ⟨_, .refl _, rfl, rfl⟩

theorem releases_signal {i : ι} (halive : s.main ≠ .dead) (hpc : s.handler i = .arriveSignal) :
    Releases deliver s :=
  .before halive (.arriveSignal hpc) ⟨rfl, rfl, rfl, List.prefix_rfl⟩
    (releases_unlock (i := i) halive (by simp [goto_handler]))

theorem releases_push {i : ι} {device : α} (halive : s.main ≠ .dead)
    (hpc : s.handler i = .arrivePush device) : Releases deliver s :=
  .before halive (.arrivePush device hpc) ⟨rfl, rfl, rfl, List.prefix_append ..⟩
    (releases_signal (i := i) halive (by simp [goto_handler]))

/-- No callback holds the mutex, or the one that does releases it. -/
theorem release (hlock : LockInv s) (halive : s.main ≠ .dead) :
    ∃ s', Serves deliver s s' ∧ s'.main = s.main ∧ ∀ i, s'.lock ≠ some (.handler i) := by
  by_cases hheld : ∃ i, s.lock = some (.handler i)
  · obtain ⟨i, hi⟩ := hheld
    have hcritical := (hlock.handler i).mpr hi
    have hreleases : Releases deliver s := by
      cases hpc : s.handler i with
      | arrivePush device => exact releases_push halive hpc
      | arriveSignal => exact releases_signal halive hpc
      | arriveUnlock => exact releases_unlock halive hpc
      | _ => simp [hpc, HandlerPc.inCritical] at hcritical
    obtain ⟨s', hserves, hmain, hnone⟩ := hreleases
    exact ⟨s', hserves, hmain, fun j => by simp [hnone]⟩
  · exact ⟨s, .refl s, rfl, fun i hi => hheld ⟨i, hi⟩⟩

omit [DecidableEq ι] in
theorem serving_alive (hserving : s.main.serving = true) : s.main ≠ .dead := by
  intro hpc
  rw [hpc] at hserving
  cases hserving

/-- A running service comes to the wait. -/
theorem toWait_of_reachable (hreach : (service deliver).Reachable s)
    (hvalid : s.handles.valid = true) (hserving : s.main.serving = true) : ToWait deliver s := by
  obtain ⟨s', hserves, hmain, hfree⟩ : ∃ s', Serves deliver s s' ∧ s'.main = s.main ∧
      ∀ i, s'.lock ≠ some (.handler i) :=
    release (QueueInv.of_reachable hreach).lock (serving_alive hserving)
  have hlock := (QueueInv.of_reachable (hserves.reachable hreach)).lock
  exact hserves.toWait (toWait_serving hlock hfree (by rw [hserves.handles, hvalid])
    (by rw [hmain, hserving]))

/-! ### Serving the queue -/

/-- From the wait of a service that is not being stopped: it has nothing to do, or
goes on to the queue. -/
theorem Ready.wait_report (h : Ready s) (hreach : (service deliver).Reachable s)
    {infinite : Bool} (hpc : s.main = .wait infinite) (hstop : s.stopSet = false) :
    (infinite = true ∧ s.devices = []) ∨
      ∃ s', Serves deliver s s' ∧ Ready s' ∧ s'.main = .acquireReport ∧
        s'.devices = s.devices := by
  cases hpower : s.powerSet with
  | true =>
      have hready : Ready { s with powerSet := false, main := .enumerate .resume } :=
        ⟨h.lock, h.valid⟩
      obtain ⟨s', hserves, hready', hpc', hdevices⟩ := hready.enumerate_report .resume rfl
      exact .inr ⟨s', (Serves.quiet (.waitPower infinite hpc h.waited hstop hpower)
        ⟨rfl, rfl, rfl⟩).trans hserves, hready', hpc', hdevices⟩
  | false =>
      cases hdevice : s.deviceSet with
      | true =>
          exact .inr ⟨_, .quiet (.waitDevice infinite hpc h.waited hstop hpower hdevice)
            ⟨rfl, rfl, rfl⟩, ⟨h.lock, h.valid⟩, rfl, rfl⟩
      | false =>
          cases infinite with
          | false =>
              exact .inr ⟨_, .quiet (.waitTimeout hpc h.waited hstop hpower hdevice)
                ⟨rfl, rfl, rfl⟩, ⟨h.lock, h.valid⟩, rfl, rfl⟩
          | true =>
              refine .inl ⟨rfl, ?_⟩
              by_contra hne
              have hinv := QueueInv.of_reachable hreach
              rcases hinv.wake.wake (by rw [hpc]; rfl) hne with hset | ⟨i, hi⟩
              · simp [hdevice] at hset
              · have hlock := (hinv.lock.handler i).mp (by rw [hi]; rfl)
                simp [h.lock] at hlock

/-- The main thread waits for the next event with nothing in the queue. -/
def Drained (s : Service ι α) : Prop := s.main = .wait true ∧ s.devices = []

/-- From the wait, one device after the other. -/
theorem Ready.drains (h : Ready s) (hreach : (service deliver).Reachable s) {infinite : Bool}
    (hpc : s.main = .wait infinite) (hstop : s.stopSet = false) :
    ∃ s', Serves deliver s s' ∧ Drained s' := by
  induction hlength : s.devices.length using Nat.strongRecOn generalizing s infinite with
  | _ n ih =>
      rcases h.wait_report hreach hpc hstop with ⟨rfl, hempty⟩ |
        ⟨s₁, hserves₁, hready₁, hpc₁, hdevices₁⟩
      · exact ⟨s, .refl s, hpc, hempty⟩
      · obtain ⟨s₂, hserves₂, hready₂, hpc₂, hdevices₂⟩ :=
          hready₁.report_wait hpc₁
        have hserves := hserves₁.trans hserves₂
        rw [hdevices₁] at hdevices₂
        cases hdevices : s.devices with
        | nil =>
            have hempty : s₂.devices = [] := by rw [hdevices₂, hdevices]; rfl
            exact ⟨s₂, hserves, by rw [hpc₂, hempty]; rfl, hempty⟩
        | cons device devices =>
            have hshorter : s₂.devices.length < n := by
              rw [hdevices₂, ← hlength, hdevices]
              exact Nat.lt_succ_self _
            obtain ⟨s', hserves', hdrained⟩ := ih _ hshorter hready₂ (hserves.reachable hreach)
              hpc₂ (by rw [hserves.stopSet, hstop]) rfl
            exact ⟨s', hserves.trans hserves', hdrained⟩

/-! ### Main results -/

/-- **Stop comes to an end.** Once `stop_event_` is signalled the main thread takes
at most 18 more actions in any run, whatever is in the queue and whatever the
callbacks do; and from every state until then in which the service is running,
it can report STOPPED and return without anything failing. -/
theorem stop_bounded (hstop : s.stopSet = true) {n : Nat} (hrun : Acts deliver s n s') :
    n ≤ 18 ∧ ((service deliver).Reachable s' → s'.handles.valid = true →
      s'.main.serving = true → ∃ s'', Relation.ReflTransGen (Step deliver) s' s'' ∧
        s''.main = .returned ∧ s''.status = s'.status ++ [.stopped]) := by
  obtain ⟨hstop', hle⟩ := hrun.actions_le hstop
  constructor
  · have hmax := s.actions_le
    omega
  · intro hreach hvalid hserving
    obtain ⟨s₁, infinite, hserves, hready, hpc⟩ := toWait_of_reachable hreach hvalid hserving
    have hset : s₁.stopSet = true := hserves.stopSet.trans hstop'
    have hwait : MainStep s₁ _ := .waitStop infinite hpc hready.waited hset
    have hstopped : MainStep { s₁ with main := .reportStopped false } _ := .stopped rfl
    refine ⟨_, (hserves.run.tail ⟨hwait.alive, .inl hwait⟩).tail
      ⟨hstopped.alive, .inl hstopped⟩, rfl, ?_⟩
    rw [← hserves.status]
    rfl

/-- The service is stopped while it queues a device: it can still identify it,
and stop. -/
theorem stop_bounded_queueing :
    ∃ s s' : Service Unit Nat, s.stopSet = true ∧ s.main.actions = 10 ∧ s'.main.actions = 7 ∧
      s'.devices = [5] ∧ ∃ s'', Relation.ReflTransGen (Step fun _ _ => True) s' s'' ∧
        s''.main = .returned ∧ s''.status = s'.status ++ [.stopped] := by
  have hqueued := reachable_main (reachable_main (reachable_main (reachable_main (reachable_main
    (reachable_started : (service fun (_ : Service Unit Nat) _ => True).Reachable started)
      (.enumerate .startup rfl)) (.device .startup 5 rfl)) (.notStopping .startup 5 rfl rfl rfl))
    (.acquireQueue .startup 5 rfl rfl rfl)) (.push .startup 5 rfl)
  have hsignalled := reachable_handler (reachable_handler (reachable_handler hqueued ()
    (.control .stop rfl trivial)) () (.stopReport rfl)) () (.stopSignal rfl)
  obtain ⟨s, s', hreach, hstop, hactions, hactions', hdevices, hvalid, hserving, hrun⟩ :
      ∃ s s' : Service Unit Nat, (service fun _ _ => True).Reachable s' ∧ s.stopSet = true ∧
        s.main.actions = 10 ∧ s'.main.actions = 7 ∧ s'.devices = [5] ∧
        s'.handles.valid = true ∧ s'.main.serving = true ∧ Acts (fun _ _ => True) s 2 s' :=
    ⟨_, _, reachable_main (reachable_main hsignalled (.unlockQueue .startup rfl))
      (.noMoreDevices .startup rfl), rfl, rfl, rfl, rfl, rfl, rfl,
      .main (.main .refl (.unlockQueue .startup rfl)) (.noMoreDevices .startup rfl)⟩
  exact ⟨s, s', hstop, hactions, hactions', hdevices,
    (stop_bounded hstop hrun).2 hreach hvalid hserving⟩

/-- **The queue is never stuck.** From every state in which the service is running
with valid handles and not being stopped, the threads can go on, without a failure
and without stopping, until all paths that were ever queued have been identified
and the main thread waits for the next event. -/
theorem queue_drains (hreach : (service deliver).Reachable s)
    (hvalid : s.handles.valid = true) (hserving : s.main.serving = true)
    (hstop : s.stopSet = false) :
    ∃ s', Relation.ReflTransGen (Step deliver) s s' ∧ s'.main = .wait true ∧
      s'.identified = s'.pushed ∧ s.pushed <+: s'.pushed ∧ s'.status = s.status := by
  obtain ⟨s₁, infinite, hserves₁, hready, hpc⟩ := toWait_of_reachable hreach hvalid hserving
  obtain ⟨s', hserves₂, hpc', hempty⟩ := hready.drains (hserves₁.reachable hreach) hpc
    (hserves₁.stopSet.trans hstop)
  have hserves := hserves₁.trans hserves₂
  have hconserved := (QueueInv.of_reachable (hserves.reachable hreach)).conserved
  refine ⟨s', hserves.run, hpc', ?_, hserves.pushed, hserves.status⟩
  simpa [Conserved, hpc', hempty, MainPc.current] using hconserved

/-- A path that a callback is queueing when the service has just started. -/
theorem queue_drains_arriving :
    ∃ s s' : Service Unit Nat, s.pushed = [] ∧ s.handler () = .arrivePush 5 ∧
      s'.identified = s'.pushed ∧ s.pushed <+: s'.pushed ∧ s'.main = .wait true := by
  have harriving := reachable_handler (reachable_handler
    (reachable_started : (service fun (_ : Service Unit Nat) _ => True).Reachable started)
      () (.control (.deviceArrival 5) rfl trivial)) () (.arriveAcquire 5 rfl rfl rfl)
  obtain ⟨s', -, hpc, hidentified, hpushed, -⟩ := queue_drains harriving rfl rfl rfl
  exact ⟨_, s', rfl, rfl, hidentified, hpushed, hpc⟩

end Service

end QmkHidIdentify
