import QmkHidIdentify.Windows.Service

/-!
# QmkHidIdentify.Windows.ServiceStop

What the main thread still does once `stop_event_` is signalled. The event is
tested in `queue_all_devices` and in the wait of `process_events`, but a device
is taken off the queue and identified before that wait. `MainPc.remaining` says
how many devices may still be started from each point of the main thread, and no
action raises what has been started and may still be.
-/

namespace QmkHidIdentify

/-- The devices that are still started from here on, once `stop_event_` is
signalled. -/
def MainPc.remaining {α : Type} : MainPc α → Nat
  | .unlockEmpty | .identify _ _ | .wait _ => 0
  | .reportStopped _ | .rethrow | .returned | .dead => 0
  | _ => 1

/-- The main thread is in an `identify`. -/
def MainPc.identifying {α : Type} : MainPc α → Nat
  | .identify _ _ => 1
  | _ => 0

theorem MainPc.remaining_le {α : Type} (pc : MainPc α) : pc.remaining ≤ 1 := by
  cases pc <;> simp [MainPc.remaining]

namespace Service

variable {ι α : Type} {s s' : Service ι α}

/-- The calls of `identify` that have been started. -/
def starts (s : Service ι α) : Nat := s.identified.length + s.main.identifying

/-- `stop_event_` is never reset by the main thread. -/
theorem MainStep.stopSet_eq (hstep : MainStep s s') : s'.stopSet = s.stopSet := by
  cases hstep <;> rfl

/-- An action of the main thread after the signal: a device that is started is
one of those that remained. -/
theorem MainStep.starts_le (hstep : MainStep s s') (hstop : s.stopSet = true) :
    s'.starts + s'.main.remaining ≤ s.starts + s.main.remaining := by
  unfold starts
  cases hstep with
  | notStopping c device hpc valid stop =>
      -- past the test only if the event is not signalled
      rw [hstop] at stop
      cases stop
  | waitPower infinite hpc valid stop power =>
      rw [hstop] at stop
      cases stop
  | waitDevice infinite hpc valid stop power device =>
      rw [hstop] at stop
      cases stop
  | waitTimeout hpc valid stop power device =>
      rw [hstop] at stop
      cases stop
  | acquireQueueTimeout c device hpc =>
      cases c <;> simp [hpc, MainPc.remaining, MainPc.identifying]
  | _ => simp_all [MainPc.remaining, MainPc.identifying, report, enqueue]

variable [DecidableEq ι] {deliver : Service ι α → Control α → Prop}

/-- A callback does not start devices, and does not reset `stop_event_`. -/
theorem HandlerStep.starts_eq {i : ι} (hstep : HandlerStep deliver i s s') :
    s'.main = s.main ∧ s'.starts = s.starts ∧ (s.stopSet = true → s'.stopSet = true) := by
  refine ⟨by cases hstep <;> rfl, by cases hstep <;> rfl, ?_⟩
  intro hstop
  cases hstep <;> simp [goto, report, enqueue, hstop]

theorem Step.starts_le (hstep : Step deliver s s') (hstop : s.stopSet = true) :
    s'.stopSet = true ∧ s'.starts + s'.main.remaining ≤ s.starts + s.main.remaining := by
  obtain ⟨-, hmain | ⟨i, hhandler⟩⟩ := hstep
  · exact ⟨hmain.stopSet_eq.trans hstop, hmain.starts_le hstop⟩
  · obtain ⟨hpc, hstarts, hset⟩ := hhandler.starts_eq
    exact ⟨hset hstop, Nat.le_of_eq (by rw [hpc, hstarts])⟩

/-- Over any run after the signal, at most what remained is started. -/
theorem run_starts_le (hstop : s.stopSet = true)
    (hrun : Relation.ReflTransGen (Step deliver) s s') :
    s'.stopSet = true ∧ s'.starts + s'.main.remaining ≤ s.starts + s.main.remaining := by
  induction hrun with
  | refl => exact ⟨hstop, Nat.le_refl _⟩
  | tail _ hstep ih =>
      obtain ⟨hset, hle⟩ := ih
      obtain ⟨hset', hle'⟩ := hstep.starts_le hset
      exact ⟨hset', Nat.le_trans hle' hle⟩

/-- **Stop takes effect between devices.** Once `stop_event_` is signalled, the
main thread starts at most one more device, wherever it was. -/
theorem stop_between_devices (hstop : s.stopSet = true)
    (hrun : Relation.ReflTransGen (Step deliver) s s') : s'.starts ≤ s.starts + 1 := by
  obtain ⟨-, hle⟩ := run_starts_le hstop hrun
  have hremaining := s.main.remaining_le
  omega

/-- The service is stopped while it queues two devices; it still starts the
first of them. -/
theorem stop_between_devices_queueing :
    ∃ s s' : Service Unit Nat, (service fun _ _ => True).Reachable s ∧ s.stopSet = true ∧
      s.starts = 0 ∧ s'.starts = 1 ∧ s'.starts ≤ s.starts + 1 := by
  have hqueued := reachable_main (reachable_main (reachable_main (reachable_main (reachable_main
    (reachable_main
      (reachable_started : (service fun (_ : Service Unit Nat) _ => True).Reachable started)
      (.enumerate .startup rfl)) (.device .startup 5 rfl)) (.notStopping .startup 5 rfl rfl rfl))
    (.acquireQueue .startup 5 rfl rfl rfl)) (.push .startup 5 rfl)) (.unlockQueue .startup rfl)
  have hsignalled := reachable_handler (reachable_handler (reachable_handler hqueued ()
    (.control .stop rfl trivial)) () (.stopReport rfl)) () (.stopSignal rfl)
  obtain ⟨s, s', hs, hstop, hstarts, hstarts', hrun⟩ :
      ∃ s s' : Service Unit Nat, (service fun _ _ => True).Reachable s ∧ s.stopSet = true ∧
        s.starts = 0 ∧ s'.starts = 1 ∧ Relation.ReflTransGen (Step fun _ _ => True) s s' :=
    ⟨_, _, hsignalled, rfl, rfl, rfl, .head ⟨nofun, .inl (.device .startup 6 rfl)⟩ <|
      .head ⟨nofun, .inl (.stopping .startup 6 rfl rfl rfl)⟩ <|
      .head ⟨nofun, .inl (.acquireReport rfl rfl rfl)⟩ <|
      .head ⟨nofun, .inl (.popDevice 5 [] rfl rfl)⟩ <|
      .single ⟨nofun, .inl (.unlockDevice 5 true rfl)⟩⟩
  exact ⟨s, s', hs, hstop, hstarts, hstarts', stop_between_devices hstop hrun⟩

end Service

end QmkHidIdentify
