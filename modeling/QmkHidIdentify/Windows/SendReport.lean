import QmkHidIdentify.Lib.Program
import QmkHidIdentify.Windows.HidIdentify

/-!
# QmkHidIdentify.Windows.SendReport

`send_report` of `windows/hid-identify.cc`, as the calls it makes. Its write is
overlapped: from `WriteFile` on, the system uses the buffer, the `OVERLAPPED` and
the event in it until the write is complete, and that may be at any time. The
function must not end before, whether the wait for the event succeeds or not, and
whether the write is cancelled or not.

`write_safe` says this of every run, and `sendReport_calls_iff` that
`WindowsHIDDevice.sendReport` is what these calls come to.

What is left out: the log, and the device handle, which `Protocol` is about.
-/

namespace QmkHidIdentify

open Program Environment Relation

namespace WindowsHIDDevice

def WAIT_OBJECT_0 : UInt32 := 0
def ERROR_IO_PENDING : UInt32 := 997

inductive WriteCall
  | createEvent
  /-- `WriteFile`, with the overlapped structure -/
  | writeFile (data : List UInt8)
  | waitForSingleObject (ms : UInt32)
  | cancelIo
  /-- `GetOverlappedResult`, which waits -/
  | getOverlappedResult
  /-- `overlapped` goes out of scope -/
  | leaveOverlapped
  /-- `CloseHandle` for the event -/
  | closeEvent

/-- What a call answers; a function that failed answers `false` or `none`, or its
error code where that is looked at. -/
abbrev WriteCall.Answer : WriteCall → Type
  | createEvent => Bool
  | writeFile _ => Except UInt32 Unit
  | waitForSingleObject _ => UInt32
  | getOverlappedResult => Option UInt32
  | cancelIo | leaveOverlapped | closeEvent => Unit

abbrev Writing (α : Type) := Throwing WriteCall WriteCall.Answer Exception α

def request (c : WriteCall) : Writing c.Answer := Program.request c

/-- The end of `send_report`: the result of the write. -/
def overlappedResult (data : List UInt8) : Writing Unit := do
  match ← request .getOverlappedResult with
  | none => throw .ioError
  | some written => if written.toNat ≠ data.length then throw .ioError

/-- `send_report` after `WriteFile`. -/
def awaitWrite (data : List UInt8) : Writing Unit := do
  let res ← request (.waitForSingleObject 1000)
  if res = WAIT_OBJECT_0 then overlappedResult data
  else
    request .cancelIo
    overlappedResult data

/-- `send_report` in the scope of `overlapped`. -/
def writeOverlapped (data : List UInt8) : Writing Unit := do
  match ← request (.writeFile data) with
  | .ok () => awaitWrite data
  | .error error => if error = ERROR_IO_PENDING then awaitWrite data else throw .osError

/-- `send_report`, as its calls. -/
def callSendReport (reportLength : UInt32) (data : List UInt8) : Writing Unit :=
  if reportLength.toNat < data.length then throw .ioLengthError
  else do
    if ← request .createEvent then
      cleanup (cleanup (writeOverlapped (resize data reportLength.toNat)) .leaveOverlapped)
        .closeEvent
    else throw .osError

/-! ### What the calls do -/

/-- The write, as the system sees it. -/
inductive WriteProgress
  | notStarted
  /-- the buffer, the overlapped structure and the event are in use -/
  | pending
  /-- with the number of bytes written, or failed -/
  | complete (written : Option UInt32)
  deriving DecidableEq

structure WriteState where
  /-- there is the event -/
  event : Bool := false
  signalled : Bool := false
  /-- the buffer handed to `WriteFile` -/
  handed : Option (List UInt8) := none
  progress : WriteProgress := .notStarted

/-- What the calls need: the event where they use it, a write whose result is asked
for, and no write that is pending where its memory is freed. -/
def WriteCall.requires (s : WriteState) : WriteCall → Prop
  | createEvent => s.event = false
  | writeFile _ => s.event = true ∧ s.progress = .notStarted
  | waitForSingleObject _ => s.event = true
  | cancelIo => True
  | getOverlappedResult => s.event = true ∧ s.progress ≠ .notStarted
  | leaveOverlapped => s.progress ≠ .pending
  | closeEvent => s.event = true ∧ s.progress ≠ .pending

def WriteCall.answers : (c : WriteCall) → WriteState → c.Answer → WriteState → Prop
  | createEvent, s, created, s' => s' = { s with event := created }
  | writeFile data, s, .ok (), s' =>
      ∃ written, s' = { s with
        handed := some data, progress := .complete written, signalled := true }
  | writeFile data, s, .error e, s' =>
      s' = { s with
        handed := some data
        progress := if e = ERROR_IO_PENDING then .pending else .notStarted }
  | waitForSingleObject _, s, res, s' => s' = s ∧ (res = WAIT_OBJECT_0 → s.signalled = true)
  -- a write that is cancelled is complete when the system says so
  | cancelIo, s, _, s' => s' = s
  -- answered when the write is complete
  | getOverlappedResult, s, written, s' => s' = s ∧ s.progress = .complete written
  | leaveOverlapped, s, _, s' => s' = s
  | closeEvent, s, _, s' => s' = { s with event := false }

/-- The system completes the write. -/
inductive Completes (s : WriteState) : WriteState → Prop
  | complete (written : Option UInt32) (h : s.progress = .pending) :
      Completes s { s with progress := .complete written, signalled := true }

def overlappedWrites : Environment WriteCall WriteCall.Answer WriteState where
  other := Completes
  requires c s := c.requires s
  answers := WriteCall.answers

/-- Every call is answered, the result of a write when the system has completed
it. -/
theorem overlappedWrites_responsive : overlappedWrites.Responsive := by
  intro c s hrequires
  cases c with
  | createEvent => exact ⟨s, false, _, .refl, rfl⟩
  | writeFile data => exact ⟨s, .error ERROR_IO_PENDING, _, .refl, rfl⟩
  | waitForSingleObject ms => exact ⟨s, 258, s, .refl, rfl, by simp [WAIT_OBJECT_0]⟩
  | cancelIo => exact ⟨s, (), s, .refl, rfl⟩
  | getOverlappedResult =>
      cases hprogress : s.progress with
      | notStarted => exact absurd hprogress hrequires.2
      | pending => exact ⟨_, none, _, .single (.complete none hprogress), rfl, rfl⟩
      | complete written => exact ⟨s, written, s, .refl, rfl, hprogress⟩
  | leaveOverlapped => exact ⟨s, (), s, .refl, rfl⟩
  | closeEvent => exact ⟨s, (), _, .refl, rfl⟩

/-! ### The function -/

variable {reportLength : UInt32} {data : List UInt8} {s s' : WriteState}

/-- The write has been started. -/
structure Started (data : List UInt8) (s : WriteState) : Prop where
  event : s.event = true
  handed : s.handed = some data
  started : s.progress ≠ .notStarted

theorem started_stable (s s' : WriteState) (h : Completes s s') (hs : Started data s) :
    Started data s' := by
  obtain ⟨written, hpending⟩ := h
  exact ⟨hs.event, hs.handed, nofun⟩

/-- The event is there, and the write has not been started. -/
structure Prepared (s : WriteState) : Prop where
  event : s.event = true
  unstarted : s.progress = .notStarted

theorem Completes.elim (h : Completes s s') (hidle : s.progress ≠ .pending) {P : Prop} : P := by
  obtain ⟨written, hpending⟩ := h
  exact (hidle hpending).elim

theorem prepared_stable (s s' : WriteState) (h : Completes s s') (hs : Prepared s) :
    Prepared s' := h.elim (by simp [hs.unstarted])

/-- The write has come to its end, and the function to this result. -/
structure Written (data : List UInt8) (r : Except Exception Unit) (s : WriteState) : Prop where
  event : s.event = true
  idle : s.progress ≠ .pending
  handed : s.handed = some data
  result : (s.progress = .notStarted ∧ r = .error .osError) ∨
    ∃ written, s.progress = .complete written ∧
      r = if written.map UInt32.toNat = some data.length then .ok () else .error .ioError

theorem ensures_overlappedResult (hs : Started data s) :
    overlappedWrites.Ensures s (overlappedResult data) (Written data) := by
  refine ensures_call_stable started_stable hs (fun s₁ h => ⟨h.event, h.started⟩) ?_
  intro s₁ written s' h hanswer
  obtain ⟨rfl, hprogress⟩ := hanswer
  have hwritten : ∀ r : Except Exception Unit,
      (r = if written.map UInt32.toNat = some data.length then .ok () else .error .ioError) →
        Written data r s' :=
    fun r hr => ⟨h.event, by simp [hprogress], h.handed, .inr ⟨written, hprogress, hr⟩⟩
  cases written with
  | none => exact hwritten _ rfl
  | some n =>
      by_cases hlength : n.toNat = data.length
      · simp only [hlength, ne_eq, not_true_eq_false, if_false]
        exact hwritten _ (by simp [hlength])
      · simp only [hlength, ne_eq, not_false_eq_true, if_true]
        exact hwritten _ (by simp [hlength])

theorem ensures_awaitWrite (hs : Started data s) :
    overlappedWrites.Ensures s (awaitWrite data) (Written data) := by
  refine ensures_call_stable started_stable hs (fun s₁ h => h.event) ?_
  intro s₁ res s' h hanswer
  obtain ⟨rfl, -⟩ := hanswer
  split
  · exact ensures_overlappedResult h
  · -- whether or not there was still something to cancel
    refine ensures_call_stable started_stable h (fun _ _ => trivial) ?_
    intro s₂ _ s' h hanswer
    obtain rfl : s' = s₂ := hanswer
    exact ensures_overlappedResult h

theorem ensures_writeOverlapped (hs : Prepared s) :
    overlappedWrites.Ensures s (writeOverlapped data) (Written data) := by
  refine ensures_call_stable prepared_stable hs (fun s₁ h => ⟨h.event, h.unstarted⟩) ?_
  intro s₁ r s' h hanswer
  cases r with
  | ok _ =>
      obtain ⟨written, rfl⟩ := hanswer
      exact ensures_awaitWrite ⟨h.event, rfl, nofun⟩
  | error e =>
      obtain rfl := hanswer
      by_cases hpending : e = ERROR_IO_PENDING
      · simp only [hpending, if_true]
        exact ensures_awaitWrite ⟨h.event, rfl, nofun⟩
      · simp only [hpending, if_false]
        exact ⟨h.event, nofun, rfl, .inl ⟨rfl, rfl⟩⟩

theorem written_stable {buffer : List UInt8} (r : Except Exception Unit) (s s' : WriteState)
    (h : Completes s s') (hs : Written buffer r s) : Written buffer r s' := h.elim hs.idle

/-- The function has ended, and nothing of it is in use. -/
structure WriteEnds (reportLength : UInt32) (data : List UInt8) (r : Except Exception Unit)
    (s : WriteState) : Prop where
  event : s.event = false
  idle : s.progress ≠ .pending
  whole : r = .ok () → s.progress = .complete (some reportLength)
  result : ∃ w, sendReport reportLength w data = (r, s.handed)

theorem sendReport_written (hlength : data.length ≤ reportLength.toNat)
    (written : Option UInt32) :
    sendReport reportLength ⟨true, true, written⟩ data =
      (if written.map UInt32.toNat = some (resize data reportLength.toNat).length then .ok ()
        else .error .ioError, some (resize data reportLength.toNat)) := by
  rw [sendReport, if_neg (Nat.not_lt.mpr hlength)]
  cases written with
  | none => rfl
  | some n =>
      by_cases hn : n.toNat = reportLength.toNat
      · simp [hn]
      · simp [hn]

/-- What is left when the event is closed. -/
theorem Written.ends {r : Except Exception Unit} (hlength : data.length ≤ reportLength.toNat)
    (h : Written (resize data reportLength.toNat) r s) :
    WriteEnds reportLength data r { s with event := false } := by
  obtain ⟨-, hidle, hhanded, hresult⟩ := h
  rcases hresult with ⟨hprogress, rfl⟩ | ⟨written, hprogress, rfl⟩
  · refine ⟨rfl, hidle, nofun, ⟨true, false, none⟩, ?_⟩
    simp [sendReport, Nat.not_lt.mpr hlength, hhanded]
  · refine ⟨rfl, hidle, ?_, ⟨true, true, written⟩, ?_⟩
    · intro hok
      cases written with
      | none => simp at hok
      | some n =>
          have hn : n.toNat = reportLength.toNat := by simpa [length_resize] using hok
          simp [hprogress, UInt32.toNat_inj.mp hn]
    · rw [sendReport_written hlength, hhanded]

theorem ensures_callSendReport :
    overlappedWrites.Ensures {} (callSendReport reportLength data)
      (WriteEnds reportLength data) := by
  by_cases hshort : reportLength.toNat < data.length
  · rw [callSendReport, if_pos hshort]
    refine ensures_throw.mpr ⟨rfl, nofun, nofun, ⟨false, false, none⟩, ?_⟩
    simp [sendReport, hshort]
  · rw [callSendReport, if_neg hshort]
    refine ensures_call_stable (I := fun s => s = {}) ?_ rfl (fun s₁ h => h ▸ rfl) ?_
    · intro s s' h hs
      exact Completes.elim h (by simp [hs])
    · intro s₁ created s' h hanswer
      obtain rfl := h
      obtain rfl := hanswer
      cases created with
      | false =>
          refine ensures_throw.mpr ⟨rfl, nofun, nofun, ⟨false, false, none⟩, ?_⟩
          simp [sendReport, hshort]
      | true =>
          have hwrite : overlappedWrites.Ensures { event := true }
              (writeOverlapped (resize data reportLength.toNat))
              (Written (resize data reportLength.toNat)) := ensures_writeOverlapped ⟨rfl, rfl⟩
          have hscope : overlappedWrites.Ensures { event := true }
              (cleanup (writeOverlapped (resize data reportLength.toNat)) .leaveOverlapped)
              (Written (resize data reportLength.toNat)) :=
            ensures_cleanup_stable written_stable hwrite (fun r s h => h.idle)
              fun r s _ s' h hanswer => hanswer ▸ h
          refine ensures_cleanup_stable written_stable hscope (fun r s h => ⟨h.event, h.idle⟩) ?_
          intro r s _ s' h hanswer
          obtain rfl := hanswer
          exact h.ends (Nat.le_of_not_lt hshort)

theorem uncut_overlappedResult : Uncut (overlappedResult data).run := by
  apply uncut_request
  intro written
  cases written with
  | none => trivial
  | some n =>
      dsimp only
      split <;> trivial

theorem uncut_awaitWrite : Uncut (awaitWrite data).run := by
  apply uncut_request
  intro res
  split
  · exact uncut_overlappedResult
  · exact uncut_request fun _ => uncut_overlappedResult

theorem uncut_writeOverlapped : Uncut (writeOverlapped data).run := by
  apply uncut_request
  intro r
  cases r with
  | ok _ => exact uncut_awaitWrite
  | error e =>
      dsimp only
      split
      · exact uncut_awaitWrite
      · trivial

theorem uncut_callSendReport : Uncut (callSendReport reportLength data).run := by
  unfold callSendReport
  split
  · trivial
  · apply uncut_request
    intro created
    cases created with
    | false => trivial
    | true => exact uncut_writeOverlapped.cleanup.cleanup

/-! ### Main results -/

/-- **Nothing is freed under a write.** However the calls of `send_report` end and
whenever the system completes the write, no call is made where it is not allowed:
`overlapped` is left and its event closed only when no write is pending. The function
always can come to its end, has then closed the event, and has returned normally
only if the whole report was written. -/
theorem write_safe {p : Program WriteCall WriteCall.Answer (Except Exception Unit)}
    (hrun : (overlappedWrites.running (callSendReport reportLength data).run {}).Reachable
      (p, s)) :
    (∀ c next, p = .call c next → c.requires s) ∧
      (∃ r s', ReflTransGen (Step overlappedWrites) (p, s) (.done r, s')) ∧
      ∀ r, p = .done r → s.event = false ∧ s.progress ≠ .pending ∧
        (r = .ok () → s.progress = .complete (some reportLength)) := by
  obtain ⟨hcalls, hdone⟩ := wp_sound ensures_callSendReport hrun
  refine ⟨hcalls, wp_progress overlappedWrites_responsive ensures_callSendReport
    uncut_callSendReport hrun, ?_⟩
  intro r hp
  obtain ⟨s₀, hothers, hends⟩ := hdone r hp
  rcases ReflTransGen.cases_head hothers with rfl | ⟨s₁, hother, -⟩
  · exact ⟨hends.event, hends.idle, hends.whole⟩
  · exact Completes.elim hother hends.idle

/-- The wait times out, and the write is cancelled and still pending. -/
theorem write_safe_cancelled :
    ∃ (p : Program WriteCall WriteCall.Answer (Except Exception Unit)) (s : WriteState),
      s.progress = .pending ∧ (∃ next, p = .call .getOverlappedResult next) ∧
      ∃ r s', ReflTransGen (Step overlappedWrites) (p, s) (.done r, s') := by
  have hcreate : overlappedWrites.answers .createEvent {} true { event := true } := rfl
  have hwrite : overlappedWrites.answers (.writeFile (resize [0, 0, 1] 8)) { event := true }
      (.error ERROR_IO_PENDING) _ := rfl
  have hwait : overlappedWrites.answers (.waitForSingleObject 1000)
      { event := true, handed := some (resize [0, 0, 1] 8), progress := .pending } 258 _ :=
    ⟨rfl, by simp [WAIT_OBJECT_0]⟩
  have hcancel : overlappedWrites.answers .cancelIo
      { event := true, handed := some (resize [0, 0, 1] 8), progress := .pending } () _ := rfl
  obtain ⟨p, s, hrun, hpending, hcall⟩ :
      ∃ p s, (overlappedWrites.running (callSendReport 8 [0, 0, 1]).run {}).Reachable (p, s) ∧
        s.progress = .pending ∧ ∃ next, p = .call .getOverlappedResult next :=
    ⟨_, _, ⟨_, rfl, .head (.call _ _ _ hcreate) (.head (.call _ _ _ hwrite)
      (.head (.call _ _ _ hwait) (.single (.call _ _ _ hcancel))))⟩, rfl, _, rfl⟩
  exact ⟨p, s, hpending, hcall, (write_safe hrun).2.1⟩

theorem ends_overlappedResult {buffer : List UInt8} {written : Option UInt32}
    (hprogress : s.progress = .complete written) :
    overlappedWrites.Ends (overlappedResult buffer).run s
      (if written.map UInt32.toNat = some buffer.length then .ok () else .error .ioError) s := by
  refine ends_request written ⟨rfl, hprogress⟩ ?_
  cases written with
  | none => exact .done _ s
  | some n =>
      by_cases hlength : n.toNat = buffer.length
      · simp only [hlength, ne_eq, not_true_eq_false, if_false, Option.map_some, if_true]
        exact .done _ s
      · simp only [hlength, ne_eq, not_false_eq_true, Option.map_some, Option.some.injEq,
          if_true, if_false]
        exact .done _ s

/-- There are calls for all that `sendReport` is given. -/
theorem ends_callSendReport (reportLength : UInt32) (data : List UInt8) (w : WriteCalls) :
    ∃ s, overlappedWrites.Ends (callSendReport reportLength data).run {}
      (sendReport reportLength w data).1 s ∧ s.handed = (sendReport reportLength w data).2 := by
  obtain ⟨event, writeFile, written⟩ := w
  by_cases hshort : reportLength.toNat < data.length
  · rw [callSendReport, if_pos hshort, sendReport, if_pos hshort]
    exact ⟨{}, .done _ _, rfl⟩
  · rw [callSendReport, if_neg hshort]
    cases event with
    | false =>
        rw [sendReport, if_neg hshort]
        exact ⟨_, ends_request false rfl (.done _ _), rfl⟩
    | true =>
        cases writeFile with
        | false =>
            rw [sendReport, if_neg hshort]
            have hwrite : overlappedWrites.Ends
                (writeOverlapped (resize data reportLength.toNat)).run { event := true }
                (.error .osError) _ := ends_request (.error 0) rfl (.done _ _)
            exact ⟨_, ends_request true rfl (ends_cleanup () (ends_cleanup () hwrite rfl) rfl), rfl⟩
        | true =>
            rw [sendReport_written (Nat.le_of_not_lt hshort)]
            have hwrite : overlappedWrites.Ends
                (writeOverlapped (resize data reportLength.toNat)).run { event := true } _ _ :=
              ends_request (.ok ()) ⟨written, rfl⟩
                (ends_request WAIT_OBJECT_0 ⟨rfl, fun _ => rfl⟩ (ends_overlappedResult rfl))
            exact ⟨_, ends_request true rfl (ends_cleanup () (ends_cleanup () hwrite rfl) rfl), rfl⟩

/-- **The calls come to `sendReport`.** What `send_report` can come to, in any
order of its calls and of the completion of the write, and the buffer it hands to
`WriteFile`, are those of `sendReport`. -/
theorem sendReport_calls_iff (r : Except Exception Unit) (buffer : Option (List UInt8)) :
    (∃ s, (overlappedWrites.running (callSendReport reportLength data).run {}).Reachable
        (.done r, s) ∧ s.handed = buffer) ↔
      ∃ w, sendReport reportLength w data = (r, buffer) := by
  constructor
  · intro h
    obtain ⟨s, hrun, rfl⟩ := h
    obtain ⟨s₀, hothers, hends⟩ := (wp_sound ensures_callSendReport hrun).2 r rfl
    rcases ReflTransGen.cases_head hothers with rfl | ⟨s₁, hother, -⟩
    · exact hends.result
    · exact Completes.elim hother hends.idle
  · intro h
    obtain ⟨w, hw⟩ := h
    obtain ⟨s, hends, hhanded⟩ := ends_callSendReport reportLength data w
    rw [hw] at hends hhanded
    exact ⟨s, hends.reachable, hhanded⟩

end WindowsHIDDevice

end QmkHidIdentify
