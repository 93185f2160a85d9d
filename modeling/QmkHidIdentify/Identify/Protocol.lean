import QmkHidIdentify.Identify.Session
import QmkHidIdentify.Lib.Monitor

/-!
# QmkHidIdentify.Identify.Protocol

The order of the system calls on the handle of an object, as a monitor of its
trace. A handle is opened when there is none and closed when there is one. In
between come the device info, then the descriptor, then messages; a buffer is
only written for the message before it, and only once, and it is that message
followed by zeros.

The monitor accepts the trace of every object after any sequence of public calls,
and the destructor leaves no handle.
-/

namespace QmkHidIdentify

/-- How far the calls on a handle have come. -/
inductive HandlePhase
  | closed
  | opened
  /-- the device info has been read -/
  | informed
  /-- the descriptor has been read, and nothing is left to be written -/
  | ready
  /-- the platform `send_report` has been entered with a message -/
  | sending (data : List UInt8)
  deriving DecidableEq, Repr

namespace HandlePhase

/-- There is a handle. -/
def held : HandlePhase → Bool
  | closed => false
  | _ => true

/-- Both queries have been made. -/
def queried : HandlePhase → Bool
  | ready | sending _ => true
  | _ => false

end HandlePhase

variable {I D P S T : Type}

/-- The buffer is the message with zeros after it. -/
def Extends (buffer data : List UInt8) : Prop :=
  buffer = data ++ List.replicate (buffer.length - data.length) 0

instance (buffer data : List UInt8) : Decidable (Extends buffer data) :=
  inferInstanceAs (Decidable (_ = _))

theorem extends_append (data : List UInt8) (n : Nat) :
    Extends (data ++ List.replicate n 0) data := by
  simp [Extends]

/-- The order of the calls on a handle. -/
def handleProtocol (I D : Type) : Monitor HandlePhase (OsEvent I D) where
  start := .closed
  step
    | .closed, .opened => some .opened
    | .opened, .info _ | .informed, .info _ => some .informed
    | .informed, .descriptor _ => some .ready
    | .ready, .sent data | .sending _, .sent data => some (.sending data)
    | .sending data, .written buffer => if Extends buffer data then some .ready else none
    | phase, .closed => if phase.held then some .closed else none
    | _, _ => none

theorem handleProtocol_closed {phase : HandlePhase} (h : phase.held = true) :
    (handleProtocol I D).step phase .closed = some .closed := by
  cases phase with
  | closed => cases h
  | _ => rfl

theorem handleProtocol_sent {phase : HandlePhase} (h : phase.queried = true) (data : List UInt8) :
    (handleProtocol I D).step phase (.sent data) = some (.sending data) := by
  cases phase with
  | ready | sending => rfl
  | _ => cases h

theorem handleProtocol_written (data : List UInt8) (n : Nat) :
    (handleProtocol I D).step (.sending data) (.written (data ++ List.replicate n 0)) =
      some .ready := if_pos (extends_append data n)

/-- Queries of the device info after a handle was opened. -/
theorem handleProtocol_infos {past : List (OsEvent I D)}
    (h : (handleProtocol I D).state past = some .closed) (is : List I) :
    (handleProtocol I D).state (is.map .info ++ .opened :: past) = some .opened ∨
      (handleProtocol I D).state (is.map .info ++ .opened :: past) = some .informed := by
  induction is with
  | nil => exact .inl (Monitor.state_cons h _)
  | cons i is ih =>
      refine .inr ?_
      rw [List.map_cons, List.cons_append]
      rcases ih with ih | ih
      · exact Monitor.state_cons ih _
      · exact Monitor.state_cons ih _

/-! ### The invariant -/

/-- The calls on the handles of an object came in order, and its members say how
far they are. -/
def Ordered (d : Device I D P) : Prop :=
  ∃ phase, (handleProtocol I D).state d.trace = some phase ∧ phase.held = d.handle ∧
    (phase.queried = false → OsEvent.descriptors d.trace = [])

/-- What a platform `send_report` may write. -/
def WritesMessage (C : DeviceClass I D P S T) : Prop :=
  ∀ t data d, (C.sendPlatform t data d).2 = d ∨
    ∃ n, (C.sendPlatform t data d).2 = d.record (.written (data ++ List.replicate n 0))

variable {C : DeviceClass I D P S T} {dec : Decoding I D} {d d' : Device I D P}

theorem Ordered.new (info : USBDeviceInfo) (own : P) :
    Ordered (Device.new info own : Device I D P) :=
  ⟨.closed, rfl, rfl, fun _ => rfl⟩

theorem Ordered.free (h : Ordered d) (hhandle : d.handle = false) :
    (handleProtocol I D).state d.trace = some .closed := by
  obtain ⟨phase, hstate, hheld, -⟩ := h
  rw [hhandle] at hheld
  cases phase with
  | closed => exact hstate
  | _ => cases hheld

/-- Closing the handle leaves none, whether there was one or not. -/
theorem Ordered.release (h : Ordered d) :
    (handleProtocol I D).state d.release.trace = some .closed ∧ d.release.handle = false := by
  cases hhandle : d.handle with
  | false => simpa [Device.release, hhandle] using h.free hhandle
  | true =>
      obtain ⟨phase, hstate, hheld, -⟩ := h
      rw [Device.release, if_pos hhandle, Device.record_trace, Monitor.state_cons hstate]
      exact ⟨handleProtocol_closed (hheld.trans hhandle), rfl⟩

theorem Ordered.openPlatform (hC : Lawful C dec) (h : Ordered d) {s : S}
    {result : Except Exception Unit} (hopen : C.openPlatform s d (result, d')) : Ordered d' := by
  cases hhandle : d.handle with
  | true =>
      obtain ⟨-, rfl⟩ := by simpa using (hC.open_held s d _ hhandle).mp hopen
      exact h
  | false =>
      have hclosed := h.free hhandle
      have houtcome := hC.open_free s d _ hhandle hopen
      generalize hr : (result, d') = r at houtcome
      cases houtcome with
      | unavailable e =>
          obtain ⟨-, rfl⟩ := by simpa using hr
          exact h
      | half e d₁ is handle trace reports =>
          obtain ⟨-, rfl⟩ := by simpa using hr
          have hnone : OsEvent.descriptors d'.trace = [] := by
            rw [trace, (infos_append C dec is _).2.1]
            rfl
          rcases handleProtocol_infos hclosed is with hstate | hstate
          · exact ⟨.opened, by rw [trace, hstate], handle.symm, fun _ => hnone⟩
          · exact ⟨.informed, by rw [trace, hstate], handle.symm, fun _ => hnone⟩
      | complete d₁ i c rs handle trace info decodes reports =>
          obtain ⟨-, rfl⟩ := by simpa using hr
          have hopened := Monitor.state_cons hclosed .opened
          have hinformed := Monitor.state_cons hopened (.info i)
          have hready := Monitor.state_cons hinformed (.descriptor c)
          exact ⟨.ready, by rw [trace, hready]; rfl, handle.symm, fun hq => by cases hq⟩

theorem Ordered.close (hC : Lawful C dec) (h : Ordered d) : Ordered (C.close d) := by
  obtain ⟨own, hreset⟩ := hC.reset { d with deviceInfo := {}, reports := [], reportCount := 0 }
  have hcleared : Ordered { d with deviceInfo := {}, reports := [], reportCount := 0 } := h
  obtain ⟨hstate, hhandle⟩ := hcleared.release
  rw [DeviceClass.close, hreset]
  refine ⟨.closed, hstate, hhandle.symm, ?_⟩
  intro _
  unfold Device.release
  split
  · rfl
  · next hfree =>
      obtain ⟨phase, hphase, hheld, hnone⟩ := h
      have hnone := hnone (by cases phase <;> simp_all [HandlePhase.held, HandlePhase.queried])
      exact hnone

/-- A message is only handed over after both queries. -/
theorem Ordered.identifyOpened (hwrites : WritesMessage C) (hinv : DeviceInv C dec d)
    (h : Ordered d) (t : T) : Ordered (C.identifyOpened t d).2 := by
  obtain ⟨phase, hstate, hheld, hnone⟩ := h
  obtain ⟨count, hresult⟩ := C.identifyOpened_eq t d
  rw [hresult]
  cases hmessage : identifyMessage C.platform d.deviceInfo d.reports with
  | error e => exact ⟨phase, hstate, hheld, hnone⟩
  | ok data =>
      have hqueried : phase.queried = true := by
        rcases hinv.init with ⟨hreports, -⟩ | hcomplete
        · obtain ⟨-, n, hcount, -⟩ := identifyMessage_ok hmessage
          simp [hreports, firstRawCount] at hcount
        · obtain ⟨c, hdescriptor, -⟩ := hcomplete.reports
          refine Bool.not_eq_false _ ▸ fun hfalse => ?_
          rw [hnone hfalse] at hdescriptor
          cases hdescriptor
      have hhandle : d.handle = true := by
        cases phase with
        | ready | sending => exact hheld.symm
        | _ => cases hqueried
      have hsent := Monitor.state_cons hstate (.sent data)
      rw [handleProtocol_sent hqueried] at hsent
      dsimp only
      rcases hwrites t data ({ d with reportCount := count }.record (.sent data)) with
        hsame | ⟨n, hwritten⟩
      · rw [hsame]
        exact ⟨_, hsent, hhandle.symm, fun hq => by cases hq⟩
      · rw [hwritten]
        have hstate' := Monitor.state_cons hsent (.written (data ++ List.replicate n 0))
        rw [handleProtocol_written] at hstate'
        exact ⟨_, hstate', hhandle.symm, fun hq => by cases hq⟩

theorem Ordered.identify (hC : Lawful C dec) (hwrites : WritesMessage C)
    (hinv : DeviceInv C dec d) (h : Ordered d) {s : S} {t : T} {result : Except Exception Unit}
    (hcall : C.identify s t d (result, d')) : Ordered d' := by
  obtain ⟨opened, d₁, hopen, hr⟩ := hcall
  have h₁ := h.openPlatform hC hopen
  cases opened with
  | error e =>
      obtain ⟨-, rfl⟩ := by simpa using hr
      exact h₁
  | ok =>
      have h' := h₁.identifyOpened hwrites (hinv.openPlatform hC hopen).1 t
      rwa [← show (result, d') = C.identifyOpened t d₁ from hr] at h'

/-- Every public call keeps the order. -/
theorem Ordered.call (hC : Lawful C dec) (hwrites : WritesMessage C) (hinv : DeviceInv C dec d)
    (h : Ordered d) {c : Call S T} {result : Except Exception Unit}
    (hcall : C.call c d (result, d')) : Ordered d' := by
  cases c with
  | «open» s =>
      obtain ⟨opened, d₁, hopen, hr⟩ := hcall
      have h₁ := h.openPlatform hC hopen
      cases opened with
      | ok =>
          obtain ⟨-, rfl⟩ := by simpa using hr
          exact h₁
      | error e =>
          obtain ⟨-, rfl⟩ := by simpa using hr
          exact h₁.close hC
  | identify s t => exact h.identify hC hwrites hinv hcall
  | close =>
      obtain ⟨-, rfl⟩ := Prod.mk.inj (show (result, d') = (.ok (), C.close d) from hcall)
      exact h.close hC

theorem Session.ordered (hC : Lawful C dec) (hwrites : WritesMessage C) {info : USBDeviceInfo}
    {own : P} {calls : List (Call S T)} (h : Session C (Device.new info own) calls d) :
    Ordered d := by
  induction h with
  | nil => exact Ordered.new info own
  | snoc hsession hcall ih => exact ih.call hC hwrites (hsession.inv hC) hcall

/-! ### The platforms -/

theorem LinuxHIDDevice.writesMessage : WritesMessage deviceClass := by
  intro t data d
  refine .inr ⟨0, ?_⟩
  have hbuffer : (sendReport t data).2 = data := by
    unfold sendReport
    split_ifs <;> rfl
  simp [deviceClass, hbuffer]

theorem WindowsHIDDevice.writesMessage (filename : WString) :
    WritesMessage (deviceClass filename) := by
  intro t data d
  rcases sendReport_cases d.own.reportLength t data with
    ⟨-, hsend⟩ | ⟨-, hsend⟩ | ⟨result, hsend, -⟩
  · exact .inl (by simp [deviceClass, hsend])
  · exact .inl (by simp [deviceClass, hsend])
  · exact .inr ⟨d.own.reportLength.toNat - data.length, by simp [deviceClass, hsend]⟩

/-- **The calls on every handle come in order.** Whatever public calls are made
on an object and however their system calls end: no handle is opened over
another one, used before it is opened or after it is closed, or closed twice. On
each of them the queries come before the messages and a write after its message.
The destructor leaves none. -/
theorem session_ordered :
    (∀ info own calls d, Session LinuxHIDDevice.deviceClass (Device.new info own) calls d →
      (∃ phase, (handleProtocol _ _).state d.trace = some phase ∧ phase.held = d.handle) ∧
        (handleProtocol _ _).state d.release.trace = some .closed) ∧
    ∀ filename info own calls d,
      Session (WindowsHIDDevice.deviceClass filename) (Device.new info own) calls d →
      (∃ phase, (handleProtocol _ _).state d.trace = some phase ∧ phase.held = d.handle) ∧
        (handleProtocol _ _).state d.release.trace = some .closed := by
  constructor
  · intro info own calls d h
    have hordered := h.ordered LinuxHIDDevice.lawful LinuxHIDDevice.writesMessage
    obtain ⟨phase, hstate, hheld, -⟩ := id hordered
    exact ⟨⟨phase, hstate, hheld⟩, hordered.release.1⟩
  · intro filename info own calls d h
    have hordered := h.ordered (WindowsHIDDevice.lawful filename)
      (WindowsHIDDevice.writesMessage filename)
    obtain ⟨phase, hstate, hheld, -⟩ := id hordered
    exact ⟨⟨phase, hstate, hheld⟩, hordered.release.1⟩

/-- A message is written to a Windows keyboard, and the object is closed. -/
theorem session_ordered_rawHid :
    ∃ d, Session (WindowsHIDDevice.deviceClass rawHidPath) (Device.new {} {})
        [.identify rawHidCalls ⟨true, true, some 33⟩, .close] d ∧
      d.trace.length = 6 ∧ (handleProtocol _ _).state d.release.trace = some .closed := by
  have hidentify : Session (WindowsHIDDevice.deviceClass rawHidPath) (Device.new {} {})
      ([] ++ [.identify rawHidCalls ⟨true, true, some 33⟩]) _ :=
    .snoc .nil ⟨.ok (), _, ⟨.ok (), _, ⟨1, by decide, rfl⟩, rfl⟩, rfl⟩
  have hclose : Session (WindowsHIDDevice.deviceClass rawHidPath) (Device.new {} {})
      (([] ++ [.identify rawHidCalls ⟨true, true, some 33⟩]) ++ [.close]) _ :=
    .snoc hidentify (rfl : (_, _) = ((.ok (), _) : WindowsReturned))
  exact ⟨_, hclose, rfl, (session_ordered.2 rawHidPath {} {} _ _ hclose).2⟩

end QmkHidIdentify
