import QmkHidIdentify.Common.HidDevice

/-!
# QmkHidIdentify.Common.Device

The class `HIDDevice`: an object with its members, and the public calls
`open()`, `identify()` and `close()` over the virtual functions of a platform
(`DeviceClass`).

The outcomes of the system calls are inputs: `S` is what the system answers
during one platform `open`, `T` during one platform `send_report`. A call is a
relation to its result, since the platform `open` need not end. The trace of an
object is not in the source. It records what the system calls on its handle did,
latest first, and is only read by statements.
-/

namespace QmkHidIdentify

/-- A system call on the handle of an object that succeeded, or the entry of the
platform `send_report`. -/
inductive OsEvent (I D : Type)
  /-- a handle was opened -/
  | opened
  /-- the handle was closed -/
  | closed
  /-- the device info query returned `i` -/
  | info (i : I)
  /-- the report descriptor or capability queries returned `d` -/
  | descriptor (d : D)
  /-- the platform `send_report` was called with a message -/
  | sent (data : List UInt8)
  /-- a buffer was handed to the system to be written -/
  | written (buffer : List UInt8)

/-- An object of a platform class, with the members `P` of that class. -/
structure Device (I D P : Type) where
  deviceInfo : USBDeviceInfo
  reports : List HIDReport := []
  reportCount : UInt32 := 0
  handle : Bool := false
  own : P
  trace : List (OsEvent I D) := []

/-- What a call returns or throws, and the object after it. -/
abbrev Returned (I D P : Type) := Except Exception Unit × Device I D P

namespace Device

variable {I D P : Type}

def record (d : Device I D P) (e : OsEvent I D) : Device I D P := { d with trace := e :: d.trace }

@[simp] theorem record_reports (d : Device I D P) (e : OsEvent I D) :
    (d.record e).reports = d.reports := rfl
@[simp] theorem record_handle (d : Device I D P) (e : OsEvent I D) :
    (d.record e).handle = d.handle := rfl
@[simp] theorem record_trace (d : Device I D P) (e : OsEvent I D) :
    (d.record e).trace = e :: d.trace := rfl

/-- A handle is assigned. -/
def acquire (d : Device I D P) : Device I D P := { d with handle := true }.record .opened

/-- The handle is cleared, which closes it if there is one. -/
def release (d : Device I D P) : Device I D P :=
  if d.handle then { d with handle := false }.record .closed else d

end Device

/-- The virtual functions of a platform class. -/
structure DeviceClass (I D P S T : Type) where
  platform : Platform
  /-- `open(device_info_, reports_)` -/
  openPlatform : S → Device I D P → Returned I D P → Prop
  /-- `send_report(data)` -/
  sendPlatform : T → List UInt8 → Device I D P → Returned I D P
  reset : Device I D P → Device I D P

namespace DeviceClass

variable {I D P S T : Type} (C : DeviceClass I D P S T)

/-- `HIDDevice::close`. -/
def close (d : Device I D P) : Device I D P :=
  C.reset { d with deviceInfo := {}, reports := [], reportCount := 0 }

/-- `HIDDevice::open`. -/
def openDevice (s : S) (d : Device I D P) (r : Returned I D P) : Prop :=
  ∃ result d', C.openPlatform s d (result, d') ∧
    r = match result with
      | .ok () => (.ok (), d')
      | .error e => (.error e, C.close d')

/-- `HIDDevice::send_report`. -/
def sendMessage (t : T) (d : Device I D P) : Returned I D P :=
  match sendReport C.platform d.reportCount with
  | .error e => (.error e, d)
  | .ok data => C.sendPlatform t data (d.record (.sent data))

/-- `HIDDevice::identify` after its platform `open`. -/
def identifyOpened (t : T) (d : Device I D P) : Returned I D P :=
  match checkDeviceAllowed d.deviceInfo with
  | .error e => (.error e, d)
  | .ok () =>
      match checkDeviceReports d.reports with
      | .error e => (.error e, d)
      | .ok count => C.sendMessage t { d with reportCount := count }

/-- `HIDDevice::identify`. -/
def identify (s : S) (t : T) (d : Device I D P) (r : Returned I D P) : Prop :=
  ∃ result d', C.openPlatform s d (result, d') ∧
    r = match result with
      | .ok () => C.identifyOpened t d'
      | .error e => (.error e, d')

/-- On an opened device, `identify` sends what `identifyMessage` says. -/
theorem identifyOpened_eq (t : T) (d : Device I D P) :
    ∃ count, C.identifyOpened t d =
      match identifyMessage C.platform d.deviceInfo d.reports with
      | .error e => (.error e, { d with reportCount := count })
      | .ok data =>
          C.sendPlatform t data ({ d with reportCount := count }.record (.sent data)) := by
  unfold identifyOpened identifyMessage sendMessage
  cases checkDeviceAllowed d.deviceInfo with
  | error e => exact ⟨d.reportCount, rfl⟩
  | ok =>
      cases checkDeviceReports d.reports with
      | error e => exact ⟨d.reportCount, rfl⟩
      | ok count =>
          refine ⟨count, ?_⟩
          cases hsend : sendReport C.platform count with
          | error e => simp [hsend, bind, Except.bind]
          | ok data => simp [hsend, bind, Except.bind]

end DeviceClass

end QmkHidIdentify
