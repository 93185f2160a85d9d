import QmkHidIdentify.Common.Device
import QmkHidIdentify.Linux.Tokens

/-!
# QmkHidIdentify.Linux.HidIdentify

`LinuxHIDDevice` of `linux/hid-identify.cc`: the platform `open` with its
queries, `reset` and `send_report`, for any outcome of the system calls.

What is left out: the log, the path of the device and the text of errors.
-/

namespace QmkHidIdentify

/-! ### System calls -/

/-- The vendor and product of `hidraw_devinfo`, which are signed there. -/
structure HidrawDevinfo where
  vendor : Int16
  product : Int16
  deriving DecidableEq, Repr

/-- `rpt_desc.value`: the array the descriptor is read into. -/
structure RptDescValue where
  bytes : List UInt8
  size_eq : bytes.length = HID_MAX_DESCRIPTOR_SIZE

/-- The first `size` bytes of the array. -/
def RptDescValue.descriptor (v : RptDescValue) (size : Nat) : HidrawDescriptor where
  value := v.bytes.take size
  size_le := by simp [v.size_eq]

/-- What the system answers during one `open`. A failed call is `none`. -/
structure HidrawCalls where
  /-- `::open` returned a descriptor -/
  fd : Bool
  /-- `HIDIOCGRAWINFO` -/
  rawInfo : Option HidrawDevinfo
  /-- `HIDIOCGRDESCSIZE` -/
  descSize : Option Int32
  /-- `HIDIOCGRDESC` -/
  desc : Option RptDescValue
  /-- `HIDIOCGRAWPHYS` -/
  rawPhys : Option (List UInt8)

/-- The members of the class besides `fd_`. Its `report_count_` hides the one of
`HIDDevice` and is only ever set to zero. -/
structure LinuxMembers where
  name : List UInt8 := []
  reportCount : UInt32 := 0

abbrev LinuxHIDDevice := Device HidrawDevinfo HidrawDescriptor LinuxMembers
abbrev LinuxReturned := Returned HidrawDevinfo HidrawDescriptor LinuxMembers

namespace LinuxHIDDevice

/-! ### Opening -/

/-- The device info that `init_device_info` stores. -/
def deviceInfo (info : HidrawDevinfo) : USBDeviceInfo :=
  ⟨info.vendor.toUInt16, info.product.toUInt16, -1⟩

/-- `init_device_info`. -/
def initDeviceInfo (s : HidrawCalls) (d : LinuxHIDDevice) : LinuxReturned :=
  match s.rawInfo with
  | none => (.error .osError, d)
  | some info => (.ok (), { d with deviceInfo := deviceInfo info }.record (.info info))

/-- The reports in the object become those the loop leaves. -/
def parseReports (desc : HidrawDescriptor) (d : LinuxHIDDevice) (r : LinuxReturned) : Prop :=
  ∃ result reports, InitReports desc d.reports (result, reports) ∧
    r = (result, { d with reports := reports })

/-- `init_reports`. -/
def initReports (s : HidrawCalls) (d : LinuxHIDDevice) (r : LinuxReturned) : Prop :=
  match s.descSize with
  | none => r = (.error .osError, d)
  | some size =>
      if size < 0 then r = (.error .osLengthError, d)
      else if size.toNatClampNeg > HID_MAX_DESCRIPTOR_SIZE then r = (.error .osLengthError, d)
      else
        match s.desc with
        | none => r = (.error .osError, d)
        | some value =>
            parseReports (value.descriptor size.toNatClampNeg)
              (d.record (.descriptor (value.descriptor size.toNatClampNeg))) r

/-- `init_name`, which does not fail. -/
def initName (s : HidrawCalls) (d : LinuxHIDDevice) : LinuxHIDDevice :=
  { d with own := { d.own with name := s.rawPhys.getD [] } }

/-- The platform `open`. -/
def openPlatform (s : HidrawCalls) (d : LinuxHIDDevice) (r : LinuxReturned) : Prop :=
  if d.handle then r = (.ok (), d)
  else if s.fd = false then r = (.error .unavailableDevice, d)
  else
    match initDeviceInfo s d.acquire with
    | (.error e, d') => r = (.error e, d')
    | (.ok (), d') =>
        ∃ result d'', initReports s d' (result, d'') ∧
          r = match result with
            | .error e => (.error e, d'')
            | .ok () => (.ok (), initName s d'')

/-- `reset`. -/
def reset (d : LinuxHIDDevice) : LinuxHIDDevice := { d.release with own := {} }

/-! ### Sending -/

/-- `send_report` by the return value of `write`: its result and the buffer that
was written. -/
def sendReport (written : Int64) (data : List UInt8) : Except Exception Unit × List UInt8 :=
  if written < 0 then (.error .ioError, data)
  else if written.toNatClampNeg ≠ data.length then (.error .ioError, data)
  else (.ok (), data)

/-- `LinuxHIDDevice` as a platform of `HIDDevice`. -/
def deviceClass :
    DeviceClass HidrawDevinfo HidrawDescriptor LinuxMembers HidrawCalls Int64 where
  platform := .linux
  openPlatform := openPlatform
  sendPlatform written data d :=
    ((sendReport written data).1, d.record (.written (sendReport written data).2))
  reset := reset

end LinuxHIDDevice

end QmkHidIdentify
