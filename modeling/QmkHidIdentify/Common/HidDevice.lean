import QmkHidIdentify.Common.Types

/-!
# QmkHidIdentify.Common.HidDevice

The gate between an opened device and the message sent to it: the allow list
of `common/usb-vid-pid.cc`, and `check_device_allowed`, `check_device_reports`
and the message of `send_report` from `common/hid-device.cc`.

`identifyMessage` is the body of `identify()` after the platform `open`: `.ok`
is the data handed to the platform `send_report`, `.error` the exception thrown
before that. Its length is computed in `uint32_t` from the count the device
chose.
-/

namespace QmkHidIdentify

/-! ### Allowed devices -/

/-- An entry of the allow list. -/
structure USBDevice where
  vid : UInt16
  pid : UInt16
  pidMask : UInt16
  deriving DecidableEq, Repr

/-- The list in `usb_device_allowed`. -/
def usbDevices : List USBDevice :=
  [⟨0x1209, 0x0000, 0xF000⟩,
   ⟨0x16C0, 0x05DF, 0xFFFF⟩,
   ⟨0x16C0, 0x27D9, 0xFFFF⟩,
   ⟨0x16C0, 0x27DA, 0xFFFE⟩,
   ⟨0x16C0, 0x27DC, 0xFFFF⟩]

/-- `usb_device_allowed`. -/
def usbDeviceAllowed (vid pid : UInt16) : Bool :=
  usbDevices.any fun device => vid == device.vid && pid &&& device.pidMask == device.pid

/-- The devices `check_device_allowed` lets pass. -/
def USBDeviceInfo.allowed (info : USBDeviceInfo) : Bool :=
  (info.interfaceNumber == -1 || info.interfaceNumber == 1) &&
    usbDeviceAllowed info.vendor info.product

/-- `check_device_allowed`. -/
def checkDeviceAllowed (info : USBDeviceInfo) : Except Exception Unit :=
  if info.interfaceNumber = -1 ∨ info.interfaceNumber = 1 then
    if usbDeviceAllowed info.vendor info.product then .ok ()
    else .error .disallowedUSBDevice
  else .error .disallowedUSBDevice

theorem checkDeviceAllowed_eq (info : USBDeviceInfo) :
    checkDeviceAllowed info =
      if info.allowed then .ok () else .error .disallowedUSBDevice := by
  unfold checkDeviceAllowed USBDeviceInfo.allowed
  by_cases h : info.interfaceNumber = -1 ∨ info.interfaceNumber = 1
  · rw [if_pos h]
    rcases h with h | h <;> simp [h]
  · rw [if_neg h]
    simp only [not_or] at h
    simp [h]

/-! ### Accepted reports -/

def RAW_USAGE_PAGE : UInt32 := 0xFF60
def RAW_USAGE_ID : UInt32 := 0x0061
def RAW_IN_USAGE_ID : UInt32 := 0x0062
def RAW_OUT_USAGE_ID : UInt32 := 0x0063

/-- The attributes an entry must carry: its usage, bytes from 0 to 255, and at
least one of them. -/
def HIDCollection.isRaw (c : HIDCollection) (usage : UInt32) : Bool :=
  c.hasUsage && c.usage == usage
    && c.hasMinimum && c.minimum == 0
    && c.hasMaximum && c.maximum == 255
    && c.hasSize && c.size == 8
    && c.hasCount && decide (c.count > 0)

/-- The test of one report in `check_device_reports`: the count of its Output
entry if it passes. -/
def HIDReport.rawCount (report : HIDReport) : Option UInt32 :=
  if report.usagePage = RAW_USAGE_PAGE ∧ report.usage = RAW_USAGE_ID then
    match report.input, report.output, report.feature with
    | [input], [output], [] =>
        if input.isRaw RAW_IN_USAGE_ID && output.isRaw RAW_OUT_USAGE_ID then some output.count
        else none
    | _, _, _ => none
  else none

/-- `check_device_reports`: the value it stores in `report_count_`. -/
def checkDeviceReports : List HIDReport → Except Exception UInt32
  | [] => .error .unsupportedHIDReportUsage
  | report :: reports =>
      match report.rawCount with
      | some count => .ok count
      | none => checkDeviceReports reports

/-- The count of the first report that passes. -/
def firstRawCount (reports : List HIDReport) : Option UInt32 :=
  reports.findSome? HIDReport.rawCount

theorem checkDeviceReports_eq (reports : List HIDReport) :
    checkDeviceReports reports =
      match firstRawCount reports with
      | some count => .ok count
      | none => .error .unsupportedHIDReportUsage := by
  induction reports with
  | nil => rfl
  | cons report reports ih =>
      rw [checkDeviceReports, firstRawCount, List.findSome?_cons]
      cases report.rawCount with
      | some count => rfl
      | none => exact ih

/-! ### The message -/

/-- The two builds of the program. -/
inductive Platform
  | linux
  | windows
  deriving DecidableEq, Repr

/-- `os_identity`. -/
def osIdentity : Platform → List UInt8
  | .linux => [0x4C, 0x4E, 0x58, 0]    -- 'L', 'N', 'X', 0
  | .windows => [0x57, 0x49, 0x4E, 0]  -- 'W', 'I', 'N', 0

/-- `std::vector<uint8_t>::resize`. -/
def resize (data : List UInt8) (n : Nat) : List UInt8 :=
  data.take n ++ List.replicate (n - data.length) 0

theorem resize_of_le {data : List UInt8} {n : Nat} (h : data.length ≤ n) :
    resize data n = data ++ List.replicate (n - data.length) 0 := by
  rw [resize, List.take_of_length_le h]

@[simp] theorem length_resize (data : List UInt8) (n : Nat) : (resize data n).length = n := by
  simp only [resize, List.length_append, List.length_take, List.length_replicate]
  omega

/-- The data of `send_report` before it is padded: report id, command, OS. -/
def identifyData (p : Platform) : List UInt8 := [0x00, 0x00, 0x01] ++ osIdentity p

/-- `HIDDevice::send_report` up to the call of the platform `send_report`. -/
def sendReport (p : Platform) (reportCount : UInt32) : Except Exception (List UInt8) :=
  let data := identifyData p
  if reportCount.toNat < data.length - 1 then .error .ioLengthError
  else .ok (resize data (1 + reportCount).toNat)

/-- `HIDDevice::identify` on an opened device. -/
def identifyMessage (p : Platform) (info : USBDeviceInfo) (reports : List HIDReport) :
    Except Exception (List UInt8) := do
  checkDeviceAllowed info
  let reportCount ← checkDeviceReports reports
  sendReport p reportCount

theorem identifyMessage_eq (p : Platform) (info : USBDeviceInfo) (reports : List HIDReport) :
    identifyMessage p info reports =
      if info.allowed then
        match firstRawCount reports with
        | some n => sendReport p n
        | none => .error .unsupportedHIDReportUsage
      else .error .disallowedUSBDevice := by
  rw [identifyMessage, checkDeviceAllowed_eq, checkDeviceReports_eq]
  cases info.allowed <;> cases firstRawCount reports <;> rfl

/-- A message is handed over through both gates. -/
theorem identifyMessage_ok {p : Platform} {info : USBDeviceInfo} {reports : List HIDReport}
    {data : List UInt8} (h : identifyMessage p info reports = .ok data) :
    info.allowed = true ∧ ∃ n, firstRawCount reports = some n ∧ sendReport p n = .ok data := by
  rw [identifyMessage_eq] at h
  cases hallowed : info.allowed with
  | false => simp [hallowed] at h
  | true =>
      cases hcount : firstRawCount reports with
      | none => simp [hallowed, hcount] at h
      | some n => exact ⟨rfl, n, rfl, by simpa [hallowed, hcount] using h⟩

end QmkHidIdentify
