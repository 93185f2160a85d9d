import QmkHidIdentify.Common.Device

/-!
# QmkHidIdentify.Windows.HidIdentify

`WindowsHIDDevice` of `windows/hid-identify.cc`: the interface number in the
path of a device, the platform `open` with its queries, `reset` and
`send_report`, for any outcome of the system calls.

What is left out: the log, the text of errors, and what only the log tells apart
(the reason of a failed call, the result of the wait for a write).
-/

namespace QmkHidIdentify

/-! ### The interface number -/

/-- A `std::wstring`, with the 16-bit `wchar_t` of the platform. -/
abbrev WString := List UInt16

/-- `std::wstring::find`: where the leftmost occurrence starts. -/
def WString.find (tag : WString) : WString → Option Nat
  | [] => if tag = [] then some 0 else none
  | c :: s => if tag.isPrefixOf (c :: s) then some 0 else (find tag s).map (· + 1)

/-- `win32::isdigit`. -/
def isdigit (ch : UInt16) : Bool := 0x30 ≤ ch && ch ≤ 0x39

/-- `win32::isxdigit`. -/
def isxdigit (ch : UInt16) : Bool :=
  isdigit ch || (0x41 ≤ ch && ch ≤ 0x46) || (0x61 ≤ ch && ch ≤ 0x66)

/-- The value of a hexadecimal digit, as `std::stoi` reads it in base 16. -/
def xdigitValue (ch : UInt16) : Option Nat :=
  if 0x30 ≤ ch ∧ ch ≤ 0x39 then some (ch.toNat - 0x30)
  else if 0x41 ≤ ch ∧ ch ≤ 0x46 then some (ch.toNat - 0x41 + 10)
  else if 0x61 ≤ ch ∧ ch ≤ 0x66 then some (ch.toNat - 0x61 + 10)
  else none

/-- `std::stoi` in base 16 on two characters; `none` is its exception, for a
string that does not start with a digit. -/
def stoi (hi lo : UInt16) : Option Nat :=
  (xdigitValue hi).map fun h =>
    match xdigitValue lo with
    | some l => 16 * h + l
    | none => h

/-- The tag `L"&MI_"`. -/
def tagUC : WString := [0x26, 0x4D, 0x49, 0x5F]

/-- The tag `L"&mi_"`. -/
def tagLC : WString := [0x26, 0x6D, 0x69, 0x5F]

/-- `interface_number`; `none` is an index past the end of the path or an
exception. -/
def interfaceNumber (filename : WString) : Option Int16 :=
  match (WString.find tagUC filename).orElse fun _ => WString.find tagLC filename with
  | none => some (-1)
  | some tag =>
      let pos := tag + tagUC.length
      if filename.length - pos < 2 then some (-1)
      else
        match filename[pos]?, filename[pos + 1]? with
        | some hi, some lo =>
            if !isxdigit hi || !isxdigit lo then some (-1)
            else (stoi hi lo).map fun n => .ofNat n
        | _, _ => none

theorem xdigitValue_isSome {ch : UInt16} (h : isxdigit ch = true) :
    (xdigitValue ch).isSome = true := by
  simp only [isxdigit, isdigit, Bool.or_eq_true, Bool.and_eq_true, decide_eq_true_eq] at h
  unfold xdigitValue
  split_ifs with h₁ h₂ h₃ <;> simp_all

/-! ### System calls -/

/-- The vendor and product of `HIDD_ATTRIBUTES`. -/
structure HiddAttributes where
  vendorID : UInt16
  productID : UInt16
  deriving DecidableEq, Repr

/-- What `caps_to_collections` reads of a `HIDP_VALUE_CAPS`. -/
structure HidpValueCaps where
  isRange : Bool
  usage : UInt16
  logicalMin : Int32
  logicalMax : Int32
  reportCount : UInt16
  bitSize : UInt16
  deriving DecidableEq, Repr

/-- The entry of one value capability. -/
def HidpValueCaps.toCollection (vcaps : HidpValueCaps) : HIDCollection where
  hasUsage := true
  usage := vcaps.usage.toUInt32
  hasMinimum := true
  minimum := vcaps.logicalMin.toUInt32
  hasMaximum := true
  maximum := vcaps.logicalMax.toUInt32
  hasCount := true
  count := vcaps.reportCount.toUInt32
  hasSize := true
  size := vcaps.bitSize.toUInt32

/-- How `HidP_GetSpecificValueCaps` ends. -/
inductive ValueCapsResult
  | usageNotFound
  | success (vcaps : List HidpValueCaps)
  | failure

/-- What `init_reports` reads of `HIDP_CAPS`. -/
structure HidpCaps where
  usagePage : UInt16
  usage : UInt16
  outputReportByteLength : UInt16
  deriving DecidableEq, Repr

/-- The capabilities of a device: `HIDP_CAPS`, and the value capabilities of the
three kinds. -/
structure HidCapabilities where
  caps : HidpCaps
  input : List HidpValueCaps
  output : List HidpValueCaps
  feature : List HidpValueCaps

/-- What the system answers during one `open`. -/
structure WindowsCalls where
  /-- `CreateFile` returned a handle -/
  createFile : Bool
  /-- `HidD_GetAttributes` -/
  attributes : Option HiddAttributes
  /-- `HidD_GetPreparsedData` -/
  preparsedData : Bool
  /-- `HidP_GetCaps` -/
  caps : Option HidpCaps
  /-- `HidP_GetSpecificValueCaps` for each kind -/
  valueCaps : MainKind → ValueCapsResult

/-- The members of the class besides `handle_` and the constant `filename_`,
which the functions below take as a parameter. -/
structure WindowsMembers where
  reportLength : UInt32 := 0

abbrev WindowsHIDDevice := Device HiddAttributes HidCapabilities WindowsMembers
abbrev WindowsReturned := Returned HiddAttributes HidCapabilities WindowsMembers

namespace WindowsHIDDevice

/-! ### Opening -/

/-- The device info that `init_device_info` stores. -/
def deviceInfo (interfaceNumber : Int16) (attrs : HiddAttributes) : USBDeviceInfo :=
  ⟨attrs.vendorID, attrs.productID, interfaceNumber⟩

/-- `init_device_info`. -/
def initDeviceInfo (filename : WString) (s : WindowsCalls) (d : WindowsHIDDevice)
    (r : WindowsReturned) : Prop :=
  match s.attributes with
  | none => r = (.error .osError, d)
  | some attrs =>
      ∃ n, interfaceNumber filename = some n ∧
        r = (if n = -1 then .error .disallowedUSBDevice else .ok (),
          { d with deviceInfo := deviceInfo n attrs }.record (.info attrs))

/-- `caps_to_collections`: the entries, and the value capabilities they come
from. -/
def capsToCollections (result : ValueCapsResult) :
    Except Exception (List HIDCollection × List HidpValueCaps) :=
  match result with
  | .usageNotFound => .ok ([], [])
  | .failure => .error .osError
  | .success vcaps =>
      if vcaps.any (·.isRange) then .error .unsupportedHIDReportDescriptor
      else .ok (vcaps.map HidpValueCaps.toCollection, vcaps)

/-- `init_reports`. -/
def initReports (s : WindowsCalls) (d : WindowsHIDDevice) : WindowsReturned :=
  if s.preparsedData = false then (.error .osError, d)
  else
    match s.caps with
    | none => (.error .osError, d)
    | some caps =>
        let d' := { d with own := ⟨caps.outputReportByteLength.toUInt32⟩ }
        match capsToCollections (s.valueCaps .input) with
        | .error e => (.error e, d')
        | .ok (input, inputCaps) =>
            match capsToCollections (s.valueCaps .output) with
            | .error e => (.error e, d')
            | .ok (output, outputCaps) =>
                match capsToCollections (s.valueCaps .feature) with
                | .error e => (.error e, d')
                | .ok (feature, featureCaps) =>
                    let report : HIDReport :=
                      ⟨caps.usagePage.toUInt32, caps.usage.toUInt32, input, output, feature⟩
                    (.ok (), { d' with reports := d'.reports ++ [report] }.record
                      (.descriptor ⟨caps, inputCaps, outputCaps, featureCaps⟩))

/-- The platform `open`. -/
def openPlatform (filename : WString) (s : WindowsCalls) (d : WindowsHIDDevice)
    (r : WindowsReturned) : Prop :=
  if d.handle then r = (.ok (), d)
  else if s.createFile = false then r = (.error .unavailableDevice, d)
  else
    ∃ result d', initDeviceInfo filename s d.acquire (result, d') ∧
      r = match result with
        | .error e => (.error e, d')
        | .ok () => initReports s d'

/-- `reset`. -/
def reset (d : WindowsHIDDevice) : WindowsHIDDevice := d.release

/-! ### Sending -/

/-- What the system answers during one `send_report`. -/
structure WriteCalls where
  /-- `CreateEvent` returned a handle -/
  event : Bool
  /-- `WriteFile` succeeded or is pending -/
  writeFile : Bool
  /-- the bytes that `GetOverlappedResult` reports as written -/
  overlappedResult : Option UInt32

/-- `send_report`: its result, and the buffer handed to `WriteFile`, if it came
to that. -/
def sendReport (reportLength : UInt32) (s : WriteCalls) (data : List UInt8) :
    Except Exception Unit × Option (List UInt8) :=
  if reportLength.toNat < data.length then (.error .ioLengthError, none)
  else
    let data := resize data reportLength.toNat
    if s.event = false then (.error .osError, none)
    else if s.writeFile = false then (.error .osError, some data)
    else
      match s.overlappedResult with
      | none => (.error .ioError, some data)
      | some written =>
          if written.toNat ≠ data.length then (.error .ioError, some data)
          else (.ok (), some data)

/-- What `send_report` writes, by its three ways to end. -/
theorem sendReport_cases (reportLength : UInt32) (s : WriteCalls) (data : List UInt8) :
    (reportLength.toNat < data.length ∧
        sendReport reportLength s data = (.error .ioLengthError, none)) ∨
      (s.event = false ∧ sendReport reportLength s data = (.error .osError, none)) ∨
      ∃ result, sendReport reportLength s data = (result,
          some (data ++ List.replicate (reportLength.toNat - data.length) 0)) ∧
        data.length ≤ reportLength.toNat := by
  unfold sendReport
  by_cases hlen : reportLength.toNat < data.length
  · exact .inl ⟨hlen, if_pos hlen⟩
  · have hle : data.length ≤ reportLength.toNat := Nat.le_of_not_lt hlen
    refine .inr ?_
    rw [if_neg hlen, resize_of_le hle]
    dsimp only
    by_cases hevent : s.event = false
    · exact .inl ⟨hevent, if_pos hevent⟩
    · refine .inr ?_
      rw [if_neg hevent]
      split_ifs
      · exact ⟨_, rfl, hle⟩
      · split
        · exact ⟨_, rfl, hle⟩
        · split_ifs <;> exact ⟨_, rfl, hle⟩

/-- `WindowsHIDDevice` as a platform of `HIDDevice`. -/
def deviceClass (filename : WString) :
    DeviceClass HiddAttributes HidCapabilities WindowsMembers WindowsCalls WriteCalls where
  platform := .windows
  openPlatform := openPlatform filename
  sendPlatform s data d :=
    match sendReport d.own.reportLength s data with
    | (result, none) => (result, d)
    | (result, some buffer) => (result, d.record (.written buffer))
  reset := reset

end WindowsHIDDevice

end QmkHidIdentify
