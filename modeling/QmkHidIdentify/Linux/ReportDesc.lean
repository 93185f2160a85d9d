import QmkHidIdentify.Common.Types

/-!
# QmkHidIdentify.Linux.ReportDesc

The report descriptor parser of `linux/hid-report-desc.cc` and the loop of
`LinuxHIDDevice::init_reports` that calls it, on bytes and positions as the
source has them.

Design points:

* A read of the descriptor is `rpt[i]?`, so an index at or past `size` makes
  the whole computation `none`. A loop that runs out of fuel is `none` too.
  Every result `some _` below therefore says that the code read in bounds and
  that its loops ended.
* The loop of `init_reports` need not end: `InitReports` is the relation
  between its input and what it leaves when it does.
* `hidUsages` is not in the source. It calls `get_next_hid_usage` the way its
  comment says it can be called, repeatedly until it returns non-0.
* `pos` is an `unsigned int`: the update is taken modulo `2 ^ 32`.
* The `int` arithmetic of `get_hid_report_bytes` is two's complement on 32
  bits, which is what the supported compilers do where a product leaves the
  range.
* `value` of the kernel's `hidraw_report_descriptor` has 4096 bytes and
  `init_reports` refuses any larger size, so a descriptor is a byte list with
  that bound (`HidrawDescriptor`).
-/

namespace QmkHidIdentify

/-- `sizeof(rpt_desc.value)`. -/
def HID_MAX_DESCRIPTOR_SIZE : Nat := 4096

/-- The bytes `rpt_desc.value[0 .. rpt_desc.size)` that `init_reports` parses. -/
structure HidrawDescriptor where
  value : List UInt8
  size_le : value.length ≤ HID_MAX_DESCRIPTOR_SIZE

/-! ### Item sizes and item data -/

/-- The outputs of `get_hid_item_size`: its return value and the two sizes. -/
structure ItemSize where
  ok : Bool
  dataLen : Nat
  keySize : Nat
  deriving DecidableEq, Repr

/-- The switch over `size_code`, for short items. -/
def shortItemSize (key : UInt8) : ItemSize :=
  match (key &&& 0x3).toNat with
  | 0 => ⟨true, 0, 1⟩
  | 1 => ⟨true, 1, 1⟩
  | 2 => ⟨true, 2, 1⟩
  | 3 => ⟨true, 4, 1⟩
  | _ => ⟨false, 0, 0⟩

/-- `get_hid_item_size`. A long item whose length byte is missing falls through
to the short item code, which overwrites the sizes stored for it. -/
def getHidItemSize (rpt : List UInt8) (pos : Nat) : Option ItemSize :=
  match rpt[pos]? with
  | none => none
  | some key =>
      if key &&& 0xf0 = 0xf0 ∧ pos + 1 < rpt.length then
        match rpt[pos + 1]? with
        | none => none
        | some len => some ⟨true, len.toNat, 3⟩
      else some (shortItemSize key)

/-- The exact integer `z` as a 32-bit `int`. -/
def toInt (z : Int) : Int := z.bmod (2 ^ 32)

/-- `get_hid_report_bytes`: the data of the item at `cur`, 0 when it runs past
the end. -/
def getHidReportBytes (rpt : List UInt8) (numBytes cur : Nat) : Option UInt32 :=
  if cur + numBytes ≥ rpt.length then some 0
  else if numBytes = 0 then some 0
  else if numBytes = 1 then do
    let b1 ← rpt[cur + 1]?
    some (.ofInt b1.toNat)
  else if numBytes = 2 then do
    let b2 ← rpt[cur + 2]?
    let b1 ← rpt[cur + 1]?
    some (.ofInt (toInt (toInt (b2.toNat * 256) + b1.toNat)))
  else if numBytes = 4 then do
    let b4 ← rpt[cur + 4]?
    let b3 ← rpt[cur + 3]?
    let b2 ← rpt[cur + 2]?
    let b1 ← rpt[cur + 1]?
    let s4 := toInt (b4.toNat * 0x01000000)
    let s3 := toInt (s4 + toInt (b3.toNat * 0x00010000))
    let s2 := toInt (s3 + toInt (b2.toNat * 0x00000100))
    some (.ofInt (toInt (s2 + toInt (b1.toNat * 0x00000001))))
  else some 0

/-! ### One call of `get_next_hid_usage` -/

/-- The return codes 0, 1 and -1. -/
inductive Ret
  | found
  | finished
  | malformed
  deriving DecidableEq, Repr

/-- The variables of one call besides `pos`; the default is their state at the
start of the call. -/
structure UsageVars where
  hidReport : HIDReport := {}
  tmp : HIDCollection := {}
  usagePairReady : Bool := false
  usagePageFound : Bool := false
  collection : Bool := false
  deriving DecidableEq, Repr

/-- The first `switch (key_cmd)`, without the `return` of its last case.
`bytes` is the call of `get_hid_report_bytes`, made only where the source makes
it. -/
def UsageVars.switchKey (s : UsageVars) (keyCmd : Nat) (bytes : Option UInt32) :
    Option UsageVars :=
  match keyCmd with
  | 0x04 =>  -- Usage Page
      if s.collection then some s
      else bytes.map fun v =>
        { s with hidReport := { s.hidReport with usagePage := v }, usagePageFound := true }
  | 0x08 =>  -- Usage
      bytes.map fun v => { s with tmp := { s.tmp with usage := v, hasUsage := true } }
  | 0xa0 =>  -- Collection
      if s.usagePageFound && s.tmp.hasUsage then
        some { s with
          collection := true
          hidReport := { s.hidReport with usage := s.tmp.usage }
          usagePairReady := true }
      else some { s with collection := true }
  | 0x14 =>  -- minimum
      if s.collection then
        bytes.map fun v => { s with tmp := { s.tmp with minimum := v, hasMinimum := true } }
      else some s
  | 0x24 =>  -- maximum
      if s.collection then
        bytes.map fun v => { s with tmp := { s.tmp with maximum := v, hasMaximum := true } }
      else some s
  | 0x74 =>  -- Report Size
      if s.collection then
        bytes.map fun v => { s with tmp := { s.tmp with size := v, hasSize := true } }
      else some s
  | 0x94 =>  -- Report Count
      if s.collection then
        bytes.map fun v => { s with tmp := { s.tmp with count := v, hasCount := true } }
      else some s
  | 0x80 =>  -- Input
      if s.collection then
        some { s with hidReport := { s.hidReport with input := s.hidReport.input ++ [s.tmp] } }
      else some s
  | 0x90 =>  -- Output
      if s.collection then
        some { s with hidReport := { s.hidReport with output := s.hidReport.output ++ [s.tmp] } }
      else some s
  | 0xb0 =>  -- Feature
      if s.collection then
        some { s with hidReport := { s.hidReport with feature := s.hidReport.feature ++ [s.tmp] } }
      else some s
  | 0xc0 =>  -- End Collection
      some { s with collection := false, usagePairReady := false }
  | _ => some s

/-- The second `switch (key_cmd)`: a Main item ends the scope of `tmp`. -/
def UsageVars.unsetLocal (s : UsageVars) (keyCmd : Nat) : UsageVars :=
  match keyCmd with
  | 0x80 | 0x90 | 0xa0 | 0xb0 | 0xc0 => { s with tmp := {} }
  | _ => s

/-- How the loop body ends: it returns, or goes on at the next position. -/
inductive Flow
  | ret (r : Ret)
  | next (pos : Nat) (s : UsageVars)

/-- The body of the `while` loop. -/
def usageBody (rpt : List UInt8) (pos : Nat) (s : UsageVars) : Option Flow :=
  match rpt[pos]?, getHidItemSize rpt pos with
  | some key, some sz =>
      let keyCmd := (key &&& 0xfc).toNat
      if sz.ok = false then some (.ret .malformed)
      else if keyCmd = 0xc0 ∧ s.collection ∧ s.usagePairReady then some (.ret .found)
      else (s.switchKey keyCmd (getHidReportBytes rpt sz.dataLen pos)).map fun s' =>
        .next ((pos + (sz.dataLen + sz.keySize)) % 2 ^ 32) (s'.unsetLocal keyCmd)
  | _, _ => none

/-- What a call leaves behind: its return code, `*pos` and `hid_report`. -/
structure NextUsage where
  ret : Ret
  pos : Nat
  hidReport : HIDReport
  deriving DecidableEq, Repr

/-- The `while` loop and the code after it. -/
def usageLoop (rpt : List UInt8) (initial : Bool) : Nat → Nat → UsageVars → Option NextUsage
  | 0, _, _ => none
  | fuel + 1, pos, s =>
      if pos < rpt.length then
        match usageBody rpt pos s with
        | none => none
        | some (.ret r) => some ⟨r, pos, s.hidReport⟩
        | some (.next pos' s') => usageLoop rpt initial fuel pos' s'
      else
        -- a descriptor without any top-level collection: the pair is valid
        some ⟨if initial && s.usagePageFound && s.tmp.hasUsage then .found else .finished,
          pos, s.hidReport⟩

/-- `get_next_hid_usage`. -/
def getNextHidUsage (rpt : List UInt8) (pos : Nat) : Option NextUsage :=
  usageLoop rpt (pos == 0) (rpt.length + 1) pos {}

/-! ### The loop of `init_reports` -/

/-- The `do`/`while` loop: the exception it throws, if any, and the `reports`
vector it leaves. It ends where a call returns 0, and goes on after a call that
returns 1. -/
def initReportsLoop (rpt : List UInt8) :
    Nat → Nat → List HIDReport → Option (Except Exception Unit × List HIDReport)
  | 0, _, _ => none
  | fuel + 1, pos, reports =>
      match getNextHidUsage rpt pos with
      | none => none
      | some ⟨.found, _, hidReport⟩ => some (.ok (), reports ++ [hidReport])
      | some ⟨.finished, pos', _⟩ => initReportsLoop rpt fuel pos' reports
      | some ⟨.malformed, _, _⟩ => some (.error .malformedHIDReportDescriptor, reports)

/-- The part of `init_reports` after the last `ioctl`, on an existing vector,
ends with this result. -/
def InitReports (d : HidrawDescriptor) (reports : List HIDReport)
    (result : Except Exception Unit × List HIDReport) : Prop :=
  ∃ fuel, initReportsLoop d.value fuel 0 reports = some result

/-- `init_reports` leaves the same for two descriptors, or ends for neither. -/
def SameReports (d d' : HidrawDescriptor) : Prop :=
  ∀ result, InitReports d [] result ↔ InitReports d' [] result

/-! ### Repeated calls -/

/-- Calls from `pos` on until one returns non-0: that return code, and the
reports of the calls before it. -/
def hidUsagesLoop (rpt : List UInt8) : Nat → Nat → List HIDReport → Option (Ret × List HIDReport)
  | 0, _, _ => none
  | fuel + 1, pos, reports =>
      match getNextHidUsage rpt pos with
      | none => none
      | some ⟨.found, pos', hidReport⟩ => hidUsagesLoop rpt fuel pos' (reports ++ [hidReport])
      | some ⟨ret, _, _⟩ => some (ret, reports)

/-- All reports of a descriptor. -/
def hidUsages (d : HidrawDescriptor) : Option (Ret × List HIDReport) :=
  hidUsagesLoop d.value (d.value.length + 2) 0 []

end QmkHidIdentify
