import Mathlib.Data.UInt

/-!
# QmkHidIdentify.Common.Types

The records of `common/types.h` that pass between the platform code and the
identify gate: what the operating system says about a device
(`USBDeviceInfo`), one Input, Output or Feature entry (`HIDCollection`), one
usage pair with its entries (`HIDReport`), and the exception classes.

A default value is the C++ value-initialisation `{}`: every flag clear, every
number zero, every vector empty.
-/

namespace QmkHidIdentify

/-- `USBDeviceInfo`: vendor, product and interface number of a device. The
interface number is -1 where the platform does not know it. -/
structure USBDeviceInfo where
  vendor : UInt16 := 0
  product : UInt16 := 0
  interfaceNumber : Int16 := 0
  deriving DecidableEq, Repr

/-- `HIDCollection`: the attributes in force at one Main item. -/
structure HIDCollection where
  hasUsage : Bool := false
  usage : UInt32 := 0
  hasMinimum : Bool := false
  minimum : UInt32 := 0
  hasMaximum : Bool := false
  maximum : UInt32 := 0
  hasCount : Bool := false
  count : UInt32 := 0
  hasSize : Bool := false
  size : UInt32 := 0
  deriving DecidableEq, Repr

/-- `HIDReport`: a usage pair and the Main items collected under it. -/
structure HIDReport where
  usagePage : UInt32 := 0
  usage : UInt32 := 0
  input : List HIDCollection := []
  output : List HIDCollection := []
  feature : List HIDCollection := []
  deriving DecidableEq, Repr

/-- The exception classes that leave the device code. -/
inductive Exception
  | osError
  | osLengthError
  | ioError
  | ioLengthError
  | unavailableDevice
  | disallowedUSBDevice
  | unsupportedHIDReportDescriptor
  | malformedHIDReportDescriptor
  | unsupportedHIDReportUsage
  deriving DecidableEq, Repr

/-! ### Attributes and Main items by kind

The parser treats the five attributes alike and the three Main items alike.
`Field` and `MainKind` name the members, so that one statement covers each
family. -/

/-- The attributes of a `HIDCollection`. -/
inductive Field
  | usage
  | minimum
  | maximum
  | count
  | size
  deriving DecidableEq, Repr

/-- The Main items that carry data. -/
inductive MainKind
  | input
  | output
  | feature
  deriving DecidableEq, Repr

namespace HIDCollection

/-- Store an attribute and raise its `has_` flag. -/
def set (c : HIDCollection) : Field → UInt32 → HIDCollection
  | .usage, v => { c with usage := v, hasUsage := true }
  | .minimum, v => { c with minimum := v, hasMinimum := true }
  | .maximum, v => { c with maximum := v, hasMaximum := true }
  | .count, v => { c with count := v, hasCount := true }
  | .size, v => { c with size := v, hasSize := true }

/-- An attribute as an optional value: `none` while its flag is clear. -/
def get (c : HIDCollection) : Field → Option UInt32
  | .usage => if c.hasUsage then some c.usage else none
  | .minimum => if c.hasMinimum then some c.minimum else none
  | .maximum => if c.hasMaximum then some c.maximum else none
  | .count => if c.hasCount then some c.count else none
  | .size => if c.hasSize then some c.size else none

@[simp] theorem get_empty (f : Field) : ({} : HIDCollection).get f = none := by
  cases f <;> rfl

@[simp] theorem get_set_self (c : HIDCollection) (f : Field) (v : UInt32) :
    (c.set f v).get f = some v := by
  cases f <;> rfl

@[simp] theorem get_set_of_ne (c : HIDCollection) {f g : Field} (h : g ≠ f) (v : UInt32) :
    (c.set f v).get g = c.get g := by
  cases f <;> cases g <;> first | rfl | exact absurd rfl h

/-- Storing the value an attribute already has changes nothing. -/
theorem set_of_get {c : HIDCollection} {f : Field} {v : UInt32} (h : c.get f = some v) :
    c.set f v = c := by
  cases f <;> simp only [get, Option.ite_none_right_eq_some, Option.some.injEq] at h <;>
    obtain ⟨hflag, rfl⟩ := h <;> simp [set, ← hflag]

@[simp] theorem set_set (c : HIDCollection) (f : Field) (v w : UInt32) :
    (c.set f v).set f w = c.set f w := by
  cases f <;> rfl

theorem set_comm (c : HIDCollection) {f g : Field} (h : g ≠ f) (v w : UInt32) :
    (c.set f v).set g w = (c.set g w).set f v := by
  cases f <;> cases g <;> first | rfl | exact absurd rfl h

end HIDCollection

namespace HIDReport

/-- The entries collected for one kind of Main item. -/
def entries (r : HIDReport) : MainKind → List HIDCollection
  | .input => r.input
  | .output => r.output
  | .feature => r.feature

/-- `emplace_back` on the vector of one kind. -/
def push (r : HIDReport) : MainKind → HIDCollection → HIDReport
  | .input, c => { r with input := r.input ++ [c] }
  | .output, c => { r with output := r.output ++ [c] }
  | .feature, c => { r with feature := r.feature ++ [c] }

@[simp] theorem entries_empty (k : MainKind) : ({} : HIDReport).entries k = [] := by
  cases k <;> rfl

theorem entries_push (r : HIDReport) (k k' : MainKind) (c : HIDCollection) :
    (r.push k c).entries k' = r.entries k' ++ if k' = k then [c] else [] := by
  cases k <;> cases k' <;> simp [push, entries]

@[simp] theorem push_usagePage (r : HIDReport) (k : MainKind) (c : HIDCollection) :
    (r.push k c).usagePage = r.usagePage := by
  cases k <;> rfl

@[simp] theorem push_usage (r : HIDReport) (k : MainKind) (c : HIDCollection) :
    (r.push k c).usage = r.usage := by
  cases k <;> rfl

/-- A report is its pair and its three entry lists. -/
theorem ext_entries {r s : HIDReport} (hp : r.usagePage = s.usagePage) (hu : r.usage = s.usage)
    (he : ∀ k, r.entries k = s.entries k) : r = s := by
  have hi := he .input
  have ho := he .output
  have hf := he .feature
  cases r
  cases s
  simp only [entries] at hi ho hf
  subst hp hu hi ho hf
  rfl

end HIDReport

end QmkHidIdentify
