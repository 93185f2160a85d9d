import Mathlib.Data.UInt

/-!
# QmkHidIdentify.Windows.Win32

`make_sized` of `windows/windows++.h`: a query that is first made for the size
of its result and then with a buffer of that size, for any answers of the
system. Memory does not run out.
-/

namespace QmkHidIdentify

/-- What the system answers to the two calls of one query. -/
structure SizedCalls (β : Type) where
  /-- the first call returned true -/
  sizeOk : Bool
  /-- the error after it is `ERROR_INSUFFICIENT_BUFFER` -/
  insufficientBuffer : Bool
  /-- `required_size` after it -/
  requiredSize : UInt32
  /-- an allocation of no bytes gives a pointer -/
  emptyPointer : Bool
  /-- what the second call wrote, if it returned true -/
  written : Option β

/-- A `sized_data` that tests as true. -/
structure SizedData (β : Type) where
  data : β
  size : UInt32

/-- `make_sized`; `none` is a `sized_data` without a pointer. -/
def makeSized {β : Type} (c : SizedCalls β) : Option (SizedData β) :=
  if !c.sizeOk && !c.insufficientBuffer then none
  else
    match c.written with
    | none => none
    | some data =>
        if c.requiredSize = 0 ∧ c.emptyPointer = false then none
        else some ⟨data, c.requiredSize⟩

end QmkHidIdentify
