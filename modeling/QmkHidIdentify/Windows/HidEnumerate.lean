import QmkHidIdentify.Windows.HidIdentify
import QmkHidIdentify.Windows.Win32

/-!
# QmkHidIdentify.Windows.HidEnumerate

`WindowsHIDEnumeration` of `windows/hid-enumerate.cc`: an iterator over the
device interfaces of the system that skips those which are not installed.

The table of the system is a list: `SetupDiEnumDeviceInterfaces` succeeds
exactly for the indexes below its length. An iterator is its index and the path
it stands at; the index `MAXDWORD` is the end. `enumerates_iff` says that the
iterator goes through the paths of the installed interfaces.
-/

namespace QmkHidIdentify

def MAXDWORD : UInt32 := 0xFFFFFFFF

def CM_INSTALL_STATE_INSTALLED : UInt32 := 0

/-- The `DWORD` at the start of a zeroed buffer to which some bytes were
written. -/
def readDword (bytes : List UInt8) : UInt32 :=
  (bytes.take 4).foldr (fun b n => b.toUInt32 + 256 * n) 0

/-- What the system answers about one device interface. -/
structure DeviceInterface where
  /-- `SetupDiGetDeviceInterfaceDetail`: the device path -/
  detail : SizedCalls WString
  /-- `SetupDiGetDeviceRegistryProperty` for the install state -/
  installState : SizedCalls (List UInt8)

/-- One iteration of the loop of `populate_device_path`: the path, unless the
loop goes on. -/
def DeviceInterface.installedPath (e : DeviceInterface) : Option WString :=
  match makeSized e.detail with
  | none => none
  | some detail =>
      match makeSized e.installState with
      | none => none
      | some state =>
          if state.size ≠ 4 ∨ readDword state.data ≠ CM_INSTALL_STATE_INSTALLED then none
          else some detail.data

/-- `const_iterator`. -/
structure ConstIterator where
  diIdx : UInt32
  devicePath : WString
  deriving DecidableEq, Repr

theorem toNat_lt_maxdword {i : UInt32} (h : i ≠ MAXDWORD) : i.toNat < MAXDWORD.toNat := by
  have hne : i.toNat ≠ MAXDWORD.toNat := fun he => h (UInt32.toNat.inj he)
  have hlt := i.toNat_lt
  simp only [MAXDWORD, UInt32.reduceToNat] at hne ⊢
  omega

theorem toNat_add_one {i : UInt32} (h : i.toNat < MAXDWORD.toNat) :
    (i + 1).toNat = i.toNat + 1 := by
  simp only [MAXDWORD, UInt32.toNat_add, UInt32.reduceToNat] at h ⊢
  omega

namespace ConstIterator

/-- The constructor: `populate_device_path` from an index. -/
def populateDevicePath (table : List DeviceInterface) (diIdx : UInt32) : ConstIterator :=
  if _ : diIdx = MAXDWORD then ⟨diIdx, []⟩
  else
    match table[diIdx.toNat]? with
    | none => ⟨MAXDWORD, []⟩
    | some e =>
        match e.installedPath with
        | none => populateDevicePath table (diIdx + 1)
        | some path => ⟨diIdx, path⟩
  termination_by MAXDWORD.toNat - diIdx.toNat
  decreasing_by
    have hlt := toNat_lt_maxdword ‹_›
    rw [toNat_add_one hlt]
    omega

/-- `operator++`. -/
def next (table : List DeviceInterface) (it : ConstIterator) : ConstIterator :=
  populateDevicePath table (it.diIdx + 1)

/-- `operator==`. -/
def equals (it other : ConstIterator) : Bool := it.diIdx == other.diIdx

end ConstIterator

namespace WindowsHIDEnumeration

open ConstIterator

/-- `begin` and `cbegin`. -/
def cbegin (table : List DeviceInterface) : ConstIterator := populateDevicePath table 0

/-- `end` and `cend`. -/
def cend (table : List DeviceInterface) : ConstIterator := populateDevicePath table MAXDWORD

/-- A range-based `for` from an iterator on: the paths it goes through. -/
def forLoop (table : List DeviceInterface) : Nat → ConstIterator → Option (List WString)
  | 0, _ => none
  | fuel + 1, it =>
      if it.equals (cend table) then some []
      else (forLoop table fuel (it.next table)).map (it.devicePath :: ·)

/-- The loop over the whole enumeration ends after these paths. -/
def Enumerates (table : List DeviceInterface) (paths : List WString) : Prop :=
  ∃ fuel, forLoop table fuel (cbegin table) = some paths

/-! ### Where an iterator stands -/

/-- The paths of the interfaces that pass, from an index on. -/
def installedFrom (table : List DeviceInterface) (i : Nat) : List WString :=
  (table.drop i).filterMap DeviceInterface.installedPath

theorem installedFrom_of_getElem? {table : List DeviceInterface} {i : Nat} {e : DeviceInterface}
    (h : table[i]? = some e) :
    installedFrom table i = e.installedPath.toList ++ installedFrom table (i + 1) := by
  obtain ⟨hi, rfl⟩ := List.getElem?_eq_some_iff.mp h
  rw [installedFrom, List.drop_eq_getElem_cons hi, List.filterMap_cons]
  cases table[i].installedPath <;> rfl

/-- An iterator made for an index stands at the next interface that passes, or at
the end if there is none. -/
theorem populateDevicePath_cases {table : List DeviceInterface}
    (hlen : table.length < MAXDWORD.toNat) (diIdx : UInt32) :
    (populateDevicePath table diIdx = ⟨MAXDWORD, []⟩ ∧ installedFrom table diIdx.toNat = []) ∨
      ∃ i path, populateDevicePath table diIdx = ⟨i, path⟩ ∧ i.toNat < table.length ∧
        installedFrom table diIdx.toNat = path :: installedFrom table (i.toNat + 1) := by
  fun_induction populateDevicePath table diIdx with
  | case1 =>
      exact .inl ⟨rfl, by simp [installedFrom, List.drop_eq_nil_of_le (Nat.le_of_lt hlen)]⟩
  | case2 diIdx h hnone =>
      have hle := List.getElem?_eq_none_iff.mp hnone
      exact .inl ⟨rfl, by simp [installedFrom, List.drop_eq_nil_of_le hle]⟩
  | case3 diIdx h e hsome hskip ih =>
      rw [toNat_add_one (toNat_lt_maxdword h)] at ih
      rw [installedFrom_of_getElem? hsome, hskip]
      exact ih
  | case4 diIdx h e hsome path hpath =>
      refine .inr ⟨diIdx, path, rfl, (List.getElem?_eq_some_iff.mp hsome).1, ?_⟩
      rw [installedFrom_of_getElem? hsome, hpath]
      rfl

theorem cend_eq (table : List DeviceInterface) : cend table = ⟨MAXDWORD, []⟩ := by
  rw [cend, populateDevicePath, dif_pos rfl]

/-- An iterator at an interface is not the end, and moves on to the index after
it. -/
theorem at_interface {table : List DeviceInterface} (hlen : table.length < MAXDWORD.toNat)
    {i : UInt32} (hi : i.toNat < table.length) (path : WString) :
    (ConstIterator.mk i path).equals (cend table) = false ∧ (i + 1).toNat = i.toNat + 1 := by
  refine ⟨?_, toNat_add_one (Nat.lt_trans hi hlen)⟩
  rw [cend_eq, equals, beq_eq_false_iff_ne]
  intro he
  obtain rfl : i = MAXDWORD := he
  exact Nat.lt_asymm hi hlen

/-! ### The loop -/

/-- The loop needs one iteration for each path, and one to find the end. -/
theorem forLoop_eq {table : List DeviceInterface} (hlen : table.length < MAXDWORD.toNat)
    (fuel : Nat) (diIdx : UInt32) :
    forLoop table fuel (populateDevicePath table diIdx) =
      if (installedFrom table diIdx.toNat).length < fuel then
        some (installedFrom table diIdx.toNat) else none := by
  induction fuel generalizing diIdx with
  | zero => simp [forLoop]
  | succ fuel ih =>
      rcases populateDevicePath_cases hlen diIdx with ⟨hit, hnil⟩ | ⟨i, path, hit, hi, hcons⟩
      · rw [hit, hnil, forLoop, if_pos (by rw [cend_eq]; rfl)]
        rfl
      · obtain ⟨hne, hsucc⟩ := at_interface hlen hi path
        rw [hit, hcons, forLoop, hne, if_neg (by decide), next, ih, hsucc]
        simp only [List.length_cons, Nat.add_lt_add_iff_right]
        split <;> rfl

/-- **Enumeration is a filter** of the table: the loop ends, after the paths of
the interfaces that pass all checks, in their order; and `begin` equals `end`
exactly if there is none. -/
theorem enumerates_iff {table : List DeviceInterface} (hlen : table.length < MAXDWORD.toNat) :
    (∀ paths, Enumerates table paths ↔
      paths = table.filterMap DeviceInterface.installedPath) ∧
    ((cbegin table).equals (cend table) = true ↔
      table.filterMap DeviceInterface.installedPath = []) := by
  refine ⟨?_, ?_⟩
  · intro paths
    have hloop : ∀ fuel, forLoop table fuel (cbegin table) = _ := fun fuel => forLoop_eq hlen fuel 0
    simp only [Enumerates, hloop, Option.ite_none_right_eq_some, Option.some.injEq]
    refine ⟨?_, ?_⟩
    · intro hends
      obtain ⟨fuel, -, hpaths⟩ := hends
      exact hpaths.symm
    · intro hpaths
      exact ⟨_, Nat.lt_succ_self _, hpaths.symm⟩
  · rcases populateDevicePath_cases hlen 0 with ⟨hit, hnil⟩ | ⟨i, path, hit, hi, hcons⟩
    · refine iff_of_true ?_ hnil
      rw [cbegin, hit, cend_eq]
      rfl
    · have hne := (at_interface hlen hi path).1
      rw [cbegin, hit, hne]
      refine iff_of_false (by decide) ?_
      intro hnil
      exact absurd (hcons.symm.trans hnil) (by simp)

/-- A query that succeeds. -/
def answered {β : Type} (data : β) (size : UInt32) : SizedCalls β :=
  ⟨false, true, size, true, some data⟩

/-- A query that fails. -/
def failed {β : Type} : SizedCalls β := ⟨false, false, 0, true, none⟩

/-- Two installed interfaces, and one for each way not to pass. -/
def mixedTable : List DeviceInterface :=
  [⟨failed, failed⟩, ⟨answered [0x61] 16, answered [0, 0, 0, 0] 4⟩,
    ⟨answered [0x62] 16, answered [0] 1⟩, ⟨answered [0x63] 16, answered [1, 0, 0, 0] 4⟩,
    ⟨answered [0x64] 16, answered [0, 0, 0, 0] 4⟩, ⟨answered [0x65] 16, failed⟩]

theorem enumerates_mixedTable :
    Enumerates mixedTable [[0x61], [0x64]] ∧
      (cbegin mixedTable).equals (cend mixedTable) = false := by
  have hlen : mixedTable.length < MAXDWORD.toNat := by decide
  obtain ⟨hpaths, hend⟩ := enumerates_iff hlen
  refine ⟨(hpaths _).mpr (by decide), ?_⟩
  rw [← Bool.not_eq_true, hend]
  decide

end WindowsHIDEnumeration

end QmkHidIdentify
