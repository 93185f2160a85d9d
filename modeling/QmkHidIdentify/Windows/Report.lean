import QmkHidIdentify.Identify.DeviceLoop
import QmkHidIdentify.Windows.HidEnumerate
import QmkHidIdentify.Windows.InterfaceNumber
import QmkHidIdentify.Windows.RunElevated

/-!
# QmkHidIdentify.Windows.Report

`command_report` of `windows/main.cc`: it identifies the device of every
interface that the enumeration goes through.

The loop moves an iterator on between two devices. `report_loop` says where it is
there: the devices before the iterator have been identified in the order of the
table, those after it still will be, and no device can keep the loop from going
on.
-/

namespace QmkHidIdentify

open WindowsHIDEnumeration

/-- `WindowsHIDDevice(device).identify()`. The constructor throws when there is no
event source; nothing has been opened then. -/
def ReportsDevice (path : WString) (result : Except Exception Unit)
    (trace : List (OsEvent HiddAttributes HidCapabilities)) : Prop :=
  (result = .error .osError ∧ trace = []) ∨
    ∃ s t, IdentifiesNew (WindowsHIDDevice.deviceClass path) {} s t result trace

/-- The loop over the enumeration. What the system answers is chosen anew for
each device. -/
def reportLoop (table : List DeviceInterface) :
    DeviceLoop ConstIterator WString HiddAttributes HidCapabilities where
  next it := if it.equals (cend table) then none else some (it.devicePath, it.next table)
  body := ReportsDevice
  handler _ := 1

/-- `command_report` returns or throws; `devInfo` is whether
`SetupDiGetClassDevs` returned a handle. -/
def CommandReport (devInfo : Bool) (table : List DeviceInterface)
    (r : Except Thrown Int32) : Prop :=
  if devInfo = false then r = .error (.win32 "SetupDiGetClassDevs")
  else ∃ v, (reportLoop table).Ends (cbegin table) v ∧ r = .ok v.exitRet

/-! ### The iterator -/

/-- What an iterator still goes through. -/
def remaining (table : List DeviceInterface) (it : ConstIterator) : List WString :=
  if it.equals (cend table) then [] else it.devicePath :: installedFrom table (it.diIdx.toNat + 1)

/-- An iterator is at an interface of the table or at the end. -/
def Standing (table : List DeviceInterface) (it : ConstIterator) : Prop :=
  it.equals (cend table) = true ∨ it.diIdx.toNat < table.length

variable {table : List DeviceInterface}

/-- An iterator that is made for an index. -/
theorem populateDevicePath_stands (hlen : table.length < MAXDWORD.toNat) (diIdx : UInt32) :
    Standing table (ConstIterator.populateDevicePath table diIdx) ∧
      remaining table (ConstIterator.populateDevicePath table diIdx) =
        installedFrom table diIdx.toNat := by
  rcases populateDevicePath_cases hlen diIdx with ⟨hit, hnil⟩ | ⟨i, path, hit, hi, hcons⟩
  · have hend : (ConstIterator.mk MAXDWORD []).equals (cend table) = true := by
      rw [cend_eq]
      rfl
    rw [hit, hnil, remaining, if_pos hend]
    exact ⟨.inl hend, rfl⟩
  · have hne := (at_interface hlen hi path).1
    rw [hit, hcons, remaining, if_neg (by rw [hne]; decide)]
    exact ⟨.inr hi, rfl⟩

/-- The end, or a path and what the iterator goes through after it. -/
theorem next_cases (hlen : table.length < MAXDWORD.toNat) {it : ConstIterator}
    (h : Standing table it) :
    ((reportLoop table).next it = none ∧ remaining table it = []) ∨
      ∃ path it', (reportLoop table).next it = some (path, it') ∧ Standing table it' ∧
        remaining table it = path :: remaining table it' := by
  cases hend : it.equals (cend table) with
  | true => exact .inl ⟨if_pos hend, if_pos hend⟩
  | false =>
      have hne : ¬ it.equals (cend table) = true := by simp [hend]
      have hi := h.resolve_left hne
      obtain ⟨hstands, hremaining⟩ := populateDevicePath_stands hlen (it.diIdx + 1)
      refine .inr ⟨it.devicePath, it.next table, if_neg hne, hstands, ?_⟩
      rw [remaining, if_neg hne, ConstIterator.next, hremaining,
        (at_interface hlen hi it.devicePath).2]

/-- The iterations so far, and what remains. -/
theorem runs_remaining (hlen : table.length < MAXDWORD.toNat) {it : ConstIterator}
    {runs : List (Iteration WString HiddAttributes HidCapabilities)}
    (h : (reportLoop table).Runs (cbegin table) runs it) :
    Standing table it ∧ runs.map (·.device) ++ remaining table it =
      table.filterMap DeviceInterface.installedPath := by
  induction h with
  | nil => exact populateDevicePath_stands hlen 0
  | @snoc runs it it' run _ hnext _ ih =>
      obtain ⟨hstands, hpaths⟩ := ih
      rcases next_cases hlen hstands with ⟨hend, -⟩ | ⟨path, it'', hsome, hstands', hcons⟩
      · rw [hend] at hnext
        cases hnext
      · obtain ⟨rfl, rfl⟩ := Prod.mk.inj (Option.some.inj (hsome.symm.trans hnext))
        refine ⟨hstands', ?_⟩
        rw [← hpaths, hcons]
        simp

/-! ### One device -/

/-- `interface_number` returns for every path. -/
theorem exists_interfaceNumber (path : WString) : ∃ n, interfaceNumber path = some n := by
  by_cases htag : ∃ i, DecidingTag path i
  · obtain ⟨i, htag⟩ := htag
    by_cases hdigits : ∃ hi lo, DigitsAfter path i hi lo
    · obtain ⟨hi, lo, hdigits⟩ := hdigits
      exact ⟨_, interfaceNumber_of_digits htag hdigits⟩
    · exact ⟨_, interfaceNumber_of_no_digits htag hdigits⟩
  · exact ⟨_, interfaceNumber_of_no_tag fun i hi => htag ⟨i, hi⟩⟩

/-- The platform `open` ends, whatever the system answers. -/
theorem WindowsHIDDevice.openPlatform_total (filename : WString) (s : WindowsCalls)
    (d : WindowsHIDDevice) : ∃ r, openPlatform filename s d r := by
  unfold openPlatform
  split
  · exact ⟨_, rfl⟩
  · split
    · exact ⟨_, rfl⟩
    · obtain ⟨n, hn⟩ := exists_interfaceNumber filename
      unfold initDeviceInfo
      cases s.attributes with
      | none => exact ⟨_, _, _, rfl, rfl⟩
      | some attrs => exact ⟨_, _, _, ⟨n, hn, rfl⟩, rfl⟩

theorem WindowsHIDDevice.identifiesNew_total (filename : WString) (s : WindowsCalls)
    (t : WriteCalls) :
    ∃ result trace, IdentifiesNew (deviceClass filename) {} s t result trace := by
  obtain ⟨⟨opened, d⟩, hopen⟩ := openPlatform_total filename s (Device.new {} {})
  have hidentify : ∃ r, (deviceClass filename).identify s t (Device.new {} {}) r :=
    ⟨_, opened, d, hopen, rfl⟩
  obtain ⟨⟨result, d'⟩, hidentify⟩ := hidentify
  exact ⟨result, _, {}, d', hidentify, rfl⟩

/-- One object from its constructor to its destructor. -/
theorem ReportsDevice.ordered {path : WString} {result : Except Exception Unit}
    {trace : List (OsEvent HiddAttributes HidCapabilities)}
    (h : ReportsDevice path result trace) :
    (handleProtocol HiddAttributes HidCapabilities).state trace = some .closed ∧
      AllGated (WindowsHIDDevice.deviceClass path) (WindowsHIDDevice.decoding path) trace := by
  rcases h with ⟨-, rfl⟩ | ⟨s, t, hidentifies⟩
  · exact ⟨rfl, by simp [AllGated]⟩
  · exact hidentifies.ordered (WindowsHIDDevice.lawful path)
      (WindowsHIDDevice.writesMessage path)

/-- The codes are 0 and 1. -/
theorem firstFailure_report (results : List (Except Exception Unit)) :
    (reportLoop table).firstFailure results = if ∀ r ∈ results, r = .ok () then 0 else 1 := by
  induction results with
  | nil => rfl
  | cons r results ih =>
      unfold DeviceLoop.firstFailure at ih ⊢
      rw [List.findSome?_cons]
      cases r with
      | ok => simpa using ih
      | error e => simp [reportLoop]

/-! ### All devices -/

/-- What `command_report` returns, from all devices. -/
theorem commandReport_exit (hlen : table.length < MAXDWORD.toNat) {n : Int32}
    (h : CommandReport true table (.ok n)) :
    ∃ (runs : List (Iteration WString HiddAttributes HidCapabilities)) (it : ConstIterator),
      (reportLoop table).Runs (cbegin table) runs it ∧
      runs.map (·.device) = table.filterMap DeviceInterface.installedPath ∧
      n = if ∀ run ∈ runs, run.result = .ok () then 0 else 1 := by
  obtain ⟨v, ⟨hreach, hend⟩, hn⟩ := (if_neg (by decide)).mp h
  have hcode : ∀ e, (reportLoop table).handler e ≠ 0 := fun _ => (by decide : (1 : Int32) ≠ 0)
  obtain ⟨runs, hruns, hexit, -⟩ := (DeviceLoop.system_reachable hcode).mp hreach
  obtain ⟨hstands, hpaths⟩ := runs_remaining hlen hruns
  refine ⟨runs, v.cursor, hruns, ?_, ?_⟩
  · rcases next_cases hlen hstands with ⟨-, hnil⟩ | ⟨path, it, hnext, -⟩
    · rw [← hpaths, hnil, List.append_nil]
    · rw [hend] at hnext
      cases hnext
  · rw [Except.ok.inj hn, hexit, firstFailure_report]
    simp

/-- **The report loop** between two devices. The objects that have been used are
those of the devices before the iterator, in the order of the table and whatever
failed: what has been done on handles is what they did, one handle at a time and
with every message past all gates, and the exit code says whether all of them
succeeded. The loop ends after the last device, and until then it comes to the
next one, whatever the system answers about it. -/
theorem report_loop (hlen : table.length < MAXDWORD.toNat)
    {v : LoopVars ConstIterator HiddAttributes HidCapabilities}
    (h : ((reportLoop table).system (cbegin table)).Reachable v) :
    ∃ (runs : List (Iteration WString HiddAttributes HidCapabilities)) (rest : List WString),
      (reportLoop table).Runs (cbegin table) runs v.cursor ∧
      v.trace = (runs.map (·.trace)).reverse.flatten ∧
      runs.map (·.device) ++ rest =
        table.filterMap DeviceInterface.installedPath ∧
      v.exitRet = (if ∀ run ∈ runs, run.result = .ok () then 0 else 1) ∧
      (handleProtocol _ _).state v.trace = some .closed ∧
      (∀ run ∈ runs, ReportsDevice run.device run.result run.trace ∧
        AllGated (WindowsHIDDevice.deviceClass run.device)
          (WindowsHIDDevice.decoding run.device) run.trace) ∧
      ((reportLoop table).Ends (cbegin table) v ↔ rest = []) ∧
      ∀ path ∈ rest.head?, ∀ s t, ∃ v' result trace,
        IdentifiesNew (WindowsHIDDevice.deviceClass path) {} s t result trace ∧
        v'.trace = trace ++ v.trace ∧
        ((reportLoop table).system (cbegin table)).step v v' := by
  have hcode : ∀ e, (reportLoop table).handler e ≠ 0 := fun _ => (by decide : (1 : Int32) ≠ 0)
  obtain ⟨runs, hruns, hexit, htrace⟩ := (DeviceLoop.system_reachable hcode).mp h
  obtain ⟨hstands, hpaths⟩ := runs_remaining hlen hruns
  have hreports : ∀ run ∈ runs, ReportsDevice run.device run.result run.trace :=
    hruns.forall fun _ hbody => hbody
  refine ⟨runs, remaining table v.cursor, hruns, htrace, hpaths, ?_, ?_, ?_, ?_, ?_⟩
  · rw [hexit, firstFailure_report]
    simp
  · rw [htrace]
    exact handleProtocol_flatten (forall_traces fun run hrun => (hreports run hrun).ordered.1)
  · exact fun run hrun => ⟨hreports run hrun, (hreports run hrun).ordered.2⟩
  · rcases next_cases hlen hstands with ⟨hend, hnil⟩ | ⟨path, it, hnext, -, hcons⟩
    · exact iff_of_true ⟨h, hend⟩ hnil
    · refine iff_of_false ?_ (by simp [hcons])
      intro hends
      rw [hends.2] at hnext
      cases hnext
  · intro path hhead s t
    rcases next_cases hlen hstands with ⟨-, hnil⟩ | ⟨path', it, hnext, -, hcons⟩
    · simp [hnil] at hhead
    · obtain rfl : path' = path := by simpa [hcons] using hhead
      obtain ⟨result, trace, hidentifies⟩ :=
        WindowsHIDDevice.identifiesNew_total path' s t
      exact ⟨_, result, trace, hidentifies, rfl, _, _, _, _, hnext,
        .inr ⟨s, t, hidentifies⟩, rfl⟩

/-- The interface of one keyboard. -/
def rawHidTable : List DeviceInterface := [⟨answered rawHidPath 16, answered [0, 0, 0, 0] 4⟩]

/-- The message is written to it, and its handle is closed. -/
theorem report_loop_rawHid :
    ∃ v, ((reportLoop rawHidTable).system (cbegin rawHidTable)).Reachable v ∧
      v.trace.length = 6 ∧ (∃ data, OsEvent.sent data ∈ v.trace) ∧
      (handleProtocol _ _).state v.trace = some .closed := by
  have hlen : rawHidTable.length < MAXDWORD.toNat := by decide
  have hstart : ((reportLoop rawHidTable).system (cbegin rawHidTable)).Reachable
      ⟨cbegin rawHidTable, 0, []⟩ := .of_init rfl
  obtain ⟨hstands, hpaths⟩ := populateDevicePath_stands hlen 0
  have hone : installedFrom rawHidTable (0 : UInt32).toNat = [rawHidPath] := by decide
  rcases next_cases hlen hstands with ⟨-, hnil⟩ | ⟨path, it, hnext, -, hcons⟩
  · rw [hpaths, hone] at hnil
    cases hnil
  · rw [hpaths, hone] at hcons
    obtain ⟨rfl, -⟩ := List.cons.inj hcons
    have hidentifies : IdentifiesNew (WindowsHIDDevice.deviceClass rawHidPath) {} rawHidCalls
        ⟨true, true, some 33⟩ (.ok ()) _ :=
      ⟨{}, _, ⟨.ok (), _, ⟨.ok (), _, ⟨1, by decide, rfl⟩, rfl⟩, rfl⟩, rfl⟩
    have hstep : ((reportLoop rawHidTable).system (cbegin rawHidTable)).Reachable _ :=
      hstart.step ⟨_, _, _, _, hnext, .inr ⟨_, _, hidentifies⟩, rfl⟩
    obtain ⟨-, -, -, -, -, -, hclosed, -⟩ := report_loop hlen hstep
    exact ⟨_, hstep, rfl, ⟨_, .tail _ (.tail _ (.head _))⟩, hclosed⟩

end QmkHidIdentify
