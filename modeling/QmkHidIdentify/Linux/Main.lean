import QmkHidIdentify.Identify.DeviceLoop
import QmkHidIdentify.Linux.RoundTrip

/-!
# QmkHidIdentify.Linux.Main

`main` of `linux/main.cc`: it identifies the device of every argument and
returns the exit code of the first failure, which the handlers choose by the
class of the exception.

`outcome` says how `identify()` on a new object ends, from what the system
answers. It need not end: the loop of `init_reports` goes on forever over a
descriptor without a report. `main_exit_iff` says what `main` returns, and when
it returns at all.

What is left out: the text of the usage message, and exceptions from elsewhere
than the device code.
-/

namespace QmkHidIdentify

def EX_USAGE : Int32 := 64
def EX_DATAERR : Int32 := 65
def EX_NOINPUT : Int32 := 66
def EX_UNAVAILABLE : Int32 := 69
def EX_SOFTWARE : Int32 := 70
def EX_OSERR : Int32 := 71
def EX_IOERR : Int32 := 74

/-! ### The handlers -/

/-- The classes that `main` has handlers for. -/
inductive CaughtClass
  | unavailableDevice
  | malformedHIDReportDescriptor
  | osError
  | ioError
  | unsupportedDevice
  | exception
  deriving DecidableEq, Repr

/-- An exception is of a class or of one that is derived from it. -/
def CaughtClass.catches : CaughtClass → Exception → Bool
  | .unavailableDevice, e => e == .unavailableDevice
  | .malformedHIDReportDescriptor, e => e == .malformedHIDReportDescriptor
  | .osError, e => e == .osError || e == .osLengthError
  | .ioError, e => e == .ioError || e == .ioLengthError
  | .unsupportedDevice, e =>
      e == .unavailableDevice || e == .disallowedUSBDevice ||
        e == .unsupportedHIDReportDescriptor || e == .malformedHIDReportDescriptor ||
        e == .unsupportedHIDReportUsage
  | .exception, _ => true

/-- The handlers in their order. -/
def handlers : List (CaughtClass × Int32) :=
  [(.unavailableDevice, EX_NOINPUT), (.malformedHIDReportDescriptor, EX_DATAERR),
    (.osError, EX_OSERR), (.ioError, EX_IOERR), (.unsupportedDevice, EX_UNAVAILABLE),
    (.exception, EX_SOFTWARE)]

/-- The code of the first handler that takes the exception. -/
def handlerCode (e : Exception) : Int32 :=
  ((handlers.find? (·.1.catches e)).map (·.2)).getD 0

/-- Every exception of the device code has a handler before the last one. -/
theorem handlerCode_mem (e : Exception) :
    handlerCode e ∈ [EX_NOINPUT, EX_DATAERR, EX_OSERR, EX_IOERR, EX_UNAVAILABLE] := by
  cases e <;> decide

theorem handlerCode_ne_zero (e : Exception) : handlerCode e ≠ 0 := by
  cases e <;> decide

/-! ### `main` -/

/-- What the system answers while a device is identified. -/
structure HidrawAnswers where
  calls : HidrawCalls
  /-- the return value of `write` -/
  written : Int64

/-- The loop over the arguments, by their index. -/
def argumentLoop (argc : Nat) (answers : Nat → HidrawAnswers) :
    DeviceLoop Nat Nat HidrawDevinfo HidrawDescriptor where
  next i := if i < argc then some (i, i + 1) else none
  body i := IdentifiesNew LinuxHIDDevice.deviceClass {} (answers i).calls (answers i).written
  handler := handlerCode

/-- `main` returns this exit code. -/
def Main (argc : Nat) (answers : Nat → HidrawAnswers) (exitRet : Int32) : Prop :=
  if argc < 2 then exitRet = EX_USAGE
  else ∃ v, (argumentLoop argc answers).Ends 1 v ∧ exitRet = v.exitRet

/-! ### One device -/

namespace LinuxHIDDevice

/-- The report that `init_reports` leaves for a descriptor; without one its loop
goes on forever. -/
def firstReport (c : HidrawDescriptor) : Option HIDReport := (scanner.eval {} c.tokens).head?

/-- The queries of `init_reports`. -/
def readDescriptor (s : HidrawCalls) : Except Exception HidrawDescriptor :=
  match s.descSize with
  | none => .error .osError
  | some size =>
      if size < 0 then .error .osLengthError
      else if size.toNatClampNeg > HID_MAX_DESCRIPTOR_SIZE then .error .osLengthError
      else
        match s.desc with
        | none => .error .osError
        | some value => .ok (value.descriptor size.toNatClampNeg)

/-- How `identify()` on a new object ends; `none` if it does not. -/
def outcome (a : HidrawAnswers) : Option (Except Exception Unit) :=
  if a.calls.fd = false then some (.error .unavailableDevice)
  else
    match a.calls.rawInfo, readDescriptor a.calls with
    | none, _ => some (.error .osError)
    | some _, .error e => some (.error e)
    | some info, .ok c =>
        (firstReport c).map fun report =>
          match identifyMessage .linux (deviceInfo info) [report] with
          | .error e => .error e
          | .ok data => (sendReport a.written data).1

theorem initReports_eq (s : HidrawCalls) (d : LinuxHIDDevice) (r : LinuxReturned) :
    initReports s d r ↔ match readDescriptor s with
      | .error e => r = (.error e, d)
      | .ok c => parseReports c (d.record (.descriptor c)) r := by
  unfold initReports readDescriptor
  cases s.descSize with
  | none => rfl
  | some size =>
      dsimp only
      split_ifs
      · rfl
      · rfl
      · cases s.desc <;> rfl

/-- The first report of the descriptor is put into an empty vector. -/
theorem parseReports_iff (c : HidrawDescriptor) {d : LinuxHIDDevice} (hreports : d.reports = [])
    (r : LinuxReturned) :
    parseReports c d r ↔
      ∃ report, firstReport c = some report ∧ r = (.ok (), { d with reports := [report] }) := by
  unfold parseReports
  rw [hreports]
  constructor
  · intro h
    obtain ⟨result, reports, hloop, rfl⟩ := h
    obtain ⟨report, rest, heval, hr⟩ := (initReports_iff _ _ _).mp hloop
    obtain ⟨rfl, rfl⟩ := Prod.mk.inj hr
    exact ⟨report, by simp [firstReport, heval], rfl⟩
  · intro h
    obtain ⟨report, hfirst, rfl⟩ := h
    obtain ⟨rest, heval⟩ := List.head?_eq_some_iff.mp hfirst
    exact ⟨_, _, (initReports_iff _ _ _).mpr ⟨report, rest, heval, rfl⟩, rfl⟩

/-- An object without reports that has read its device info. -/
def informed (d : LinuxHIDDevice) (info : HidrawDevinfo) : LinuxHIDDevice :=
  { d.acquire with deviceInfo := deviceInfo info }.record (.info info)

/-- The platform `open` of an object without a handle and without reports. -/
theorem openPlatform_free_iff (s : HidrawCalls) {d : LinuxHIDDevice} (hhandle : d.handle = false)
    (hreports : d.reports = []) (r : LinuxReturned) :
    openPlatform s d r ↔
      if s.fd = false then r = (.error .unavailableDevice, d)
      else match s.rawInfo, readDescriptor s with
        | none, _ => r = (.error .osError, d.acquire)
        | some info, .error e => r = (.error e, informed d info)
        | some info, .ok c => ∃ report, firstReport c = some report ∧
            r = (.ok (), initName s
              { (informed d info).record (.descriptor c) with reports := [report] }) := by
  rw [openPlatform, hhandle, if_neg (by decide)]
  split
  · rfl
  · cases hinfo : s.rawInfo with
    | none => simp only [initDeviceInfo, hinfo]
    | some info =>
        simp only [initDeviceInfo, hinfo]
        show (∃ result d'', initReports s (informed d info) (result, d'') ∧ _) ↔ _
        simp only [initReports_eq]
        cases readDescriptor s with
        | error e => simp
        | ok c =>
            have hnone : ((informed d info).record (.descriptor c)).reports = [] := hreports
            simp only [parseReports_iff c hnone]
            constructor
            · intro h
              obtain ⟨result, d', ⟨report, hfirst, hresult⟩, rfl⟩ := h
              obtain ⟨rfl, rfl⟩ := Prod.mk.inj hresult
              exact ⟨report, hfirst, rfl⟩
            · intro h
              obtain ⟨report, hfirst, rfl⟩ := h
              exact ⟨_, _, ⟨report, hfirst, rfl⟩, rfl⟩

/-- An opened object ends as its device info and its reports say. -/
theorem identifyOpened_fst (written : Int64) {d : LinuxHIDDevice} {info : USBDeviceInfo}
    {reports : List HIDReport} (hinfo : Device.deviceInfo d = info)
    (hreports : d.reports = reports) :
    (deviceClass.identifyOpened written d).1 =
      match identifyMessage .linux info reports with
      | .error e => .error e
      | .ok data => (sendReport written data).1 := by
  subst hinfo hreports
  obtain ⟨count, hresult⟩ := deviceClass.identifyOpened_eq written d
  rw [hresult]
  show Prod.fst (match identifyMessage .linux (Device.deviceInfo d) d.reports with
    | .error e => _
    | .ok data => _) = _
  cases identifyMessage .linux (Device.deviceInfo d) d.reports <;> rfl

/-- `identify()` on a new object ends as `outcome` says. -/
theorem identifiesNew_iff (a : HidrawAnswers) (result : Except Exception Unit) :
    (∃ trace, IdentifiesNew deviceClass {} a.calls a.written result trace) ↔
      outcome a = some result := by
  have hopen : ∀ info r, deviceClass.openPlatform a.calls (Device.new info {}) r ↔ _ :=
    fun info r => openPlatform_free_iff a.calls (d := Device.new info {}) rfl rfl r
  have hends : (∃ trace, IdentifiesNew deviceClass {} a.calls a.written result trace) ↔
      ∃ info opened d', deviceClass.openPlatform a.calls (Device.new info {}) (opened, d') ∧
        result = opened.bind fun _ => (deviceClass.identifyOpened a.written d').1 := by
    constructor
    · intro h
      obtain ⟨-, info, d, ⟨opened, d', hopened, hr⟩, -⟩ := h
      refine ⟨info, opened, d', hopened, ?_⟩
      cases opened <;> exact congrArg Prod.fst hr
    · intro h
      obtain ⟨info, opened, d', hopened, rfl⟩ := h
      cases opened with
      | ok => exact ⟨_, info, _, ⟨.ok (), d', hopened, rfl⟩, rfl⟩
      | error e => exact ⟨_, info, _, ⟨.error e, d', hopened, rfl⟩, rfl⟩
  rw [hends]
  simp only [hopen, outcome]
  have hinfo : Nonempty USBDeviceInfo := ⟨{}⟩
  by_cases hfd : a.calls.fd = false
  · simp [hfd, Except.bind, eq_comm]
  · simp only [hfd]
    cases a.calls.rawInfo with
    | none => simp [Except.bind, eq_comm]
    | some info =>
        cases readDescriptor a.calls with
        | error e => simp [Except.bind, eq_comm]
        | ok c =>
            rw [if_neg (by decide), Option.map_eq_some_iff]
            constructor
            · intro h
              obtain ⟨info₀, opened, d', h, rfl⟩ := h
              obtain ⟨report, hfirst, hr⟩ := (if_neg (by decide)).mp h
              obtain ⟨rfl, rfl⟩ := Prod.mk.inj hr
              refine ⟨report, hfirst, ?_⟩
              rw [Except.bind, identifyOpened_fst a.written rfl rfl]
              rfl
            · intro h
              obtain ⟨report, hfirst, rfl⟩ := h
              refine ⟨{}, _, _, (if_neg (by decide)).mpr ⟨report, hfirst, rfl⟩, ?_⟩
              rw [Except.bind, identifyOpened_fst a.written rfl rfl]
              rfl

/-- The descriptor is read, and repeated calls of the parser find no report. -/
def NoReport (a : HidrawAnswers) : Prop :=
  a.calls.fd = true ∧ a.calls.rawInfo.isSome = true ∧
    ∃ c, readDescriptor a.calls = .ok c ∧ hidUsages c = some (.finished, [])

theorem outcome_eq_none (a : HidrawAnswers) : outcome a = none ↔ NoReport a := by
  unfold outcome NoReport
  cases a.calls.fd with
  | false => simp
  | true =>
      cases a.calls.rawInfo with
      | none => simp
      | some info =>
          cases readDescriptor a.calls with
          | error e => simp
          | ok c => simp [firstReport, hidUsages_eq]

end LinuxHIDDevice

open LinuxHIDDevice

/-! ### All devices -/

/-- The iterations are for the first arguments, and end as these do. -/
theorem runs_outcome {argc : Nat} {answers : Nat → HidrawAnswers} {cursor : Nat}
    {runs : List (Iteration Nat HidrawDevinfo HidrawDescriptor)}
    (h : (argumentLoop argc answers).Runs 1 runs cursor) :
    cursor = 1 + runs.length ∧ (cursor = 1 ∨ cursor ≤ argc) ∧
      (List.range' 1 runs.length).map (fun i => outcome (answers i)) =
        (runs.map (·.result)).map some := by
  induction h with
  | nil => exact ⟨rfl, .inl rfl, rfl⟩
  | @snoc runs cursor cursor' run _ hnext hbody ih =>
      obtain ⟨hcursor, -, hresults⟩ := ih
      obtain ⟨hlt, hdevice⟩ := Option.ite_none_right_eq_some.mp hnext
      obtain ⟨rfl, rfl⟩ := by simpa using hdevice
      have hrun := (identifiesNew_iff (answers run.device) run.result).mp ⟨_, hbody⟩
      refine ⟨by simp [hcursor, Nat.add_assoc], .inr hlt, ?_⟩
      rw [List.length_append, List.length_singleton, List.range'_1_concat, List.map_append,
        hresults, ← hcursor]
      simp [hrun]

/-- If the first devices all end, there are iterations for them. -/
theorem exists_runs {argc : Nat} {answers : Nat → HidrawAnswers} {n : Nat} (hn : n < argc)
    {results : List (Except Exception Unit)}
    (h : (List.range' 1 n).map (fun i => outcome (answers i)) = results.map some) :
    ∃ runs, (argumentLoop argc answers).Runs 1 runs (1 + n) ∧ runs.map (·.result) = results := by
  induction n generalizing results with
  | zero =>
      obtain rfl : results = [] := by simpa using h.symm
      exact ⟨[], .nil, rfl⟩
  | succ n ih =>
      rw [List.range'_1_concat, List.map_append] at h
      obtain ⟨before, last, rfl, hbefore, hlast⟩ := List.map_eq_append_iff.mp h.symm
      obtain ⟨result, rfl⟩ : ∃ result, last = [result] := by
        have hlength := congrArg List.length hlast
        exact List.length_eq_one_iff.mp (by simpa using hlength)
      obtain ⟨runs, hruns, rfl⟩ := ih (Nat.lt_of_succ_lt hn) hbefore.symm
      have houtcome : outcome (answers (1 + n)) = some result := by simpa using hlast.symm
      obtain ⟨trace, hbody⟩ := (identifiesNew_iff (answers (1 + n)) result).mpr houtcome
      have hlt : 1 + n < argc := by omega
      have hnext : (argumentLoop argc answers).next (1 + n) = some (1 + n, 1 + n + 1) :=
        if_pos hlt
      have hruns' : (argumentLoop argc answers).Runs 1 (runs ++ [⟨1 + n, result, trace⟩])
          (1 + n + 1) := .snoc hruns hnext hbody
      exact ⟨_, hruns', by simp⟩

/-- The loop ends if every `identify()` does, with the code of the first failure. -/
theorem ends_iff {argc : Nat} (hargc : 2 ≤ argc) (answers : Nat → HidrawAnswers)
    (exitRet : Int32) :
    (∃ v, (argumentLoop argc answers).Ends 1 v ∧ exitRet = v.exitRet) ↔ ∃ results,
      (List.range' 1 (argc - 1)).map (fun i => outcome (answers i)) = results.map some ∧
      exitRet = (argumentLoop argc answers).firstFailure results := by
  have hreachable : ∀ v, ((argumentLoop argc answers).system 1).Reachable v ↔ _ :=
    fun _ => DeviceLoop.system_reachable handlerCode_ne_zero
  constructor
  · intro h
    obtain ⟨v, ⟨hreach, hend⟩, rfl⟩ := h
    obtain ⟨runs, hruns, hexit, -⟩ := (hreachable v).mp hreach
    obtain ⟨hcursor, hle, hresults⟩ := runs_outcome hruns
    have hlast : ¬ v.cursor < argc := by simpa [argumentLoop] using hend
    have hlength : argc - 1 = runs.length := by omega
    exact ⟨_, hlength ▸ hresults, hexit⟩
  · intro h
    obtain ⟨results, hresults, rfl⟩ := h
    obtain ⟨runs, hruns, rfl⟩ := exists_runs (show argc - 1 < argc by omega) hresults
    have hlast : (argumentLoop argc answers).next (1 + (argc - 1)) = none := if_neg (by omega)
    exact ⟨⟨_, _, _⟩, ⟨(hreachable _).mpr ⟨runs, hruns, rfl, rfl⟩, hlast⟩, rfl⟩

theorem exists_outcomes (argc : Nat) (answers : Nat → HidrawAnswers) :
    (∃ results : List (Except Exception Unit),
        (List.range' 1 (argc - 1)).map (fun i => outcome (answers i)) = results.map some) ↔
      ∀ i, 1 ≤ i → i < argc → ¬ NoReport (answers i) := by
  constructor
  · intro h i hi hlt
    obtain ⟨results, hresults⟩ := h
    have hmem : outcome (answers i) ∈ results.map some := by
      rw [← hresults]
      exact List.mem_map_of_mem (List.mem_range'_1.mpr (by omega))
    obtain ⟨result, -, hresult⟩ := List.mem_map.mp hmem
    rw [← outcome_eq_none, ← hresult]
    simp
  · intro h
    refine ⟨(List.range' 1 (argc - 1)).map fun i => (outcome (answers i)).getD (.ok ()), ?_⟩
    rw [List.map_map]
    refine List.map_congr_left ?_
    intro i hi
    have hrange := List.mem_range'_1.mp hi
    have hends := h i hrange.1 (by omega)
    rw [← outcome_eq_none] at hends
    obtain ⟨result, hresult⟩ := Option.ne_none_iff_exists'.mp hends
    simp [hresult]

/-- **What `main` returns.** Without an argument that is `EX_USAGE`. With
arguments no failure keeps a later device from being identified, and the code is
that of the first failure, or 0 if there is none. It does not return if a device
answers every query of its `open` and has a descriptor in which repeated calls of
the parser find no report. -/
theorem main_exit_iff (argc : Nat) (answers : Nat → HidrawAnswers) :
    (∀ exitRet, Main argc answers exitRet ↔
      argc < 2 ∧ exitRet = EX_USAGE ∨
      2 ≤ argc ∧ ∃ results,
        (List.range' 1 (argc - 1)).map (fun i => outcome (answers i)) = results.map some ∧
        exitRet = (argumentLoop argc answers).firstFailure results) ∧
    ((∃ exitRet, Main argc answers exitRet) ↔
      ∀ i, 1 ≤ i → i < argc → ¬ NoReport (answers i)) := by
  rw [← exists_outcomes]
  unfold Main
  by_cases hargc : argc < 2
  · have hnone : argc - 1 = 0 := by omega
    simp only [hargc, hnone, Nat.not_le.mpr hargc]
    refine ⟨by simp, iff_of_true ⟨EX_USAGE, rfl⟩ ⟨[], rfl⟩⟩
  · have hends := ends_iff (Nat.le_of_not_lt hargc) answers
    simp only [hargc, Nat.le_of_not_lt hargc, hends]
    refine ⟨by simp, ?_⟩
    simp

/-- **The handles of `main`** between two arguments, however the devices before
ended: no two of them were open at once, none is left open, and every message was
sent to a device that had passed all gates. The inside of an `identify()` that
does not return is not covered. -/
theorem main_ordered (argc : Nat) (answers : Nat → HidrawAnswers)
    {v : LoopVars Nat HidrawDevinfo HidrawDescriptor}
    (h : ((argumentLoop argc answers).system 1).Reachable v) :
    (handleProtocol _ _).state v.trace = some .closed ∧
      AllGated LinuxHIDDevice.deviceClass LinuxHIDDevice.decoding v.trace := by
  obtain ⟨runs, hruns, -, htrace⟩ :=
    (DeviceLoop.system_reachable (L := argumentLoop argc answers) handlerCode_ne_zero).mp h
  have hall := hruns.forall fun run hbody =>
    IdentifiesNew.ordered LinuxHIDDevice.lawful LinuxHIDDevice.writesMessage hbody
  rw [htrace]
  constructor
  · exact handleProtocol_flatten (forall_traces fun run hrun => (hall run hrun).1)
  · exact allGated_flatten (forall_traces hall)

/-- The array with the descriptor of a raw HID interface. -/
def rawHidDescriptor : RptDescValue where
  bytes := encode ([rawHid].flatMap TopCollection.items) ++ List.replicate 4060 0
  size_eq := by
    rw [List.length_append, List.length_replicate]
    decide

theorem firstReport_rawHid :
    firstReport (rawHidDescriptor.descriptor 36) = some rawHid.toReport := by
  have hdescriptor : rawHidDescriptor.descriptor 36 =
      ⟨encode ([rawHid].flatMap TopCollection.items), by decide⟩ :=
    (HidrawDescriptor.mk.injEq ..).mpr (List.take_left' (by decide))
  rw [firstReport, hdescriptor, tokens_encode]
  exact congrArg List.head? (scanner_topCollections true [rawHid])

/-- The first device cannot be opened, the others are keyboards. -/
def keyboardAnswers (i : Nat) : HidrawAnswers :=
  ⟨{ fd := i != 1, rawInfo := some ⟨0x1209, 0x0001⟩, descSize := some 36,
     desc := some rawHidDescriptor, rawPhys := none }, 33⟩

/-- The failure is over, and the message has been sent to the second device. -/
theorem main_ordered_rawHid :
    ∃ v data, ((argumentLoop 3 keyboardAnswers).system 1).Reachable v ∧
      v.exitRet = EX_NOINPUT ∧ OsEvent.sent data ∈ v.trace ∧
      (handleProtocol _ _).state v.trace = some .closed ∧
      AllGated LinuxHIDDevice.deviceClass LinuxHIDDevice.decoding v.trace := by
  have hinit : ((argumentLoop 3 keyboardAnswers).system 1).Reachable ⟨1, 0, []⟩ := .of_init rfl
  have hfirst : ((argumentLoop 3 keyboardAnswers).system 1).Reachable ⟨2, EX_NOINPUT, []⟩ :=
    hinit.step ⟨1, 2, .error .unavailableDevice, [], rfl,
      ⟨{}, _, ⟨.error .unavailableDevice, _, rfl, rfl⟩, rfl⟩, rfl⟩
  have hopen : openPlatform (keyboardAnswers 2).calls (Device.new {} {}) _ :=
    (openPlatform_free_iff _ rfl rfl _).mpr ⟨rawHid.toReport, firstReport_rawHid, rfl⟩
  have hidentifies : IdentifiesNew LinuxHIDDevice.deviceClass {} (keyboardAnswers 2).calls
      (keyboardAnswers 2).written (.ok ()) _ := ⟨{}, _, ⟨.ok (), _, hopen, rfl⟩, rfl⟩
  have hsecond := hfirst.step ⟨2, 3, .ok (), _, rfl, hidentifies, rfl⟩
  have hordered := main_ordered 3 keyboardAnswers hsecond
  refine ⟨_, resize (identifyData .linux) 33, hsecond, rfl, ?_, hordered.1, hordered.2⟩
  exact .tail _ (.tail _ (.head _))

end QmkHidIdentify
