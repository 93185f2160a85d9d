import Mathlib.Logic.Function.Basic
import QmkHidIdentify.Lib.Program
import QmkHidIdentify.Windows.RunElevated
import QmkHidIdentify.Windows.ServiceControl

/-!
# QmkHidIdentify.Windows.SystemCalls

What the commands of an administrator call: the transacted registry of
`windows/registry.cc` and the service control manager of
`windows/service-control.cc`. `SystemCall` has one constructor for each function
with the arguments that depend on the program, and `administration` says what
the documentation of these functions promises.

Every call may fail at any time and then changes nothing. A transaction has its
own view of the registry, which becomes the registry where it is committed and is
dropped where its handle is closed. A call on a handle that is null fails. The
status of the service may be anything: `ServiceUninstall` runs the same calls
beside the service.

What is left out: access rights, the messages, and the error codes that no
handler tells apart.
-/

namespace QmkHidIdentify

def ERROR_FILE_NOT_FOUND : UInt32 := 2
def ERROR_INSUFFICIENT_BUFFER : UInt32 := 122
def ERROR_SERVICE_ALREADY_RUNNING : UInt32 := 1056
def ERROR_SERVICE_DOES_NOT_EXIST : UInt32 := 1060
def ERROR_SERVICE_MARKED_FOR_DELETE : UInt32 := 1072
def ERROR_SERVICE_EXISTS : UInt32 := 1073

/-- A handle that is not null. -/
abbrev Handle := Nat

/-- The functions that close a handle. -/
inductive Deleter
  | closeHandle
  | regCloseKey
  | closeServiceHandle
  deriving DecidableEq, Repr

/-- The data of a registry value, by its type. -/
inductive RegData
  | sz (text : WString)
  | dword (v : UInt32)
  deriving DecidableEq, Repr

/-- The values of a registry key by their names. -/
abbrev RegKey := WString → Option RegData

/-- What `CreateService` and `ChangeServiceConfig` are given. -/
structure ServiceConfig where
  serviceType : UInt32
  startType : UInt32
  errorControl : UInt32
  binaryPathName : WString
  displayName : WString
  deriving DecidableEq, Repr

/-- What `GetModuleFileName` returns and leaves in its buffer. -/
structure ModuleFileName where
  ret : UInt32
  filename : WString
  deriving DecidableEq, Repr

inductive SystemCall
  | getModuleFileName (size : Nat)
  | close (deleter : Deleter) (h : Handle)
  -- the registry, below `HKEY_LOCAL_MACHINE`
  | createTransaction
  | regCreateKeyTransacted (subKey : WString) (txn : Option Handle)
  | regSetValueEx (key : Handle) (name : WString) (data : RegData)
  | regDeleteKeyTransacted (subKey : WString) (txn : Option Handle)
  | commitTransaction (txn : Option Handle)
  -- the service control manager
  | openSCManager
  | createService (manager : Handle) (key : WString) (config : ServiceConfig)
  | openService (manager : Handle) (key : WString)
  | changeServiceConfig (service : Handle) (config : ServiceConfig)
  | changeServiceConfig2 (service : Handle) (description : WString)
  | startService (service : Handle)
  /-- the calls of one `query_service_status` -/
  | queryServiceStatus (service : Handle)
  | controlStop (service : Handle)
  | deleteService (service : Handle)
  | getTickCount
  | sleep (ms : UInt32)

/-- What a call answers. A function that failed answers `none` or `false`, or
its error code where that is looked at. -/
abbrev SystemCall.Answer : SystemCall → Type
  | getModuleFileName _ => ModuleFileName
  | close _ _ | sleep _ => Unit
  | createTransaction | regCreateKeyTransacted _ _ | openSCManager => Option Handle
  | createService _ _ _ | openService _ _ => Except UInt32 Handle
  | regDeleteKeyTransacted _ _ | startService _ | deleteService _ => Except UInt32 Unit
  | regSetValueEx _ _ _ | commitTransaction _ | changeServiceConfig _ _ => Bool
  | changeServiceConfig2 _ _ | controlStop _ => Bool
  | queryServiceStatus _ => SizedCalls ServiceStatusProcess
  | getTickCount => UInt32

/-- A function of the program that makes these calls. -/
abbrev Calling (α : Type) := Program.Throwing SystemCall SystemCall.Answer Thrown α

def request (c : SystemCall) : Calling c.Answer := Program.request c

/-- A `wrapped_ptr` for a handle, and what is done in its scope. -/
def wrapped {α : Type} (deleter : Deleter) (handle : Option Handle)
    (scope : Option Handle → Calling α) : Calling α :=
  match handle with
  | none => scope none
  | some h => Program.cleanup (scope (some h)) (.close deleter h)

def maxPath : Nat := 32767

/-- `current_process_filename`. -/
def currentProcessFilename : Calling WString := do
  let name ← request (.getModuleFileName (maxPath + 1))
  if name.ret = 0 ∨ name.ret = ERROR_INSUFFICIENT_BUFFER then
    throw (.win32 "GetModuleFileName")
  return name.filename.cStr

/-! ### What the calls do -/

/-- The registry keys by their paths. -/
abbrev Registry := WString → Option RegKey

/-- What a handle stands for. -/
inductive Object
  | transaction (view : Registry)
  | key (txn : Handle) (subKey : WString)
  | manager
  | service (key : WString)

/-- A service in the database of the service control manager. -/
structure ServiceRecord where
  config : ServiceConfig
  description : WString
  markedForDelete : Bool

structure System where
  /-- the path of the program file -/
  path : WString
  registry : Registry
  services : WString → Option ServiceRecord
  handles : Handle → Option Object

namespace System

/-- A handle becomes one for an object, or is closed. -/
def setHandle (s : System) (h : Handle) (o : Option Object) : System :=
  { s with handles := Function.update s.handles h o }

def setService (s : System) (key : WString) (record : Option ServiceRecord) : System :=
  { s with services := Function.update s.services key record }

@[simp] theorem setHandle_services (s : System) (h : Handle) (o : Option Object) :
    (s.setHandle h o).services = s.services := rfl

theorem setHandle_handles (s : System) (h h' : Handle) (o : Option Object) :
    (s.setHandle h o).handles h' = if h' = h then o else s.handles h' := by
  simp [setHandle, Function.update_apply]

theorem handles_setHandle (s : System) (h : Handle) (o : Option Object) :
    (s.setHandle h o).handles h = o := Function.update_self ..

@[simp] theorem setHandle_setHandle (s : System) (h : Handle) (o o' : Option Object) :
    (s.setHandle h o).setHandle h o' = s.setHandle h o' := by
  simp [setHandle]

theorem setService_services (s : System) (key : WString) (record : Option ServiceRecord) :
    (s.setService key record).services key = record := Function.update_self ..

@[simp] theorem setService_setService (s : System) (key : WString)
    (record record' : Option ServiceRecord) :
    (s.setService key record).setService key record' = s.setService key record' := by
  simp [setService]

theorem setHandle_setService (s : System) (h : Handle) (o : Option Object) (key : WString)
    (record : Option ServiceRecord) :
    (s.setHandle h o).setService key record = (s.setService key record).setHandle h o := rfl

/-- A handle that is opened and closed again leaves nothing. -/
theorem setHandle_free {s : System} {h : Handle} (hfree : s.handles h = none) :
    s.setHandle h none = s := by
  simp [setHandle, ← hfree]

end System

/-- `GetModuleFileName` with a buffer of this size. -/
def moduleFileName (path : WString) (size : Nat) : ModuleFileName :=
  if path.length < size then ⟨.ofNat path.length, path⟩ else ⟨.ofNat size, path.take (size - 1)⟩

/-- The handles that a call is given must be open and of the right kind. The two
functions that open or delete a key may be given the null handle of a transaction
that could not be created, and then fail. -/
def SystemCall.requires (s : System) : SystemCall → Prop
  | close .closeHandle h => ∃ view, s.handles h = some (.transaction view)
  | close .regCloseKey h => ∃ txn subKey, s.handles h = some (.key txn subKey)
  | close .closeServiceHandle h =>
      s.handles h = some .manager ∨ ∃ key, s.handles h = some (.service key)
  | regCreateKeyTransacted _ txn | regDeleteKeyTransacted _ txn =>
      ∀ h, txn = some h → ∃ view, s.handles h = some (.transaction view)
  | commitTransaction txn => ∃ h view, txn = some h ∧ s.handles h = some (.transaction view)
  | regSetValueEx key _ _ => ∃ txn subKey, s.handles key = some (.key txn subKey)
  | createService manager _ _ | openService manager _ => s.handles manager = some .manager
  | changeServiceConfig service _ | changeServiceConfig2 service _ | startService service
  | queryServiceStatus service | controlStop service | deleteService service =>
      ∃ key, s.handles service = some (.service key)
  | getModuleFileName _ | createTransaction | openSCManager | getTickCount | sleep _ => True

/-- The answers of a call in a state, with the state after it. -/
def SystemCall.answers : (c : SystemCall) → System → c.Answer → System → Prop
  | getModuleFileName size, s, name, s' =>
      s' = s ∧ (name.ret = 0 ∨ name = moduleFileName s.path size)
  | close _ h, s, (), s' => s' = s.setHandle h none
  | createTransaction, s, none, s' => s' = s
  | createTransaction, s, some h, s' =>
      s.handles h = none ∧ s' = s.setHandle h (some (.transaction s.registry))
  | regCreateKeyTransacted _ _, s, none, s' => s' = s
  | regCreateKeyTransacted subKey txn, s, some h, s' =>
      ∃ t view, txn = some t ∧ s.handles t = some (.transaction view) ∧ s.handles h = none ∧
        s' = (s.setHandle t (some (.transaction (Function.update view subKey
          (some ((view subKey).getD fun _ => none)))))).setHandle h (some (.key t subKey))
  | regSetValueEx _ _ _, s, false, s' => s' = s
  | regSetValueEx key name data, s, true, s' =>
      ∃ t subKey view values, s.handles key = some (.key t subKey) ∧
        s.handles t = some (.transaction view) ∧ view subKey = some values ∧
        s' = s.setHandle t (some (.transaction (Function.update view subKey
          (some (Function.update values name (some data))))))
  | regDeleteKeyTransacted subKey txn, s, .ok (), s' =>
      ∃ t view, txn = some t ∧ s.handles t = some (.transaction view) ∧
        (view subKey).isSome = true ∧
        s' = s.setHandle t (some (.transaction (Function.update view subKey none)))
  | regDeleteKeyTransacted subKey txn, s, .error e, s' =>
      s' = s ∧ (e = ERROR_FILE_NOT_FOUND →
        ∃ t view, txn = some t ∧ s.handles t = some (.transaction view) ∧ view subKey = none)
  | commitTransaction _, s, false, s' => s' = s
  | commitTransaction txn, s, true, s' =>
      ∃ t view, txn = some t ∧ s.handles t = some (.transaction view) ∧
        s' = { s with registry := view }
  | openSCManager, s, none, s' => s' = s
  | openSCManager, s, some h, s' => s.handles h = none ∧ s' = s.setHandle h (some .manager)
  | createService _ key _, s, .error e, s' =>
      s' = s ∧ (e = ERROR_SERVICE_EXISTS → (s.services key).isSome = true)
  | createService _ key config, s, .ok h, s' =>
      s.services key = none ∧ s.handles h = none ∧
        s' = (s.setService key (some ⟨config, [], false⟩)).setHandle h (some (.service key))
  | openService _ key, s, .error e, s' =>
      s' = s ∧ (e = ERROR_SERVICE_DOES_NOT_EXIST → s.services key = none)
  | openService _ key, s, .ok h, s' =>
      (s.services key).isSome = true ∧ s.handles h = none ∧
        s' = s.setHandle h (some (.service key))
  | changeServiceConfig _ _, s, false, s' => s' = s
  | changeServiceConfig service config, s, true, s' =>
      ∃ key record, s.handles service = some (.service key) ∧ s.services key = some record ∧
        record.markedForDelete = false ∧
        s' = s.setService key (some { record with config := config })
  | changeServiceConfig2 _ _, s, false, s' => s' = s
  | changeServiceConfig2 service description, s, true, s' =>
      ∃ key record, s.handles service = some (.service key) ∧ s.services key = some record ∧
        record.markedForDelete = false ∧
        s' = s.setService key (some { record with description := description })
  | startService _, s, _, s' => s' = s
  | queryServiceStatus _, s, _, s' => s' = s
  | controlStop _, s, _, s' => s' = s
  | deleteService service, s, .ok (), s' =>
      ∃ key record, s.handles service = some (.service key) ∧ s.services key = some record ∧
        record.markedForDelete = false ∧
        s' = s.setService key (some { record with markedForDelete := true })
  | deleteService service, s, .error e, s' =>
      s' = s ∧ (e = ERROR_SERVICE_MARKED_FOR_DELETE →
        ∃ key record, s.handles service = some (.service key) ∧ s.services key = some record ∧
          record.markedForDelete = true)
  | getTickCount, s, _, s' | sleep _, s, _, s' => s' = s

/-- The system, as the only process that changes these parts of it sees it. -/
def administration : Environment SystemCall SystemCall.Answer System where
  other _ _ := False
  requires c s := c.requires s
  answers := SystemCall.answers

theorem administration_alone : administration.Alone := fun _ _ => id

section Rules

open Environment

variable {α : Type} {s : System} {Q : Except Thrown α → System → Prop}

/-- A call and what follows it. -/
theorem ensures_request {c : SystemCall} {f : c.Answer → Calling α} (hrequires : c.requires s)
    (hanswers : ∀ r s', c.answers s r s' → administration.Ensures s' (f r) Q) :
    administration.Ensures s (request c >>= f) Q :=
  ensures_call administration_alone hrequires hanswers

/-- The scope of a handle, which must still be open where the scope ends. -/
theorem ensures_wrapped {deleter : Deleter} {h : Handle} {scope : Option Handle → Calling α}
    (hscope : administration.Ensures s (scope (some h)) fun r s' =>
      (SystemCall.close deleter h).requires s' ∧ Q r (s'.setHandle h none)) :
    administration.Ensures s (wrapped deleter (some h) scope) Q := by
  refine ensures_cleanup administration_alone (hscope.mono ?_)
  intro r s' hpost
  refine ⟨hpost.1, ?_⟩
  intro _ s'' hanswer
  obtain rfl : s'' = s'.setHandle h none := hanswer
  exact hpost.2

/-- What `current_process_filename` returns, for the path of the program file. -/
def System.filename (s : System) : WString := (moduleFileName s.path (maxPath + 1)).filename.cStr

/-- It does not return if the path has exactly as many characters as the error
code it compares the length with. -/
theorem ensures_currentProcessFilename :
    administration.Ensures s currentProcessFilename fun r s' =>
      s' = s ∧ ∀ filename, r = .ok filename → filename = s.filename ∧ s.path.length ≠ 122 := by
  refine ensures_request trivial ?_
  intro name s' hanswer
  obtain ⟨rfl, hname⟩ := hanswer
  by_cases herror : name.ret = 0 ∨ name.ret = ERROR_INSUFFICIENT_BUFFER
  · simp only [herror, if_true]
    refine ⟨rfl, ?_⟩
    intro filename h
    cases h
  · simp only [herror, if_false]
    refine ⟨rfl, ?_⟩
    intro filename h
    cases h
    obtain ⟨hzero, hbuffer⟩ := not_or.mp herror
    obtain rfl := hname.resolve_left hzero
    refine ⟨rfl, ?_⟩
    intro hlength
    exact hbuffer (by simp [moduleFileName, hlength, maxPath, ERROR_INSUFFICIENT_BUFFER])

/-! ### Calls that succeed -/

theorem moduleFileName_ok (hpath : s.path ≠ []) (hlength : s.path.length ≠ 122) :
    ¬ ((moduleFileName s.path (maxPath + 1)).ret = 0 ∨
      (moduleFileName s.path (maxPath + 1)).ret = ERROR_INSUFFICIENT_BUFFER) := by
  have hne : s.path.length ≠ 0 := by simpa using hpath
  unfold moduleFileName
  split
  · rename_i hlt
    have hlt' : s.path.length < 32768 := hlt
    simp [← UInt32.toNat_inj, ERROR_INSUFFICIENT_BUFFER]
    omega
  · exact (by decide : ¬ (UInt32.ofNat (maxPath + 1) = 0 ∨
      UInt32.ofNat (maxPath + 1) = ERROR_INSUFFICIENT_BUFFER))

theorem ends_currentProcessFilename (hpath : s.path ≠ []) (hlength : s.path.length ≠ 122) :
    administration.Ends currentProcessFilename.run s (.ok s.filename) s := by
  refine ends_request (moduleFileName s.path (maxPath + 1)) ⟨rfl, .inr rfl⟩ ?_
  simp only [moduleFileName_ok hpath hlength, if_false]
  exact .done _ _

theorem returns_wrapped {α : Type} {r : Except Thrown α} {deleter : Deleter} {h : Handle}
    {scope : Option Handle → Calling α} (hscope : administration.Returns s (scope (some h)) r) :
    administration.Returns s (wrapped deleter (some h) scope) r :=
  returns_cleanup (fun s => ⟨(), s.setHandle h none, rfl⟩) hscope

end Rules

end QmkHidIdentify
