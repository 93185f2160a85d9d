import QmkHidIdentify.Windows.SystemCalls

/-!
# QmkHidIdentify.Windows.Registry

`registry_add_event_log` and `registry_remove_event_log` of
`windows/registry.cc`: the event source in the registry, added or removed in one
transaction.

`registry_atomic` says what is left of them whatever fails. The scopes of the
source are those of the `wrapped` handles, which are closed on every way out. The
check of `wrap_valid_handle` turns a transaction that could not be created into a
null handle, and the calls on it fail.
-/

namespace QmkHidIdentify

open Program Environment

/-! ### The functions -/

def LOG_PROVIDER : WString := wide "uk.uuid-QMK HID Identify"

def LOG_REG_HLKM_KEY : WString :=
  wide "SYSTEM\\CurrentControlSet\\Services\\EventLog\\Application\\" ++ LOG_PROVIDER

def LOG_REG_VALUE_CATFILE_NAME : WString := wide "CategoryMessageFile"
def LOG_REG_VALUE_CATCOUNT_NAME : WString := wide "CategoryCount"
def LOG_REG_VALUE_CATCOUNT_DATA : UInt32 := 5
def LOG_REG_VALUE_MSGFILE_NAME : WString := wide "EventMessageFile"
def LOG_REG_VALUE_TYPES_NAME : WString := wide "TypesSupported"
-- information, warning and error
def LOG_REG_VALUE_TYPES_DATA : UInt32 := 4 ||| 2 ||| 1

/-- `registry_set_value`. -/
def registrySetValue (key : Handle) (name : WString) (data : RegData) : Calling Unit := do
  if !(← request (.regSetValueEx key name data)) then
    throw (.win32 "RegSetValueEx")

/-- `CommitTransaction` and the check of its result. -/
def commit (txn : Option Handle) : Calling Unit := do
  if !(← request (.commitTransaction txn)) then
    throw (.win32 "CommitTransaction")

/-- `registry_add_event_log`. -/
def registryAddEventLog : Calling Unit := do
  wrapped .closeHandle (← request .createTransaction) fun txn => do
    match ← request (.regCreateKeyTransacted LOG_REG_HLKM_KEY txn) with
    | none => throw (.win32 "RegCreateKeyTransacted")
    | some key =>
        wrapped .regCloseKey (some key) fun _ => do
          let filename ← currentProcessFilename
          registrySetValue key LOG_REG_VALUE_CATFILE_NAME (.sz filename)
          registrySetValue key LOG_REG_VALUE_CATCOUNT_NAME (.dword LOG_REG_VALUE_CATCOUNT_DATA)
          registrySetValue key LOG_REG_VALUE_MSGFILE_NAME (.sz filename)
          registrySetValue key LOG_REG_VALUE_TYPES_NAME (.dword LOG_REG_VALUE_TYPES_DATA)
          commit txn

/-- `registry_remove_event_log`. -/
def registryRemoveEventLog : Calling Unit := do
  wrapped .closeHandle (← request .createTransaction) fun txn => do
    match ← request (.regDeleteKeyTransacted LOG_REG_HLKM_KEY txn) with
    | .ok () => commit txn
    | .error e =>
        if e = ERROR_FILE_NOT_FOUND then commit txn
        else throw (.win32 "RegDeleteKeyTransacted")

/-! ### In a transaction -/

/-- All or nothing: a function leaves `s'` if it returns, and `s` if it throws. -/
def AllOrNothing (s s' : System) : Except Thrown Unit → System → Prop
  | .ok (), s'' => s'' = s'
  | .error _, s'' => s'' = s

section Transaction

variable {s : System} {t key : Handle} {view : Registry} {subKey : WString} {values : RegKey}

theorem ensures_registrySetValue (hkey : s.handles key = some (.key t subKey))
    (htxn : s.handles t = some (.transaction view)) (hvalues : view subKey = some values)
    (name : WString) (data : RegData) :
    administration.Ensures s (registrySetValue key name data)
      (AllOrNothing s (s.setHandle t (some (.transaction (Function.update view subKey
        (some (Function.update values name (some data)))))))) := by
  refine ensures_request ⟨t, subKey, hkey⟩ ?_
  intro r s' hanswer
  cases r with
  | false => exact hanswer
  | true =>
      obtain ⟨t', subKey', view', values', hkey', htxn', hvalues', rfl⟩ := hanswer
      obtain ⟨rfl, rfl⟩ : t = t' ∧ subKey = subKey' := by simpa [hkey] using hkey'
      obtain rfl : view = view' := by simpa [htxn] using htxn'
      obtain rfl : values = values' := by simpa [hvalues] using hvalues'
      rfl

theorem ensures_commit (htxn : s.handles t = some (.transaction view)) :
    administration.Ensures s (commit (some t)) (AllOrNothing s { s with registry := view }) := by
  refine ensures_request ⟨t, view, rfl, htxn⟩ ?_
  intro r s' hanswer
  cases r with
  | false => exact hanswer
  | true =>
      obtain ⟨t', view', ht, htxn', rfl⟩ := hanswer
      obtain rfl : t = t' := by simpa using ht
      obtain rfl : view = view' := by simpa [htxn] using htxn'
      rfl

/-- A function that opens a transaction and ends its scope with it. -/
theorem ensures_transaction {scope : Option Handle → Calling Unit}
    {Q : Except Thrown Unit → System → Prop}
    (hnone : administration.Ensures s (scope none) Q)
    (hsome : ∀ t, s.handles t = none →
      administration.Ensures (s.setHandle t (some (.transaction s.registry))) (scope (some t))
        fun r s' => ∃ s₁ view, s₁.handles t = none ∧
          s' = s₁.setHandle t (some (.transaction view)) ∧ Q r s₁) :
    administration.Ensures s
      (request .createTransaction >>= fun txn => wrapped .closeHandle txn scope) Q := by
  refine ensures_request trivial ?_
  intro r s' hanswer
  cases r with
  | none =>
      obtain rfl : s' = s := hanswer
      exact hnone
  | some t =>
      obtain ⟨hfree, rfl⟩ := hanswer
      refine ensures_wrapped ((hsome t hfree).mono ?_)
      intro r s' hpost
      obtain ⟨s₁, view, hfree', rfl, hQ⟩ := hpost
      refine ⟨⟨view, by simp [System.setHandle_handles]⟩, ?_⟩
      rwa [System.setHandle_setHandle, System.setHandle_free hfree']

end Transaction

/-! ### Adding the event log -/

/-- The values of an event source, for the file with the messages. -/
def eventLogValues (filename : WString) (values : RegKey) : RegKey :=
  Function.update (Function.update (Function.update (Function.update values
    LOG_REG_VALUE_CATFILE_NAME (some (.sz filename)))
    LOG_REG_VALUE_CATCOUNT_NAME (some (.dword LOG_REG_VALUE_CATCOUNT_DATA)))
    LOG_REG_VALUE_MSGFILE_NAME (some (.sz filename)))
    LOG_REG_VALUE_TYPES_NAME (some (.dword LOG_REG_VALUE_TYPES_DATA))

namespace System

/-- The system with the event source. -/
def withEventLog (s : System) : System :=
  { s with
    registry := Function.update s.registry LOG_REG_HLKM_KEY
      (some (eventLogValues s.filename ((s.registry LOG_REG_HLKM_KEY).getD fun _ => none))) }

/-- The system without the event source. -/
def withoutEventLog (s : System) : System :=
  { s with registry := Function.update s.registry LOG_REG_HLKM_KEY none }

theorem registry_withEventLog (s : System) : s.withEventLog.registry LOG_REG_HLKM_KEY =
    some (eventLogValues s.filename ((s.registry LOG_REG_HLKM_KEY).getD fun _ => none)) := by
  simp [withEventLog]

theorem registry_withoutEventLog (s : System) :
    s.withoutEventLog.registry LOG_REG_HLKM_KEY = none := by
  simp [withoutEventLog]

/-- The key is open in a transaction, with these values. -/
def editing (s : System) (t key : Handle) (values : RegKey) : System :=
  (s.setHandle t (some (.transaction
    (Function.update s.registry LOG_REG_HLKM_KEY (some values))))).setHandle key
      (some (.key t LOG_REG_HLKM_KEY))

end System

section Editing

variable {s : System} {t key : Handle} {values : RegKey}

theorem editing_key : (s.editing t key values).handles key = some (.key t LOG_REG_HLKM_KEY) := by
  simp [System.editing, System.setHandle_handles]

theorem editing_transaction (hne : t ≠ key) : (s.editing t key values).handles t =
    some (.transaction (Function.update s.registry LOG_REG_HLKM_KEY (some values))) := by
  simp [System.editing, System.setHandle_handles, hne]

/-- The key is closed before the transaction is. -/
theorem editing_close (hfree : s.handles key = none) (hne : t ≠ key) {registry : Registry} :
    { s.editing t key values with registry := registry }.setHandle key none =
      { s with registry := registry }.setHandle t (some (.transaction
        (Function.update s.registry LOG_REG_HLKM_KEY (some values)))) := by
  simp [System.editing, System.setHandle, Function.update_of_ne hne.symm, hfree]

/-- One value, and what follows it. -/
theorem ensures_value (hne : t ≠ key) {name : WString} {data : RegData}
    {f : Unit → Calling Unit} {Q : Except Thrown Unit → System → Prop}
    (herror : ∀ e, Q (.error e) (s.editing t key values))
    (hok : administration.Ensures (s.editing t key (Function.update values name (some data)))
      (f ()) Q) :
    administration.Ensures (s.editing t key values) (registrySetValue key name data >>= f) Q := by
  refine (ensures_registrySetValue editing_key (editing_transaction hne)
    (Function.update_self ..) name data).seq ?_ ?_
  · intro _ s' hset
    obtain rfl : s' = s.editing t key (Function.update values name (some data)) := by
      refine Eq.trans hset ?_
      simp [System.editing, System.setHandle, Function.update_comm hne]
    exact hok
  · intro e s' hsame
    obtain rfl := hsame
    exact herror e

/-- What happens in the scope of the key. -/
theorem ensures_addValues (hne : t ≠ key) :
    administration.Ensures (s.editing t key values)
      (do
        let filename ← currentProcessFilename
        registrySetValue key LOG_REG_VALUE_CATFILE_NAME (.sz filename)
        registrySetValue key LOG_REG_VALUE_CATCOUNT_NAME (.dword LOG_REG_VALUE_CATCOUNT_DATA)
        registrySetValue key LOG_REG_VALUE_MSGFILE_NAME (.sz filename)
        registrySetValue key LOG_REG_VALUE_TYPES_NAME (.dword LOG_REG_VALUE_TYPES_DATA)
        commit (some t))
      fun r s' => ∃ values', (r = .ok () → s.path.length ≠ 122) ∧
        AllOrNothing (s.editing t key values')
          { s.editing t key values' with
            registry := Function.update s.registry LOG_REG_HLKM_KEY
              (some (eventLogValues s.filename values)) } r s' := by
  refine ensures_currentProcessFilename.seq ?_ ?_
  · intro filename s' h
    obtain ⟨rfl, hfilename⟩ := h
    obtain ⟨rfl, hlength⟩ := hfilename filename rfl
    refine ensures_value hne (fun _ => ⟨_, nofun, rfl⟩) ?_
    refine ensures_value hne (fun _ => ⟨_, nofun, rfl⟩) ?_
    refine ensures_value hne (fun _ => ⟨_, nofun, rfl⟩) ?_
    refine ensures_value hne (fun _ => ⟨_, nofun, rfl⟩) ?_
    refine (ensures_commit (editing_transaction hne)).mono ?_
    intro r s' hcommit
    exact ⟨_, fun _ => hlength, hcommit⟩
  · intro e s' h
    exact ⟨values, nofun, h.1⟩

end Editing

/-- `registry_add_event_log` adds the values, or changes nothing. -/
theorem ensures_registryAddEventLog (s : System) :
    administration.Ensures s registryAddEventLog fun r s' =>
      (r = .ok () → s.path.length ≠ 122) ∧ AllOrNothing s s.withEventLog r s' := by
  refine ensures_transaction ?_ ?_
  · refine ensures_request nofun ?_
    intro r s' hanswer
    cases r with
    | none => exact ⟨nofun, hanswer⟩
    | some key =>
        obtain ⟨_, _, hnull, -⟩ := hanswer
        cases hnull
  · intro t hfree
    refine ensures_request ?_ ?_
    · intro h hsome
      obtain rfl : t = h := by simpa using hsome
      exact ⟨s.registry, by simp [System.setHandle_handles]⟩
    · intro r s' hanswer
      cases r with
      | none => exact ⟨s, _, hfree, hanswer, nofun, rfl⟩
      | some key =>
          obtain ⟨t', view, ht, hview, hkey, rfl⟩ := hanswer
          obtain rfl : t = t' := by simpa using ht
          obtain rfl : s.registry = view := by simpa [System.setHandle_handles] using hview
          have hne : t ≠ key := by
            intro he
            subst he
            simp [System.setHandle_handles] at hkey
          have hkeyfree : s.handles key = none := by
            simpa [System.setHandle_handles, hne.symm] using hkey
          rw [System.setHandle_setHandle]
          refine ensures_wrapped ((ensures_addValues hne).mono ?_)
          intro r s' hpost
          obtain ⟨values, hlength, hpost⟩ := hpost
          cases r with
          | ok =>
              obtain rfl := hpost
              exact ⟨⟨t, _, editing_key⟩, s.withEventLog, _, hfree, editing_close hkeyfree hne,
                hlength, rfl⟩
          | error e =>
              obtain rfl := hpost
              exact ⟨⟨t, _, editing_key⟩, s, _, hfree, editing_close hkeyfree hne, hlength, rfl⟩

section Adding

variable {s : System} {t key : Handle}

theorem ends_registrySetValue (hne : t ≠ key) {values : RegKey} (name : WString) (data : RegData) :
    administration.Ends (registrySetValue key name data).run (s.editing t key values) (.ok ())
      (s.editing t key (Function.update values name (some data))) := by
  refine ends_request true ⟨t, LOG_REG_HLKM_KEY, _, values, editing_key, editing_transaction hne,
    Function.update_self .., ?_⟩ (.done _ _)
  simp [System.editing, System.setHandle, Function.update_comm hne]

/-- Adding the event log can succeed. -/
theorem ends_registryAddEventLog (hpath : s.path ≠ []) (hlength : s.path.length ≠ 122)
    (ht : s.handles t = none) (hkey : s.handles key = none) (hne : t ≠ key) :
    administration.Ends registryAddEventLog.run s (.ok ()) s.withEventLog := by
  have hreturns : administration.Returns s registryAddEventLog (.ok ()) := by
    refine returns_request.mpr ⟨some t, _, ⟨ht, rfl⟩, returns_wrapped ?_⟩
    have hkey' : (s.setHandle t (some (.transaction s.registry))).handles key = none := by
      simp [System.setHandle_handles, hne.symm, hkey]
    refine returns_request.mpr ⟨some key, _,
      ⟨t, s.registry, rfl, System.handles_setHandle .., hkey', rfl⟩, ?_⟩
    rw [System.setHandle_setHandle]
    have hfilename : ∀ values, administration.Ends currentProcessFilename.run
        (s.editing t key values) (.ok s.filename) (s.editing t key values) :=
      fun values => ends_currentProcessFilename hpath hlength
    refine returns_wrapped ((hfilename _).returns_seq ?_)
    refine (ends_registrySetValue hne _ _).returns_seq ?_
    refine (ends_registrySetValue hne _ _).returns_seq ?_
    refine (ends_registrySetValue hne _ _).returns_seq ?_
    refine (ends_registrySetValue hne _ _).returns_seq ?_
    exact returns_request.mpr ⟨true, _, ⟨t, _, rfl, editing_transaction hne, rfl⟩, _, .done _ _⟩
  obtain ⟨s', hends⟩ := hreturns
  obtain rfl := ((ensures_registryAddEventLog s).ends administration_alone hends.reachable).2
  exact hends

end Adding

/-! ### Removing the event log -/

/-- `registry_remove_event_log` removes the key if it is there, or changes
nothing. -/
theorem ensures_registryRemoveEventLog (s : System) :
    administration.Ensures s registryRemoveEventLog (AllOrNothing s s.withoutEventLog) := by
  refine ensures_transaction ?_ ?_
  · refine ensures_request nofun ?_
    intro r s' hanswer
    cases r with
    | ok =>
        obtain ⟨_, _, hnull, -⟩ := hanswer
        cases hnull
    | error e =>
        obtain ⟨rfl, hnotFound⟩ := hanswer
        dsimp only
        split
        · next he =>
            obtain ⟨_, _, hnull, -⟩ := hnotFound he
            cases hnull
        · rfl
  · intro t hfree
    refine ensures_request ?_ ?_
    · intro h hsome
      obtain rfl : t = h := by simpa using hsome
      exact ⟨s.registry, by simp [System.setHandle_handles]⟩
    · intro r s' hanswer
      cases r with
      | ok =>
          obtain ⟨t', view, ht, hview, -, rfl⟩ := hanswer
          obtain rfl : t = t' := by simpa using ht
          obtain rfl : s.registry = view := by simpa [System.setHandle_handles] using hview
          rw [System.setHandle_setHandle]
          refine (ensures_commit (System.handles_setHandle s t _)).mono ?_
          intro r s' hpost
          cases r with
          | ok => exact ⟨s.withoutEventLog, _, hfree, hpost, rfl⟩
          | error e => exact ⟨s, _, hfree, hpost, rfl⟩
      | error e =>
          obtain ⟨rfl, hnotFound⟩ := hanswer
          dsimp only
          split
          · next he =>
              -- the commit of a view that has not been changed
              obtain ⟨t', view, ht, hview, hnone⟩ := hnotFound he
              obtain rfl : t = t' := by simpa using ht
              obtain rfl : s.registry = view := by simpa [System.setHandle_handles] using hview
              refine (ensures_commit (System.handles_setHandle s t _)).mono ?_
              intro r s' hpost
              have hsame : s.withoutEventLog = s := by simp [System.withoutEventLog, ← hnone]
              cases r with
              | ok => exact ⟨s, _, hfree, hpost, hsame.symm⟩
              | error e => exact ⟨s, _, hfree, hpost, rfl⟩
          · exact ⟨s, _, hfree, rfl, rfl⟩

/-! ### Commands -/

/-- The two commands that change the registry. -/
inductive RegistryCommand
  | register
  | unregister
  deriving DecidableEq, Repr

namespace RegistryCommand

/-- `command_register` and `command_unregister`. -/
def call : RegistryCommand → Calling Unit
  | register => registryAddEventLog
  | unregister => registryRemoveEventLog

/-- What a command does to the system where it succeeds. -/
def effect : RegistryCommand → System → System
  | register, s => s.withEventLog
  | unregister, s => s.withoutEventLog

theorem ensures_call (c : RegistryCommand) (s : System) :
    administration.Ensures s c.call fun r s' =>
      (c = register → r = .ok () → s.path.length ≠ 122) ∧ AllOrNothing s (c.effect s) r s' := by
  cases c with
  | register =>
      exact (ensures_registryAddEventLog s).mono fun r s' h => ⟨fun _ => h.1, h.2⟩
  | unregister => exact (ensures_registryRemoveEventLog s).mono fun r s' h => ⟨nofun, h⟩

@[simp] theorem effect_path (c : RegistryCommand) (s : System) : (c.effect s).path = s.path := by
  cases c <;> rfl

@[simp] theorem effect_handles (c : RegistryCommand) (s : System) :
    (c.effect s).handles = s.handles := by
  cases c <;> rfl

theorem effect_registry_of_ne (c : RegistryCommand) (s : System) {key : WString}
    (hne : key ≠ LOG_REG_HLKM_KEY) : (c.effect s).registry key = s.registry key := by
  cases c <;> exact Function.update_of_ne hne ..

theorem effect_registry_isSome (c : RegistryCommand) (s : System) :
    ((c.effect s).registry LOG_REG_HLKM_KEY).isSome = decide (c = register) := by
  cases c <;> simp [effect, System.registry_withEventLog, System.registry_withoutEventLog]

end RegistryCommand

/-- Commands that are run one after another, with how each of them ends. -/
inductive RunCommands : System → List (RegistryCommand × Except Thrown Unit) → System → Prop
  | nil (s : System) : RunCommands s [] s
  | cons {s s₁ s' : System} (c : RegistryCommand) (r : Except Thrown Unit)
      {log : List (RegistryCommand × Except Thrown Unit)}
      (h : (administration.running c.call.run s).Reachable (.done r, s₁))
      (hlog : RunCommands s₁ log s') : RunCommands s ((c, r) :: log) s'

/-- The commands that succeeded. -/
def succeeded (log : List (RegistryCommand × Except Thrown Unit)) : List RegistryCommand :=
  log.filterMap fun entry => match entry.2 with
    | .ok () => some entry.1
    | .error _ => none

/-- The system after the commands that succeeded. -/
def afterCommands (s : System) (commands : List RegistryCommand) : System :=
  commands.foldl (fun s c => c.effect s) s

section Commands

variable {s s' : System} {log : List (RegistryCommand × Except Thrown Unit)}

theorem RunCommands.eq_afterCommands (h : RunCommands s log s') :
    s' = afterCommands s (succeeded log) := by
  induction h with
  | nil s => rfl
  | cons c r hrun _ ih =>
      have hpost := ((c.ensures_call _).ends administration_alone hrun).2
      rw [ih]
      cases r with
      | ok =>
          obtain rfl := hpost
          rfl
      | error e =>
          obtain rfl := hpost
          rfl

theorem afterCommands_same (s : System) (commands : List RegistryCommand) :
    (afterCommands s commands).path = s.path ∧ (afterCommands s commands).handles = s.handles ∧
      ∀ key ≠ LOG_REG_HLKM_KEY, (afterCommands s commands).registry key = s.registry key := by
  induction commands generalizing s with
  | nil => exact ⟨rfl, rfl, fun _ _ => rfl⟩
  | cons c commands ih =>
      obtain ⟨hpath, hhandles, hothers⟩ := ih (c.effect s)
      refine ⟨hpath.trans (c.effect_path s), hhandles.trans (c.effect_handles s), ?_⟩
      intro key hne
      exact (hothers key hne).trans (c.effect_registry_of_ne s hne)

theorem RunCommands.not_registered (h : RunCommands s log s') (hlength : s.path.length = 122) :
    RegistryCommand.register ∉ succeeded log := by
  induction h with
  | nil s => exact List.not_mem_nil
  | cons c r hrun _ ih =>
      obtain ⟨hok, hpost⟩ := (c.ensures_call _).ends administration_alone hrun
      cases r with
      | ok =>
          obtain rfl := hpost
          refine List.not_mem_cons_of_ne_of_not_mem ?_ (ih (by simpa using hlength))
          intro he
          exact hok he.symm rfl hlength
      | error e =>
          obtain rfl := hpost
          exact ih hlength

/-- **Register and unregister** leave what the commands that succeeded make of the
registry, whatever fails in the others: nothing but the key of the event source
changes, it exists exactly if the last of them registered it, and no handle is
left open. -/
theorem registry_atomic (h : RunCommands s log s') :
    s' = afterCommands s (succeeded log) ∧ s'.handles = s.handles ∧
      (∀ key ≠ LOG_REG_HLKM_KEY, s'.registry key = s.registry key) ∧
      (∀ c commands, succeeded log = commands ++ [c] →
        (s'.registry LOG_REG_HLKM_KEY).isSome = decide (c = .register)) ∧
      (s.path.length = 122 → RegistryCommand.register ∉ succeeded log) := by
  obtain rfl := h.eq_afterCommands
  obtain ⟨-, hhandles, hothers⟩ := afterCommands_same s (succeeded log)
  refine ⟨rfl, hhandles, hothers, ?_, h.not_registered⟩
  intro c commands hlast
  rw [hlast, afterCommands, List.foldl_append]
  exact c.effect_registry_isSome _

end Commands

/-- A system without services and registry keys. -/
def emptySystem : System where
  path := wide "C:\\qmk-hid-identify.exe"
  registry _ := none
  services _ := none
  handles _ := none

theorem emptySystem_registers :
    administration.Ends registryAddEventLog.run emptySystem (.ok ()) emptySystem.withEventLog :=
  ends_registryAddEventLog (by decide) (by decide) rfl rfl (by decide : (0 : Handle) ≠ 1)

/-- The event source is registered, and then the program cannot delete it. -/
theorem registry_atomic_register :
    ∃ s', RunCommands emptySystem
        [(.register, .ok ()), (.unregister, .error (.win32 "RegDeleteKeyTransacted"))] s' ∧
      (s'.registry LOG_REG_HLKM_KEY).isSome = true := by
  have hunregister : administration.Ends registryRemoveEventLog.run emptySystem.withEventLog
      (.error (.win32 "RegDeleteKeyTransacted")) emptySystem.withEventLog :=
    .call none rfl <| .call (.error 5) ⟨rfl, nofun⟩ <| .done _ _
  have hruns : RunCommands emptySystem
      [(.register, .ok ()), (.unregister, .error (.win32 "RegDeleteKeyTransacted"))]
      emptySystem.withEventLog :=
    .cons .register _ emptySystem_registers.reachable
      (.cons .unregister _ hunregister.reachable (.nil _))
  exact ⟨_, hruns, (registry_atomic hruns).2.2.2.1 .register [] rfl⟩

end QmkHidIdentify
