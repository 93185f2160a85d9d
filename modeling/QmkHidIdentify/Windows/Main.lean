import QmkHidIdentify.Windows.ServiceUninstall

/-!
# QmkHidIdentify.Windows.Main

The commands of `windows/main.cc` for an administrator: what they leave and
which exit code they have, and that it makes no difference whether the program
is started as an administrator or starts itself again as one.
-/

namespace QmkHidIdentify

open Program Environment

/-! ### The commands -/

/-- The commands that need an administrator. -/
inductive AdminCommand
  | install
  | uninstall
  | register
  | unregister
  deriving DecidableEq, Repr

/-- `command_install`. -/
def commandInstall (fuel : Nat) : Calling Int32 := do
  serviceInstall fuel
  return 0

/-- `command_uninstall`. -/
def commandUninstall (fuel : Nat) : Calling Int32 := do
  serviceUninstall fuel
  return 0

/-- `command_register`. -/
def commandRegister : Calling Int32 := do
  registryAddEventLog
  return 0

/-- `command_unregister`. -/
def commandUnregister : Calling Int32 := do
  registryRemoveEventLog
  return 0

theorem Uninstalled.handles {s s' : System} {seen : Option UInt32} (h : Uninstalled s seen s') :
    s'.handles = s.handles := by
  cases h <;> rfl

namespace AdminCommand

/-- The implementation that `wmain` finds. -/
def function : AdminCommand → CommandFunction
  | install => .install
  | uninstall => .uninstall
  | register => .register
  | unregister => .unregister

/-- What it does. -/
def call (fuel : Nat) : AdminCommand → Calling Int32
  | install => commandInstall fuel
  | uninstall => commandUninstall fuel
  | register => commandRegister
  | unregister => commandUnregister

/-- What a command leaves that has succeeded, with the state of the service that it
has read last. A service that does not stop in time is not uninstalled. -/
def Done (s : System) : AdminCommand → Option UInt32 → System → Prop
  | install, _, s' => s' = installed s
  | uninstall, seen, s' => Uninstalled s seen s'
  | register, _, s' => s' = s.withEventLog
  | unregister, _, s' => s' = s.withoutEventLog

/-- What a command leaves that has failed. -/
def Undone (s : System) : AdminCommand → System → Prop
  | install, s' => InstallStage s s'
  | uninstall, s' | register, s' | unregister, s' => s' = s

/-- What holds where a command ends. -/
structure Leaves (c : AdminCommand) (s : System) (r : Except Thrown Int32)
    (x : System × Option UInt32) : Prop where
  handles : x.1.handles = s.handles
  ok : ∀ n, r = .ok n → n = 0 ∧ c.Done s x.2 x.1
  error : ∀ e, r = .error e → c.Undone s x.1

variable {c : AdminCommand} {s : System} {x : System × Option UInt32}

theorem Leaves.of_ok (hhandles : x.1.handles = s.handles) (hdone : c.Done s x.2 x.1) :
    c.Leaves s (.ok 0) x :=
  ⟨hhandles, fun _ hr => ⟨(Except.ok.inj hr).symm, hdone⟩, nofun⟩

theorem Leaves.of_error {e : Thrown} (hhandles : x.1.handles = s.handles)
    (hundone : c.Undone s x.1) : c.Leaves s (.error e) x :=
  ⟨hhandles, nofun, fun _ _ => hundone⟩

/-- Every command makes its calls on open handles, and leaves what it says. -/
theorem ensures_call (c : AdminCommand) (fuel : Nat) (s : System) :
    (administration.observing lastState).Ensures (s, none) (c.call fuel) (c.Leaves s) := by
  cases c with
  | install =>
      refine (ensures_observing_iff.mpr (ensures_serviceInstall s fuel)).seq ?_ ?_
      · intro _ x h
        exact .of_ok h.1.handles (h.2 rfl)
      · intro e x h
        exact .of_error h.1.handles h.1
  | uninstall =>
      refine (ensures_serviceUninstall s fuel).seq ?_ ?_
      · intro _ x h
        have hdone : Uninstalled s x.2 x.1 := h
        exact .of_ok hdone.handles hdone
      · intro e x h
        have hsame : x.1 = s := h
        exact .of_error (congrArg System.handles hsame) hsame
  | register =>
      refine (ensures_observing_iff.mpr (ensures_registryAddEventLog s)).seq ?_ ?_
      · intro _ x h
        have hdone : x.1 = s.withEventLog := h.2
        exact .of_ok (by rw [hdone]; rfl) hdone
      · intro e x h
        have hsame : x.1 = s := h.2
        exact .of_error (congrArg System.handles hsame) hsame
  | unregister =>
      refine (ensures_observing_iff.mpr (ensures_registryRemoveEventLog s)).seq ?_ ?_
      · intro _ x h
        have hdone : x.1 = s.withoutEventLog := h
        exact .of_ok (by rw [hdone]; rfl) hdone
      · intro e x h
        have hsame : x.1 = s := h
        exact .of_error (congrArg System.handles hsame) hsame

end AdminCommand

/-! ### Handles and exit codes -/

/-- The commands that `wmain` elevates are those of an administrator. -/
theorem elevate_iff {argv : List WString} {first : WString} {command : Command}
    (hfind : findCommand argv = some (first, command)) :
    command.elevate = true ↔ ∃ c : AdminCommand, command.function = c.function := by
  have hall : ∀ entry ∈ commands, entry.2.elevate = true ↔
      ∃ c : AdminCommand, entry.2.function = c.function := by
    intro entry hentry
    simp only [commands, List.mem_cons, List.not_mem_nil, or_false] at hentry
    rcases hentry with rfl | rfl | rfl | rfl | rfl | rfl
    · exact iff_of_true rfl ⟨.install, rfl⟩
    · exact iff_of_true rfl ⟨.uninstall, rfl⟩
    · exact iff_of_true rfl ⟨.register, rfl⟩
    · exact iff_of_true rfl ⟨.unregister, rfl⟩
    · exact iff_of_false nofun fun ⟨c, hc⟩ => by cases c <;> cases hc
    · exact iff_of_false nofun fun ⟨c, hc⟩ => by cases c <;> cases hc
  unfold findCommand at hfind
  split at hfind
  · exact hall _ (List.mem_of_find?_eq_some hfind)
  · cases hfind

/-- `ShellExecuteEx` starts the program for the other system, where it is elevated:
its command line is the file and the parameters, and its exit code is read where
it ends. -/
structure Elevates (system elevated : MainSystem) : Prop where
  filename : system.filename.isSome = true
  isElevated : elevated.isElevated = .ok true
  execute : ∀ file parameters, system.execute file parameters =
    ⟨true, true, true,
      (wmain elevated (file :: splitCommandLine parameters)).map Int32.toUInt32⟩

/-- **Elevation makes no difference.** Started without the rights that its command
needs, the program returns the exit code that it returns if it is started with
them. -/
theorem wmain_elevation {system elevated : MainSystem} {argv : List WString} {first : WString}
    {command : Command} {n : Int32} (h : Elevates system elevated)
    (hstart : system.isElevated = .ok false) (hfind : findCommand argv = some (first, command))
    (helevate : command.elevate = true) (hends : wmain elevated argv = some n) :
    wmain system argv = some n := by
  obtain ⟨filename, hfilename⟩ := Option.isSome_iff_exists.mp h.filename
  have hdirect : wmain elevated argv = exitCode (elevated.call command.function) := by
    rw [wmain, hfind]
    simp [helevate, h.isElevated, bind, Except.bind]
  have hagain := wmain_elevated hfind h.isElevated filename.cStr
  have hrun : runElevated system [first] = .ok n := by
    rw [runElevated, hfilename]
    simp [h.execute, hagain, ← hdirect, hends]
  rw [wmain, hfind]
  simp [helevate, hstart, hrun, bind, Except.bind, exitCode]

/-- An administrator for whom every command fails. -/
def failingSystem : MainSystem where
  filename := some (wide "C:\\qmk-hid-identify.exe")
  execute _ _ := ⟨false, false, false, none⟩
  isElevated := .ok true
  call _ := .error .hidIdentify

/-- The same system for somebody who is not an administrator. -/
def startingSystem : MainSystem where
  filename := failingSystem.filename
  execute file parameters := ⟨true, true, true,
    (wmain failingSystem (file :: splitCommandLine parameters)).map Int32.toUInt32⟩
  isElevated := .ok false
  call _ := .error .hidIdentify

/-- The exit code of the elevated process is passed on. -/
theorem wmain_elevation_uninstall :
    wmain startingSystem [wide "qmk-hid-identify", wide "uninstall"] = some 1 := by
  have hfind : findCommand [wide "qmk-hid-identify", wide "uninstall"] =
      some (wide "uninstall", ⟨.uninstall, true⟩) := by
    rw [findCommand]
    decide
  have hends : wmain failingSystem [wide "qmk-hid-identify", wide "uninstall"] = some 1 := by
    rw [wmain, hfind]
    rfl
  exact wmain_elevation ⟨rfl, rfl, fun _ _ => rfl⟩ rfl hfind rfl hends

end QmkHidIdentify
