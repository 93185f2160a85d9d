import Mathlib.Data.List.Chain
import Mathlib.Data.List.TakeWhile
import QmkHidIdentify.Lib.Arguments
import QmkHidIdentify.Windows.HidIdentify

/-!
# QmkHidIdentify.Windows.RunElevated

`run_elevated` of `windows/windows++.cc`, which starts the program again with
other parameters, and `wmain` of `windows/main.cc`, which calls it for the
commands that need an administrator.

The command line has every parameter in quotes, with the quotes in it doubled.
Backslashes are copied, although they have a meaning before a quote:
`splitsBack_iff` says which parameters the new process gets back.

What the system answers is a parameter of the model. What is left out: the text
of `usage`, the error codes in exceptions, and the window of the new process.
-/

namespace QmkHidIdentify

/-! ### The command line -/

/-- A wide string literal. -/
def wide (s : String) : WString := s.toList.map fun c => c.toNat.toUInt16

/-- The characters of the argument rules in a `std::wstring`. -/
def argChars : ArgChars UInt16 where
  quote := 0x22
  backslash := 0x5C
  space := 0x20
  tab := 0x09
  distinct := by decide

/-- The loop over the characters of a parameter. -/
def appendChars (cmdline parameter : WString) : WString :=
  parameter.foldl
    (fun cmdline c =>
      (if c = argChars.quote then cmdline ++ [argChars.quote] else cmdline) ++ [c])
    cmdline

/-- The variables of the loop over the parameters. -/
structure CmdlineVars where
  cmdline : WString := []
  first : Bool := true

/-- The body of that loop. -/
def CmdlineVars.append (v : CmdlineVars) (parameter : WString) : CmdlineVars :=
  let cmdline := if v.first then v.cmdline else v.cmdline ++ [argChars.space]
  ⟨appendChars (cmdline ++ [argChars.quote]) parameter ++ [argChars.quote], false⟩

/-- The `cmdline` that `run_elevated` builds. -/
def elevatedCmdline (parameters : List WString) : WString :=
  (parameters.foldl CmdlineVars.append {}).cmdline

/-- `std::wstring::c_str`, as far as its reader goes. -/
def WString.cStr (s : WString) : WString := s.takeWhile (· ≠ 0)

/-- The `lpParameters` that `run_elevated` passes to `ShellExecuteEx`. -/
def lpParameters (parameters : List WString) : WString := (elevatedCmdline parameters).cStr

/-! ### `run_elevated` and `wmain` -/

/-- What the system answers about the new process. -/
structure Execution where
  /-- `ShellExecuteEx` returned true -/
  executed : Bool
  /-- `hProcess` is not null -/
  process : Bool
  /-- the wait for it ended with `WAIT_OBJECT_0` -/
  waited : Bool
  /-- what `GetExitCodeProcess` wrote, if it returned true -/
  exitCode : Option UInt32

/-- An exception, by what the handlers of `wmain` tell apart. -/
inductive Thrown
  /-- `hid_identify::Exception` -/
  | hidIdentify
  /-- `win32::Exception` -/
  | win32 (functionName : String)
  /-- another `std::exception` -/
  | std
  | other
  deriving DecidableEq, Repr

/-- The implementation of a command. -/
inductive CommandFunction
  | install
  | uninstall
  | register
  | unregister
  | report
  | service
  deriving DecidableEq, Repr

structure Command where
  function : CommandFunction
  elevate : Bool
  deriving DecidableEq, Repr

/-- What the system and the commands do under `wmain`. -/
structure MainSystem where
  /-- `GetModuleFileName` -/
  filename : Option WString
  /-- `ShellExecuteEx` for a `lpFile` and `lpParameters`, and what follows it -/
  execute : WString → WString → Execution
  isElevated : Except Thrown Bool
  call : CommandFunction → Except Thrown Int32

/-- `run_elevated`. -/
def runElevated (system : MainSystem) (parameters : List WString) : Except Thrown Int32 :=
  match system.filename with
  | none => .error (.win32 "GetModuleFileName")
  | some filename =>
      let e := system.execute filename.cStr (lpParameters parameters)
      if !e.executed then .error (.win32 "ShellExecuteEx")
      else if !e.process then .ok 0
      else if !e.waited then .error (.win32 "WaitForSingleObject(run_elevated)")
      else
        match e.exitCode with
        | none => .error (.win32 "GetExitCodeProcess")
        | some exitCode => .ok exitCode.toInt32

def commands : List (WString × Command) :=
  [(wide "install", ⟨.install, true⟩), (wide "uninstall", ⟨.uninstall, true⟩),
    (wide "register", ⟨.register, true⟩), (wide "unregister", ⟨.unregister, true⟩),
    (wide "report", ⟨.report, false⟩), (wide "service", ⟨.service, false⟩)]

/-- The command that `wmain` finds; `none` is a call of `usage`. -/
def findCommand : List WString → Option (WString × Command)
  | [_, name] => commands.find? (·.1 == name)
  | _ => none

/-- The exit code by the handlers of `wmain`; `none` is an exception that is
thrown on. -/
def exitCode : Except Thrown Int32 → Option Int32
  | .ok n => some n
  | .error .hidIdentify => some 1
  | .error (.win32 _) | .error .std => some 2
  | .error .other => none

/-- `wmain`, for an `argv` that has the name of the program: `usage` reads it, and
throws where it is not there. -/
def wmain (system : MainSystem) (argv : List WString) : Option Int32 :=
  match findCommand argv with
  | none => some 1
  | some (first, command) =>
      exitCode do
        if command.elevate then
          if !(← system.isElevated) then
            return ← runElevated system [first]
        system.call command.function

/-! ### Reading it back -/

/-- The arguments of a command line. -/
def splitCommandLine (cmdline : WString) : List WString := argChars.split cmdline

/-- A process that is started with the parameters gets them. -/
def SplitsBack (parameters : List WString) : Prop :=
  splitCommandLine (lpParameters parameters) = parameters

/-- In a parameter with its closing quote, no backslash stands directly before a
quote. -/
def KeepsBackslashes (parameter : WString) : Prop :=
  List.IsChain (fun c d => c = argChars.backslash → d ≠ argChars.quote)
    (parameter ++ [argChars.quote])

instance : DecidablePred KeepsBackslashes :=
  fun _ => inferInstanceAs (Decidable (List.IsChain _ _))

/-- A parameter with its quotes doubled. -/
def doubleQuotes (parameter : WString) : WString :=
  parameter.flatMap fun c => if c = argChars.quote then [argChars.quote, c] else [c]

/-- What the command line has for a parameter. -/
def quoteParameter (parameter : WString) : WString :=
  argChars.quote :: (doubleQuotes parameter ++ [argChars.quote])

/-- What the command line has for the parameters after the first. -/
def followingCmdline (parameters : List WString) : WString :=
  parameters.flatMap fun parameter => argChars.space :: quoteParameter parameter

theorem doubleQuotes_quote (parameter : WString) :
    doubleQuotes (argChars.quote :: parameter) =
      argChars.quote :: argChars.quote :: doubleQuotes parameter := rfl

theorem doubleQuotes_cons {c : UInt16} (hc : c ≠ argChars.quote) (parameter : WString) :
    doubleQuotes (c :: parameter) = c :: doubleQuotes parameter := by
  simp [doubleQuotes, hc]

theorem appendChars_eq (cmdline parameter : WString) :
    appendChars cmdline parameter = cmdline ++ doubleQuotes parameter := by
  induction parameter generalizing cmdline with
  | nil => simp [appendChars, doubleQuotes]
  | cons c parameter ih =>
      unfold appendChars doubleQuotes at ih ⊢
      rw [List.foldl_cons, ih, List.flatMap_cons, ← List.append_assoc]
      split <;> simp

theorem append_foldl (cmdline : WString) (parameters : List WString) :
    (parameters.foldl CmdlineVars.append ⟨cmdline, false⟩).cmdline =
      cmdline ++ followingCmdline parameters := by
  induction parameters generalizing cmdline with
  | nil => simp [followingCmdline]
  | cons parameter parameters ih =>
      rw [List.foldl_cons, CmdlineVars.append, ih]
      simp [followingCmdline, appendChars_eq, quoteParameter]

theorem elevatedCmdline_cons (parameter : WString) (parameters : List WString) :
    elevatedCmdline (parameter :: parameters) =
      quoteParameter parameter ++ followingCmdline parameters := by
  rw [elevatedCmdline, List.foldl_cons, CmdlineVars.append, append_foldl]
  simp [appendChars_eq, quoteParameter]

theorem followingCmdline_cons (parameter : WString) (parameters : List WString) :
    followingCmdline (parameter :: parameters) =
      argChars.space :: elevatedCmdline (parameter :: parameters) := by
  rw [elevatedCmdline_cons, followingCmdline, List.flatMap_cons]
  rfl

/-- Behind a parameter the command line ends, or goes on with a space. -/
theorem eval_followingCmdline (text : WString) (parameters : List WString) :
    argChars.splitter.eval (.inArg .closed text) (followingCmdline parameters) =
      text :: splitCommandLine (elevatedCmdline parameters) := by
  cases parameters with
  | nil => exact argChars.eval_closed_nil text
  | cons parameter parameters =>
      rw [followingCmdline_cons, argChars.eval_closed_blank argChars.isBlank_space]
      rfl

/-! ### One parameter -/

/-- Fewer backslashes than the parameter has are not made up for. -/
theorem eval_lost {k n : Nat} (hlt : k < n) (text parameter tail : WString)
    (args : List WString) :
    argChars.splitter.eval
        (.inArg (.quoted 0)
          (text ++ List.replicate k argChars.backslash ++ [argChars.quote])) tail ≠
      (text ++ List.replicate n argChars.backslash ++ parameter) :: args := by
  obtain ⟨more, args', heval⟩ := argChars.eval_inArg (.quoted 0)
    (text ++ List.replicate k argChars.backslash ++ [argChars.quote]) tail
  rw [heval]
  intro he
  obtain ⟨m, rfl⟩ := Nat.exists_eq_add_of_lt hlt
  have hchar : argChars.quote = argChars.backslash ∧
      more = List.replicate m argChars.backslash ++ parameter := by
    simpa [List.replicate_add, Nat.add_assoc, Nat.add_comm m 1] using (List.cons.inj he).1
  exact argChars.quote_ne_backslash hchar.1

/-- A quote after backslashes is not read back, whether it is taken as a literal
or closes the quoted part. -/
theorem eval_quote_lost {n : Nat} (hn : 0 < n) (text parameter tail : WString)
    (args : List WString)
    (hclosed : ∀ k < n,
      argChars.splitter.eval (.inArg .closed (text ++ List.replicate k argChars.backslash))
        tail ≠ (text ++ List.replicate n argChars.backslash ++ parameter) :: args) :
    argChars.splitter.eval (.inArg (.quoted n) text) (argChars.quote :: tail) ≠
      (text ++ List.replicate n argChars.backslash ++ parameter) :: args := by
  have hlt : n / 2 < n := by omega
  rcases Nat.mod_two_eq_zero_or_one n with heven | hodd
  · rw [argChars.eval_quote_even heven]
    exact hclosed (n / 2) hlt
  · rw [argChars.eval_quote_odd hodd]
    exact eval_lost hlt text parameter tail args

/-- A quote in a parameter. -/
theorem eval_doubled_lost {n : Nat} (hn : 0 < n) (text parameter tail : WString)
    (args : List WString) :
    argChars.splitter.eval (.inArg (.quoted n) text)
        (argChars.quote :: argChars.quote :: tail) ≠
      (text ++ List.replicate n argChars.backslash ++ parameter) :: args := by
  refine eval_quote_lost hn text parameter _ args ?_
  intro k hk
  rw [argChars.eval_doubled]
  exact eval_lost hk text parameter tail args

/-- The quote behind a parameter. -/
theorem eval_closing_lost {n : Nat} (hn : 0 < n) (text : WString)
    (parameters args : List WString) :
    argChars.splitter.eval (.inArg (.quoted n) text)
        (argChars.quote :: followingCmdline parameters) ≠
      (text ++ List.replicate n argChars.backslash ++ []) :: args := by
  refine eval_quote_lost hn text [] _ args ?_
  intro k hk he
  rw [eval_followingCmdline] at he
  have hlen := congrArg List.length (List.cons.inj he).1
  simp only [List.length_append, List.length_replicate, List.length_nil] at hlen
  omega

/-- From a point in a parameter on, where `c` is the character before it: the
parameter is read back exactly if no backslash stands before a quote. -/
theorem eval_doubleQuotes {c : UInt16} {n : Nat} (hc : c = argChars.backslash ↔ 0 < n)
    (text parameter : WString) (parameters args : List WString) :
    argChars.splitter.eval (.inArg (.quoted n) text)
        (doubleQuotes parameter ++ argChars.quote :: followingCmdline parameters) =
      (text ++ List.replicate n argChars.backslash ++ parameter) :: args ↔
    List.IsChain (fun c d => c = argChars.backslash → d ≠ argChars.quote)
        (c :: (parameter ++ [argChars.quote])) ∧
      splitCommandLine (elevatedCmdline parameters) = args := by
  induction parameter generalizing c n text with
  | nil =>
      rw [List.nil_append, List.isChain_cons_cons, hc, show doubleQuotes [] = [] from rfl,
        List.nil_append]
      rcases Nat.eq_zero_or_pos n with rfl | hn
      · rw [argChars.eval_quote_even (Nat.zero_mod 2), eval_followingCmdline]
        simp
      · exact iff_of_false (eval_closing_lost hn text parameters args) (by simp [hn])
  | cons d parameter ih =>
      rw [List.cons_append, List.isChain_cons_cons]
      by_cases hquote : d = argChars.quote
      · subst hquote
        rw [doubleQuotes_quote, List.cons_append, List.cons_append]
        rcases Nat.eq_zero_or_pos n with rfl | hn
        · -- a doubled quote is one quote
          have ih := @ih argChars.quote 0 (by simp [argChars.quote_ne_backslash])
            (text ++ [argChars.quote])
          rw [argChars.eval_quote_even (Nat.zero_mod 2), argChars.eval_doubled]
          simpa [hc] using ih
        · exact iff_of_false (eval_doubled_lost hn text _ _ args) (by simp [hc, hn])
      · rw [doubleQuotes_cons hquote, List.cons_append, and_iff_right fun _ => hquote]
        by_cases hslash : d = argChars.backslash
        · subst hslash
          have ih := @ih argChars.backslash (n + 1) (by simp) text
          rw [argChars.eval_backslash]
          simpa [List.replicate_succ'] using ih
        · have ih := @ih d 0 (by simp [hslash])
            (text ++ List.replicate n argChars.backslash ++ [d])
          rw [argChars.eval_literal hslash hquote]
          simpa using ih

/-! ### All parameters -/

theorem isChain_quote_cons (parameter : WString) :
    List.IsChain (fun c d => c = argChars.backslash → d ≠ argChars.quote)
        (argChars.quote :: (parameter ++ [argChars.quote])) ↔ KeepsBackslashes parameter := by
  have hquote : ∀ d, argChars.quote = argChars.backslash → d ≠ argChars.quote :=
    fun _ he => absurd he argChars.quote_ne_backslash
  cases parameter with
  | nil => simp [KeepsBackslashes, argChars.quote_ne_backslash]
  | cons c parameter =>
      rw [KeepsBackslashes, List.cons_append, List.isChain_cons_cons, and_iff_right (hquote c)]

/-- The first parameter is read back on its own: whatever becomes of the others,
they do not make up for it. -/
theorem splitCommandLine_cons (parameter : WString) (parameters args : List WString) :
    splitCommandLine (elevatedCmdline (parameter :: parameters)) = parameter :: args ↔
      KeepsBackslashes parameter ∧ splitCommandLine (elevatedCmdline parameters) = args := by
  have hopen : splitCommandLine (elevatedCmdline (parameter :: parameters)) =
      argChars.splitter.eval (.inArg (.quoted 0) [])
        (doubleQuotes parameter ++ argChars.quote :: followingCmdline parameters) := by
    rw [splitCommandLine, elevatedCmdline_cons, quoteParameter, List.cons_append,
      List.append_assoc, ArgChars.split, argChars.eval_open]
    rfl
  have hread := @eval_doubleQuotes argChars.quote 0 (by simp [argChars.quote_ne_backslash])
    [] parameter parameters args
  rw [hopen, ← isChain_quote_cons]
  simpa using hread

theorem splitCommandLine_eq_iff (parameters : List WString) :
    splitCommandLine (elevatedCmdline parameters) = parameters ↔
      ∀ parameter ∈ parameters, KeepsBackslashes parameter := by
  induction parameters with
  | nil => exact iff_of_true rfl (by simp)
  | cons parameter parameters ih =>
      rw [splitCommandLine_cons, ih, List.forall_mem_cons]

theorem mem_quoteParameter {c : UInt16} {parameter : WString}
    (h : c ∈ quoteParameter parameter) : c = argChars.quote ∨ c ∈ parameter := by
  simp only [quoteParameter, doubleQuotes, List.mem_cons, List.mem_append, List.mem_flatMap,
    List.not_mem_nil, or_false] at h
  rcases h with h | ⟨d, hd, hc⟩ | h
  · exact .inl h
  · split at hc <;> simp_all
  · exact .inl h

theorem mem_elevatedCmdline {c : UInt16} {parameters : List WString}
    (h : c ∈ elevatedCmdline parameters) :
    c = argChars.quote ∨ c = argChars.space ∨ ∃ parameter ∈ parameters, c ∈ parameter := by
  induction parameters with
  | nil => cases h
  | cons parameter parameters ih =>
      rw [elevatedCmdline_cons, List.mem_append] at h
      rcases h with h | h
      · rcases mem_quoteParameter h with h | h
        · exact .inl h
        · exact .inr (.inr ⟨parameter, by simp, h⟩)
      · cases parameters with
        | nil => cases h
        | cons parameter' parameters =>
            rw [followingCmdline_cons, List.mem_cons] at h
            rcases h with h | h
            · exact .inr (.inl h)
            · rcases ih h with h | h | ⟨p, hp, h⟩
              · exact .inl h
              · exact .inr (.inl h)
              · exact .inr (.inr ⟨p, List.mem_cons_of_mem _ hp, h⟩)

/-- Without a NUL in a parameter, the command line is not cut short. -/
theorem lpParameters_eq {parameters : List WString}
    (h : ∀ parameter ∈ parameters, 0 ∉ parameter) :
    lpParameters parameters = elevatedCmdline parameters := by
  have hzero : ∀ c ∈ elevatedCmdline parameters, c ≠ 0 := by
    intro c hc he
    subst he
    rcases mem_elevatedCmdline hc with h0 | h0 | ⟨parameter, hmem, h0⟩
    · exact absurd h0 (by decide)
    · exact absurd h0 (by decide)
    · exact h parameter hmem h0
  exact List.takeWhile_eq_self_iff.mpr (by simpa using hzero)

/-- **The command line** is split back into its parameters exactly if in none of
them a backslash stands directly before a quote or at the end. -/
theorem splitsBack_iff {parameters : List WString}
    (h : ∀ parameter ∈ parameters, 0 ∉ parameter) :
    SplitsBack parameters ↔ ∀ parameter ∈ parameters, KeepsBackslashes parameter := by
  rw [SplitsBack, lpParameters_eq h]
  exact splitCommandLine_eq_iff parameters

/-- Quotes, blanks, backslashes inside and an empty parameter. -/
def quotedParameters : List WString := [wide "a \"b\"", wide "", wide "C:\\d"]

theorem splitsBack_quoted : SplitsBack quotedParameters :=
  (splitsBack_iff (by decide)).mpr (by decide)

/-- A parameter that ends in a backslash swallows the next one. -/
theorem splitsBack_trailingBackslash :
    splitCommandLine (lpParameters [wide "a\\", wide "b"]) = [wide "a\" b"] ∧
      ¬ SplitsBack [wide "a\\", wide "b"] := by
  have hsplit : splitCommandLine (lpParameters [wide "a\\", wide "b"]) =
      [wide "a\" b"] := by decide
  refine ⟨hsplit, ?_⟩
  intro hback
  rw [SplitsBack, hsplit] at hback
  exact absurd hback (by decide)

/-! ### The elevated process -/

/-- A command is found under its own name. -/
theorem findCommand_first {argv : List WString} {first : WString} {command : Command}
    (h : findCommand argv = some (first, command)) (program : WString) :
    findCommand [program, first] = some (first, command) := by
  unfold findCommand at h
  split at h
  · next name =>
      obtain rfl : first = name := by simpa using List.find?_some h
      exact h
  · cases h

/-- The names of the commands are split back. -/
theorem splitCommandLine_command {argv : List WString} {first : WString} {command : Command}
    (h : findCommand argv = some (first, command)) :
    splitCommandLine (lpParameters [first]) = [first] := by
  have hfind : commands.find? (·.1 == first) = some (first, command) := findCommand_first h []
  have hplain : ∀ c ∈ commands, 0 ∉ c.1 ∧ KeepsBackslashes c.1 := by decide
  obtain ⟨hzero, hkeeps⟩ := hplain _ (List.mem_of_find?_eq_some hfind)
  rw [lpParameters_eq (by simpa using hzero), splitCommandLine_eq_iff]
  simpa using hkeeps

/-- **The process that `run_elevated` starts** for a command of `wmain` runs that
command. -/
theorem wmain_elevated {argv : List WString} {first : WString} {command : Command}
    (h : findCommand argv = some (first, command)) {system : MainSystem}
    (helevated : system.isElevated = .ok true) (program : WString) :
    wmain system (program :: splitCommandLine (lpParameters [first])) =
      exitCode (system.call command.function) := by
  rw [splitCommandLine_command h, wmain, findCommand_first h]
  cases he : command.elevate <;> simp [he, helevated, bind, Except.bind]

end QmkHidIdentify
