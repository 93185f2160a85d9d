import Mathlib.Data.List.Nodup
import QmkHidIdentify.Lib.Transducer

/-!
# Command-line arguments

The documented rules by which the C runtime of Windows splits a command line
into arguments, as a transducer that writes an argument where it ends:

* Arguments are delimited by spaces and tabs outside quotes.
* A quote opens or closes a quoted part of an argument. Inside quotes a doubled
  quote is one literal quote.
* `2n` backslashes before a quote give `n` backslashes, and the quote delimits.
  `2n + 1` give `n` backslashes and a literal quote. Other backslashes are
  literal.

What a splitter has read of an argument stays at the front of the argument it
writes (`eval_inArg`), so a wrong character is never taken back.
-/

/-- The characters that the rules know. -/
structure ArgChars (α : Type*) where
  quote : α
  backslash : α
  space : α
  tab : α
  distinct : [quote, backslash, space, tab].Nodup

/-- How the next character of an argument is read. -/
inductive ArgMode
  /-- outside quotes, after so many backslashes -/
  | unquoted (slashes : Nat)
  /-- inside quotes, after so many backslashes -/
  | quoted (slashes : Nat)
  /-- directly behind the quote that closed a quoted part -/
  | closed
  deriving DecidableEq, Repr

namespace ArgMode

/-- The backslashes that have been read and may still belong to a quote. -/
def slashes : ArgMode → Nat
  | unquoted n | quoted n => n
  | closed => 0

def isQuoted : ArgMode → Bool
  | quoted _ => true
  | _ => false

/-- After a backslash. -/
def slash : ArgMode → ArgMode
  | unquoted n => unquoted (n + 1)
  | quoted n => quoted (n + 1)
  | closed => unquoted 1

/-- After a literal character. -/
def literal : ArgMode → ArgMode
  | quoted _ => quoted 0
  | _ => unquoted 0

/-- After a quote that delimits. -/
def delimit : ArgMode → ArgMode
  | quoted _ => closed
  | _ => quoted 0

end ArgMode

/-- Between arguments, or in one of which this text has been read. -/
inductive ArgState (α : Type*)
  | between
  | inArg (mode : ArgMode) (text : List α)
  deriving DecidableEq, Repr

namespace ArgChars

variable {α : Type*} [DecidableEq α] (C : ArgChars α)

def isBlank (c : α) : Bool := c = C.space ∨ c = C.tab

/-- The text of an argument, if the backslashes before the next character are
literal. -/
def held (mode : ArgMode) (text : List α) : List α :=
  text ++ List.replicate mode.slashes C.backslash

/-- A quote in an argument. -/
def stepQuote (mode : ArgMode) (text : List α) : ArgState α :=
  let text' := text ++ List.replicate (mode.slashes / 2) C.backslash
  if mode.slashes % 2 = 1 then .inArg mode.literal (text' ++ [C.quote])
  else if mode = .closed then .inArg (.quoted 0) (text' ++ [C.quote])
  else .inArg mode.delimit text'

/-- A character in an argument. -/
def stepArg (mode : ArgMode) (text : List α) (c : α) : ArgState α :=
  if c = C.backslash then .inArg mode.slash text
  else if c = C.quote then C.stepQuote mode text
  else if C.isBlank c ∧ mode.isQuoted = false then .between
  else .inArg mode.literal (C.held mode text ++ [c])

/-- The rules. -/
def splitter : Transducer (ArgState α) α (List α) where
  step
    | .between, c => if C.isBlank c then .between else C.stepArg (.unquoted 0) [] c
    | .inArg mode text, c => C.stepArg mode text c
  out
    | .between, _ => []
    | .inArg mode text, c =>
        if C.isBlank c ∧ mode.isQuoted = false then [C.held mode text] else []
  final
    | .between => []
    | .inArg mode text => [C.held mode text]

/-- The arguments of a command line. -/
def split (cmdline : List α) : List (List α) := C.splitter.eval .between cmdline

/-! ### The characters -/

omit [DecidableEq α] in
theorem chars_ne : (C.quote ≠ C.backslash ∧ C.quote ≠ C.space ∧ C.quote ≠ C.tab) ∧
    C.backslash ≠ C.space ∧ C.backslash ≠ C.tab := by
  have h := C.distinct
  simp only [List.nodup_cons, List.mem_cons, not_or] at h
  exact ⟨⟨h.1.1, h.1.2.1, h.1.2.2.1⟩, h.2.1.1, h.2.1.2.1⟩

omit [DecidableEq α] in
theorem quote_ne_backslash : C.quote ≠ C.backslash := C.chars_ne.1.1

theorem isBlank_quote : C.isBlank C.quote = false := by simp [isBlank, C.chars_ne.1.2]

theorem isBlank_backslash : C.isBlank C.backslash = false := by simp [isBlank, C.chars_ne.2]

theorem isBlank_space : C.isBlank C.space = true := by simp [isBlank]

/-! ### One character of an argument -/

theorem stepArg_backslash (mode : ArgMode) (text : List α) :
    C.stepArg mode text C.backslash = .inArg mode.slash text := if_pos rfl

theorem stepArg_quote (mode : ArgMode) (text : List α) :
    C.stepArg mode text C.quote = C.stepQuote mode text := by
  rw [stepArg, if_neg C.quote_ne_backslash, if_pos rfl]

theorem out_inArg {mode : ArgMode} {c : α} (h : C.isBlank c = false ∨ mode.isQuoted = true)
    (text : List α) : C.splitter.out (.inArg mode text) c = [] := by
  rcases h with h | h <;> simp [splitter, h]

omit [DecidableEq α] in
theorem stepQuote_inArg (mode : ArgMode) (text : List α) :
    ∃ mode' more, C.stepQuote mode text = .inArg mode' (text ++ more) := by
  unfold stepQuote
  dsimp only
  split_ifs
  · exact ⟨_, _, by rw [List.append_assoc]⟩
  · exact ⟨_, _, by rw [List.append_assoc]⟩
  · exact ⟨_, _, rfl⟩

/-- A character adds to the text of an argument, or ends it. -/
theorem stepArg_cases (mode : ArgMode) (text : List α) (c : α) :
    (∃ mode' more, C.stepArg mode text c = .inArg mode' (text ++ more) ∧
        C.splitter.out (.inArg mode text) c = []) ∨
      (C.stepArg mode text c = .between ∧
        C.splitter.out (.inArg mode text) c = [C.held mode text]) := by
  by_cases hslash : c = C.backslash
  · subst hslash
    rw [stepArg_backslash, out_inArg C (.inl C.isBlank_backslash)]
    exact .inl ⟨mode.slash, [], by rw [List.append_nil], rfl⟩
  by_cases hquote : c = C.quote
  · subst hquote
    rw [stepArg_quote, out_inArg C (.inl C.isBlank_quote)]
    obtain ⟨mode', more, hstep⟩ := C.stepQuote_inArg mode text
    exact .inl ⟨mode', more, hstep, rfl⟩
  · rw [stepArg, if_neg hslash, if_neg hquote]
    by_cases hend : C.isBlank c ∧ mode.isQuoted = false
    · exact .inr ⟨if_pos hend, if_pos hend⟩
    · refine .inl ⟨mode.literal, List.replicate mode.slashes C.backslash ++ [c], ?_, if_neg hend⟩
      rw [if_neg hend, held, List.append_assoc]

/-- What has been read of an argument is what it starts with. -/
theorem eval_inArg (mode : ArgMode) (text cmdline : List α) :
    ∃ more args, C.splitter.eval (.inArg mode text) cmdline = (text ++ more) :: args := by
  induction cmdline generalizing mode text with
  | nil => exact ⟨_, [], by rw [Transducer.eval_nil]; rfl⟩
  | cons c cmdline ih =>
      rw [Transducer.eval_cons, show C.splitter.step (.inArg mode text) c =
        C.stepArg mode text c from rfl]
      rcases C.stepArg_cases mode text c with ⟨mode', more, hstep, hout⟩ | ⟨hstep, hout⟩
      · obtain ⟨more', args, hargs⟩ := ih mode' (text ++ more)
        rw [hstep, hout, hargs]
        exact ⟨more ++ more', args, by rw [List.nil_append, List.append_assoc]⟩
      · rw [hstep, hout]
        exact ⟨_, _, rfl⟩

/-! ### A quoted part -/

/-- A quote between arguments opens one. -/
theorem eval_open (cmdline : List α) :
    C.splitter.eval .between (C.quote :: cmdline) =
      C.splitter.eval (.inArg (.quoted 0) []) cmdline := by
  rw [Transducer.eval_cons]
  simp [splitter, isBlank_quote, stepArg_quote, stepQuote, ArgMode.slashes, ArgMode.delimit]

theorem eval_backslash (n : Nat) (text cmdline : List α) :
    C.splitter.eval (.inArg (.quoted n) text) (C.backslash :: cmdline) =
      C.splitter.eval (.inArg (.quoted (n + 1)) text) cmdline := by
  rw [Transducer.eval_cons, out_inArg C (.inr rfl)]
  simp [splitter, stepArg_backslash, ArgMode.slash]

/-- Backslashes before another character are literal. -/
theorem eval_literal {c : α} (hslash : c ≠ C.backslash) (hquote : c ≠ C.quote) (n : Nat)
    (text cmdline : List α) :
    C.splitter.eval (.inArg (.quoted n) text) (c :: cmdline) =
      C.splitter.eval (.inArg (.quoted 0) (text ++ List.replicate n C.backslash ++ [c]))
        cmdline := by
  rw [Transducer.eval_cons, out_inArg C (.inr rfl)]
  simp [splitter, stepArg, hslash, hquote, ArgMode.isQuoted, ArgMode.literal, held,
    ArgMode.slashes]

/-- An odd number of backslashes makes a quote literal. -/
theorem eval_quote_odd {n : Nat} (hn : n % 2 = 1) (text cmdline : List α) :
    C.splitter.eval (.inArg (.quoted n) text) (C.quote :: cmdline) =
      C.splitter.eval
        (.inArg (.quoted 0) (text ++ List.replicate (n / 2) C.backslash ++ [C.quote]))
        cmdline := by
  rw [Transducer.eval_cons, out_inArg C (.inr rfl)]
  simp [splitter, stepArg_quote, stepQuote, ArgMode.slashes, hn, ArgMode.literal]

/-- After an even number of backslashes a quote closes the quoted part. -/
theorem eval_quote_even {n : Nat} (hn : n % 2 = 0) (text cmdline : List α) :
    C.splitter.eval (.inArg (.quoted n) text) (C.quote :: cmdline) =
      C.splitter.eval (.inArg .closed (text ++ List.replicate (n / 2) C.backslash)) cmdline := by
  rw [Transducer.eval_cons, out_inArg C (.inr rfl)]
  simp [splitter, stepArg_quote, stepQuote, ArgMode.slashes, hn, ArgMode.delimit]

/-- A second quote directly behind it takes that back: a doubled quote is one
literal quote. -/
theorem eval_doubled (text cmdline : List α) :
    C.splitter.eval (.inArg .closed text) (C.quote :: cmdline) =
      C.splitter.eval (.inArg (.quoted 0) (text ++ [C.quote])) cmdline := by
  rw [Transducer.eval_cons, out_inArg C (.inl C.isBlank_quote)]
  simp [splitter, stepArg_quote, stepQuote, ArgMode.slashes]

/-- A blank behind a quoted part ends the argument. -/
theorem eval_closed_blank {c : α} (hc : C.isBlank c = true) (text cmdline : List α) :
    C.splitter.eval (.inArg .closed text) (c :: cmdline) =
      text :: C.splitter.eval .between cmdline := by
  have hslash : c ≠ C.backslash := fun he => by simp [he, isBlank_backslash] at hc
  have hquote : c ≠ C.quote := fun he => by simp [he, isBlank_quote] at hc
  rw [Transducer.eval_cons]
  simp [splitter, stepArg, hslash, hquote, hc, ArgMode.isQuoted, held, ArgMode.slashes]

theorem eval_closed_nil (text : List α) : C.splitter.eval (.inArg .closed text) [] = [text] := by
  simp [splitter, held, ArgMode.slashes]

end ArgChars
