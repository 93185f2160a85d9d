import Mathlib.Data.List.Induction

/-!
# Transducers

A deterministic machine that reads a list and writes a list: every input symbol
moves the state and may emit output, and the state reached at the end may emit
once more. The lemmas say how a run splits at an append, and how a relation that
single steps keep becomes one between the whole input and the state it leads to.
-/

/-- A deterministic machine with output per step and at the end. -/
structure Transducer (σ α β : Type*) where
  /-- the next state -/
  step : σ → α → σ
  /-- what one step writes -/
  out : σ → α → List β
  /-- what the machine writes at the end of its input -/
  final : σ → List β

namespace Transducer

variable {σ α β : Type*} (m : Transducer σ α β)

/-- The state after reading a list. -/
def state (s : σ) (xs : List α) : σ := xs.foldl m.step s

/-- What the steps over a list write, without the end of input. -/
def run (s : σ) : List α → List β
  | [] => []
  | x :: xs => m.out s x ++ run (m.step s x) xs

/-- Everything written over a whole input. -/
def eval (s : σ) (xs : List α) : List β := m.run s xs ++ m.final (m.state s xs)

@[simp] theorem state_nil (s : σ) : m.state s [] = s := rfl

@[simp] theorem state_cons (s : σ) (x : α) (xs : List α) :
    m.state s (x :: xs) = m.state (m.step s x) xs := rfl

@[simp] theorem run_nil (s : σ) : m.run s [] = [] := rfl

theorem run_cons (s : σ) (x : α) (xs : List α) :
    m.run s (x :: xs) = m.out s x ++ m.run (m.step s x) xs := rfl

@[simp] theorem eval_nil (s : σ) : m.eval s [] = m.final s := by
  simp [eval]

theorem eval_cons (s : σ) (x : α) (xs : List α) :
    m.eval s (x :: xs) = m.out s x ++ m.eval (m.step s x) xs := by
  simp [eval, run_cons]

theorem state_append (s : σ) (xs ys : List α) :
    m.state s (xs ++ ys) = m.state (m.state s xs) ys := by
  simp [state]

theorem run_append (s : σ) (xs ys : List α) :
    m.run s (xs ++ ys) = m.run s xs ++ m.run (m.state s xs) ys := by
  induction xs generalizing s with
  | nil => rfl
  | cons x xs ih => simp [run_cons, ih]

theorem eval_append (s : σ) (xs ys : List α) :
    m.eval s (xs ++ ys) = m.run s xs ++ m.eval (m.state s xs) ys := by
  simp [eval, run_append, state_append]

/-- **History rule.** A relation between what has been read and the state holds
after every input if each step keeps it. -/
theorem state_history {m : Transducer σ α β} {I : List α → σ → Prop} {s : σ} (hs : I [] s)
    (hstep : ∀ xs x s', I xs s' → I (xs ++ [x]) (m.step s' x)) (xs : List α) :
    I xs (m.state s xs) := by
  induction xs using List.reverseRecOn with
  | nil => exact hs
  | append_singleton xs x ih =>
      rw [state_append]
      exact hstep xs x _ ih

end Transducer
