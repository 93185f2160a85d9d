import Mathlib.Logic.Relation

/-!
# Transition systems

States reachable from a set of initial states by steps of a relation, and the
rule by which an invariant of single steps holds of every reachable state. The
rule hands the step the reachability of its source, so invariants proved before
can be used to prove the next one.
-/

/-- Initial states and steps. -/
structure TransitionSystem (σ : Type*) where
  init : σ → Prop
  step : σ → σ → Prop

namespace TransitionSystem

variable {σ : Type*} {T U : TransitionSystem σ} {s s' : σ}

/-- A state some sequence of steps leads to. -/
def Reachable (T : TransitionSystem σ) (s : σ) : Prop :=
  ∃ s₀, T.init s₀ ∧ Relation.ReflTransGen T.step s₀ s

theorem Reachable.of_init (h : T.init s) : T.Reachable s := ⟨s, h, .refl⟩

theorem Reachable.step (h : T.Reachable s) (hs : T.step s s') : T.Reachable s' := by
  obtain ⟨s₀, hinit, hsteps⟩ := h
  exact ⟨s₀, hinit, hsteps.tail hs⟩

/-- **Invariant rule.** -/
theorem Reachable.invariant {I : σ → Prop} (h : T.Reachable s) (hinit : ∀ s, T.init s → I s)
    (hstep : ∀ s s', T.Reachable s → I s → T.step s s' → I s') : I s := by
  obtain ⟨s₀, hs₀, hsteps⟩ := h
  induction hsteps with
  | refl => exact hinit s₀ hs₀
  | tail hsteps hs ih => exact hstep _ _ ⟨s₀, hs₀, hsteps⟩ ih hs

/-- **Simulation rule.** Steps that are steps of another system, or are not seen
there, reach only what that system reaches. -/
theorem Reachable.simulated {τ : Type*} {V : TransitionSystem τ} {f : σ → τ} (h : T.Reachable s)
    (hinit : ∀ s, T.init s → V.init (f s))
    (hstep : ∀ s s', T.step s s' → f s' = f s ∨ V.step (f s) (f s')) : V.Reachable (f s) := by
  refine h.invariant (I := fun s => V.Reachable (f s)) (fun s hs => .of_init (hinit s hs)) ?_
  intro s s' _ hreach hs
  rcases hstep s s' hs with hsame | hseen
  · exact hsame ▸ hreach
  · exact hreach.step hseen

/-- The runs whose steps all meet `P`. -/
def restrict (T : TransitionSystem σ) (P : σ → σ → Prop) : TransitionSystem σ where
  init := T.init
  step s s' := T.step s s' ∧ P s s'

end TransitionSystem
