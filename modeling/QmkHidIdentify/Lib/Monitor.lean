import Mathlib.Data.Option.Basic

/-!
# Monitors

A monitor follows a history of events, latest first, and refuses the events that
its state does not allow. That it accepts a history is a safety property: it
holds of every earlier history, and histories that lead back to the start may be
put one after another.
-/

/-- A deterministic automaton that may refuse an event. -/
structure Monitor (σ ε : Type*) where
  start : σ
  step : σ → ε → Option σ

namespace Monitor

variable {σ ε : Type*}

/-- The state after a history, latest event first; `none` if one was refused. -/
def state (m : Monitor σ ε) : List ε → Option σ
  | [] => some m.start
  | e :: past => (m.state past).bind (m.step · e)

variable {m : Monitor σ ε}

theorem state_cons {past : List ε} {s : σ} (h : m.state past = some s) (e : ε) :
    m.state (e :: past) = m.step s e := by
  rw [state, h, Option.bind_some]

/-- A history goes on from one that led back to the start. -/
theorem state_append {past : List ε} (h : m.state past = some m.start) (es : List ε) :
    m.state (es ++ past) = m.state es := by
  induction es with
  | nil => exact h
  | cons e es ih => rw [List.cons_append, state, ih, state]

/-- What is accepted was accepted before. -/
theorem state_of_append {es past : List ε} {s : σ} (h : m.state (es ++ past) = some s) :
    ∃ s₁, m.state past = some s₁ := by
  induction es generalizing s with
  | nil => exact ⟨s, h⟩
  | cons e es ih =>
      obtain ⟨s₁, hs₁, -⟩ := Option.bind_eq_some_iff.mp (show _ = some s from h)
      exact ih hs₁

/-- **Safety.** What is accepted was accepted at every earlier moment, and every
event in it was allowed when it came. -/
theorem allowed {es past : List ε} {e : ε} {s : σ} (h : m.state (es ++ e :: past) = some s) :
    ∃ s₁ s₂, m.state past = some s₁ ∧ m.step s₁ e = some s₂ := by
  obtain ⟨s₂, hs₂⟩ := state_of_append h
  obtain ⟨s₁, hpast, hstep⟩ := Option.bind_eq_some_iff.mp (show _ = some s₂ from hs₂)
  exact ⟨s₁, s₂, hpast, hstep⟩

end Monitor
