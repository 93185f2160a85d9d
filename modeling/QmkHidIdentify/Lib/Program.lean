import QmkHidIdentify.Lib.Transition

/-!
# Programs that make calls

A program as the tree of the calls it makes, with a branch for each answer. What
the calls do is an `Environment`: which answers there are in a state, what a call
requires of the state it is made in, and what others do between two calls.

`Environment.wp` is the weakest precondition of a program, by recursion over the
tree. `wp_sound` says what it means for the runs of the program among the steps
of the others: every call is made where what it requires holds, and the program
ends where its postcondition holds. `wp_progress` says that it can come to its end,
and `wp_stopped` what it leaves if it is stopped before that. The rules are those
of sequences, of exceptions and of cleaning up. `Environment.observing` records
what the calls of a run have answered, for what is not seen in its last state.
-/

/-- A program that makes calls `C` with answers `A`. -/
inductive Program (C : Type) (A : C → Type) (α : Type)
  | done (a : α)
  | call (c : C) (next : A c → Program C A α)
  /-- a run that is not followed further, where a loop has used up its fuel -/
  | cut

namespace Program

variable {C : Type} {A : C → Type} {α β γ ε : Type}

protected def bind : Program C A α → (α → Program C A β) → Program C A β
  | done a, f => f a
  | call c next, f => call c fun r => (next r).bind f
  | cut, _ => cut

instance : Monad (Program C A) where
  pure := done
  bind := Program.bind

/-- One call. -/
def perform (c : C) : Program C A (A c) := call c done

/-- A program that may end with an exception. -/
abbrev Throwing (C : Type) (A : C → Type) (ε α : Type) := ExceptT ε (Program C A) α

/-- One call, in a program that may end with an exception. -/
def request (c : C) : Throwing C A ε (A c) := ExceptT.lift (perform c)

/-- Run a program and then make a call, however it ends. -/
def cleanup (x : Throwing C A ε α) (c : C) : Throwing C A ε α :=
  ExceptT.mk (Program.bind x.run fun r => call c fun _ => done r)

/-- No run of the program is cut. -/
def Uncut : Program C A α → Prop
  | done _ => True
  | call _ next => ∀ r, (next r).Uncut
  | cut => False

theorem Uncut.bind {p : Program C A α} {f : α → Program C A β} (h : p.Uncut)
    (hf : ∀ a, (f a).Uncut) : (p.bind f).Uncut := by
  induction p with
  | done a => exact hf a
  | call c next ih => exact fun r => ih r (h r)
  | cut => exact h

theorem uncut_request {c : C} {f : A c → Throwing C A ε α} (h : ∀ r, Uncut (f r).run) :
    Uncut (request c >>= f).run := h

theorem Uncut.seq {x : Throwing C A ε α} {f : α → Throwing C A ε β} (h : Uncut x.run)
    (hf : ∀ a, Uncut (f a).run) : Uncut (x >>= f).run := by
  refine h.bind ?_
  intro r
  cases r with
  | ok a => exact hf a
  | error e => trivial

theorem Uncut.cleanup {x : Throwing C A ε α} {c : C} (h : Uncut x.run) :
    Uncut (cleanup x c).run :=
  h.bind fun _ _ => trivial

/-! ### Programs that are stopped -/

section Refuse

variable (refuse : (c : C) → A c)

/-- How a program ends if its calls are refused from now on. -/
def refused : Program C A α → Option α
  | done a => some a
  | call c next => (next (refuse c)).refused
  | cut => none

/-- The second program is the first one, but where that is cut it goes on, and can
still come to an end. -/
def Outlasted : Program C A α → Program C A α → Prop
  | done a, q => q = done a
  | call c next, q => ∃ next', q = call c next' ∧ ∀ r, (next r).Outlasted (next' r)
  | cut, q => (q.refused refuse).isSome = true

variable {refuse}

theorem refused_bind (p : Program C A α) (f : α → Program C A β) :
    (p.bind f).refused refuse = (p.refused refuse).bind fun a => (f a).refused refuse := by
  induction p with
  | done a => rfl
  | call c next ih => exact ih (refuse c)
  | cut => rfl

theorem Outlasted.refused {p q : Program C A α} (h : p.Outlasted refuse q) :
    (q.refused refuse).isSome = true := by
  induction p generalizing q with
  | done a =>
      subst h
      rfl
  | call c next ih =>
      obtain ⟨next', rfl, hnext⟩ := h
      show ((next' (refuse c)).refused refuse).isSome = true
      exact ih (refuse c) (hnext (refuse c))
  | cut => exact h

theorem Uncut.outlasted {p : Program C A α} (h : p.Uncut) : p.Outlasted refuse p := by
  induction p with
  | done a => rfl
  | call c next ih => exact ⟨next, rfl, fun r => ih r (h r)⟩
  | cut => exact h.elim

theorem Outlasted.bind {p q : Program C A α} {f g : α → Program C A β}
    (h : p.Outlasted refuse q) (hf : ∀ a, (f a).Outlasted refuse (g a)) :
    (p.bind f).Outlasted refuse (q.bind g) := by
  induction p generalizing q with
  | done a =>
      subst h
      exact hf a
  | call c next ih =>
      obtain ⟨next', rfl, hnext⟩ := h
      exact ⟨fun r => (next' r).bind g, rfl, fun r => ih r (hnext r)⟩
  | cut =>
      show ((q.bind g).refused refuse).isSome = true
      obtain ⟨a, ha⟩ := Option.isSome_iff_exists.mp h.refused
      rw [refused_bind, ha]
      exact (hf a).refused

theorem outlasted_request {c : C} {f g : A c → Throwing C A ε α}
    (h : ∀ r, (f r).run.Outlasted refuse (g r).run) :
    (request c >>= f).run.Outlasted refuse (request c >>= g).run := ⟨fun r => (g r).run, rfl, h⟩

theorem Outlasted.seq {x y : Throwing C A ε α} {f g : α → Throwing C A ε β}
    (h : x.run.Outlasted refuse y.run) (hf : ∀ a, (f a).run.Outlasted refuse (g a).run) :
    (x >>= f).run.Outlasted refuse (y >>= g).run := by
  refine h.bind ?_
  intro r
  cases r with
  | ok a => exact hf a
  | error e => rfl

theorem Outlasted.cleanup {x y : Throwing C A ε α} {c : C} (h : x.run.Outlasted refuse y.run) :
    (cleanup x c).run.Outlasted refuse (cleanup y c).run :=
  h.bind fun _ => ⟨_, rfl, fun _ => rfl⟩

end Refuse

end Program

/-- What the calls of a program do in states of type `σ`. -/
structure Environment (C : Type) (A : C → Type) (σ : Type) where
  /-- something that others do -/
  other : σ → σ → Prop
  /-- what a call requires of the state it is made in -/
  requires : C → σ → Prop
  /-- an answer of a call, and the state after it -/
  answers : (c : C) → σ → A c → σ → Prop

namespace Environment

open Program Relation

variable {C : Type} {A : C → Type} {α β ε σ : Type} (E : Environment C A σ)

/-- What must hold for a program to make its calls where they are allowed, and to
end in `Q`. -/
def wp : Program C A α → (α → σ → Prop) → σ → Prop
  | .done a, Q, s => Q a s
  | .call c next, Q, s => ∀ s₁, ReflTransGen E.other s s₁ →
      E.requires c s₁ ∧ ∀ r s₂, E.answers c s₁ r s₂ → wp (next r) Q s₂
  | .cut, _, _ => True

/-! ### The rules -/

variable {E} {Q R : α → σ → Prop} {s s' : σ}

theorem wp_mono {p : Program C A α} (hpost : ∀ a s, Q a s → R a s) (h : E.wp p Q s) :
    E.wp p R s := by
  induction p generalizing s with
  | done a => exact hpost a s h
  | call c next ih =>
      intro s₁ hothers
      obtain ⟨hrequires, hanswers⟩ := h s₁ hothers
      exact ⟨hrequires, fun r s₂ hanswer => ih r (hanswers r s₂ hanswer)⟩
  | cut => trivial

theorem wp_bind (p : Program C A α) (f : α → Program C A β) (Q : β → σ → Prop) :
    E.wp (p.bind f) Q s ↔ E.wp p (fun a => E.wp (f a) Q) s := by
  induction p generalizing s with
  | done a => rfl
  | call c next ih => simp only [Program.bind, wp, ih]
  | cut => rfl

/-- Nobody else does anything. -/
def Alone (E : Environment C A σ) : Prop := ∀ s s', ¬ E.other s s'

theorem Alone.same_iff (halone : E.Alone) : ReflTransGen E.other s s' ↔ s' = s := by
  rw [ReflTransGen.cases_head_iff]
  simp [halone s, eq_comm]

theorem wp_call (halone : E.Alone) (c : C) (next : A c → Program C A α) (Q : α → σ → Prop) :
    E.wp (.call c next) Q s ↔
      E.requires c s ∧ ∀ r s', E.answers c s r s' → E.wp (next r) Q s' := by
  simp [wp, halone.same_iff]

/-! ### Exceptions -/

/-- A function that is called in a state makes its calls where they are allowed,
and ends so, with a value or an exception. -/
def Ensures (E : Environment C A σ) (s : σ) (x : Throwing C A ε α)
    (Q : Except ε α → σ → Prop) : Prop := E.wp x.run Q s

section Ensures

variable {x : Throwing C A ε α} {Q R : Except ε α → σ → Prop}

theorem Ensures.mono (h : E.Ensures s x Q) (hpost : ∀ r s, Q r s → R r s) : E.Ensures s x R :=
  wp_mono hpost h

theorem ensures_throw {e : ε} : E.Ensures s (throw e : Throwing C A ε α) Q ↔ Q (.error e) s :=
  Iff.rfl

/-- One function after another. -/
theorem Ensures.seq {f : α → Throwing C A ε β} {Q' : Except ε β → σ → Prop}
    (h : E.Ensures s x Q) (hok : ∀ a s', Q (.ok a) s' → E.Ensures s' (f a) Q')
    (herror : ∀ e s', Q (.error e) s' → Q' (.error e) s') : E.Ensures s (x >>= f) Q' := by
  refine (wp_bind x.run _ Q').mpr (wp_mono ?_ h)
  intro r s' hr
  cases r with
  | ok a => exact hok a s' hr
  | error e => exact herror e s' hr

/-- A call and what follows it, with a fact that the others keep. -/
theorem ensures_call_stable {I : σ → Prop} (hstable : ∀ s s', E.other s s' → I s → I s') (h : I s)
    {c : C} {f : A c → Throwing C A ε α} (hrequires : ∀ s₁, I s₁ → E.requires c s₁)
    (hanswers : ∀ s₁ r s', I s₁ → E.answers c s₁ r s' → E.Ensures s' (f r) Q) :
    E.Ensures s (request c >>= f) Q := by
  intro s₁ hothers
  have hI : I s₁ := by
    induction hothers with
    | refl => exact h
    | tail _ hother ih => exact hstable _ _ hother ih
  exact ⟨hrequires s₁ hI, fun r s' hanswer => hanswers s₁ r s' hI hanswer⟩

/-- A call and what follows it, where nobody else does anything. -/
theorem ensures_call (halone : E.Alone) {c : C} {f : A c → Throwing C A ε α}
    (hrequires : E.requires c s)
    (hanswers : ∀ r s', E.answers c s r s' → E.Ensures s' (f r) Q) :
    E.Ensures s (request c >>= f) Q :=
  (wp_call halone c _ _).mpr ⟨hrequires, hanswers⟩

/-- Cleaning up after a function by a call that requires nothing. -/
theorem ensures_cleanup_any {c : C} (hrequires : ∀ s, E.requires c s)
    (h : E.Ensures s x fun _ _ => True) : E.Ensures s (cleanup x c) fun _ _ => True := by
  refine (wp_bind x.run _ _).mpr (wp_mono ?_ h)
  intro r s' _ s₁ _
  exact ⟨hrequires s₁, fun _ _ _ => trivial⟩

theorem ensures_cleanup (halone : E.Alone) {c : C}
    (h : E.Ensures s x fun r s' =>
      E.requires c s' ∧ ∀ a s'', E.answers c s' a s'' → Q r s'') :
    E.Ensures s (cleanup x c) Q := by
  refine (wp_bind x.run _ Q).mpr (wp_mono ?_ h)
  intro r s' hclose
  exact (wp_call halone c _ _).mpr hclose

/-- Cleaning up by a call that relies on a fact that the others keep. -/
theorem ensures_cleanup_stable {I : Except ε α → σ → Prop}
    (hstable : ∀ r s s', E.other s s' → I r s → I r s') {c : C} (h : E.Ensures s x I)
    (hrequires : ∀ r s', I r s' → E.requires c s')
    (hanswers : ∀ r s' a s'', I r s' → E.answers c s' a s'' → Q r s'') :
    E.Ensures s (cleanup x c) Q := by
  refine (wp_bind x.run _ Q).mpr (wp_mono ?_ h)
  intro r s' hI s₁ hothers
  have hI₁ : I r s₁ := by
    induction hothers with
    | refl => exact hI
    | tail _ hother ih => exact hstable r _ _ hother ih
  exact ⟨hrequires r s₁ hI₁, fun a s'' hanswer => hanswers r s₁ a s'' hI₁ hanswer⟩

end Ensures

/-! ### Observing -/

/-- The environment with a value that records what the calls have answered. -/
def observing {ο : Type} (E : Environment C A σ) (observe : (c : C) → A c → ο → ο) :
    Environment C A (σ × ο) where
  other x x' := E.other x.1 x'.1 ∧ x'.2 = x.2
  requires c x := E.requires c x.1
  answers c x r x' := E.answers c x.1 r x'.1 ∧ x'.2 = observe c r x.2

section Observing

variable {ο : Type} {observe : (c : C) → A c → ο → ο} {o : ο}

theorem observing_alone (halone : E.Alone) : (E.observing observe).Alone :=
  fun x x' hother => halone x.1 x'.1 hother.1

theorem others_observing_iff {x : σ × ο} :
    ReflTransGen (E.observing observe).other (s, o) x ↔
      ReflTransGen E.other s x.1 ∧ x.2 = o := by
  constructor
  · intro hothers
    induction hothers with
    | refl => exact ⟨.refl, rfl⟩
    | tail _ hother ih => exact ⟨ih.1.tail hother.1, hother.2.trans ih.2⟩
  · obtain ⟨s₁, o₁⟩ := x
    intro h
    obtain ⟨hothers, rfl⟩ := h
    exact ReflTransGen.lift (fun s => (s, o₁)) (fun _ _ hother => ⟨hother, rfl⟩) _ _ hothers

/-- Observing makes no difference to the program. -/
theorem wp_observing_iff (p : Program C A α) (Q : α → σ → Prop) :
    (E.observing observe).wp p (fun a x => Q a x.1) (s, o) ↔ E.wp p Q s := by
  induction p generalizing s o with
  | done a => rfl
  | call c next ih =>
      constructor
      · intro h s₁ hothers
        obtain ⟨hrequires, hanswers⟩ := h (s₁, o) (others_observing_iff.mpr ⟨hothers, rfl⟩)
        refine ⟨hrequires, ?_⟩
        intro r s₂ hanswer
        exact (ih r).mp (hanswers r (s₂, observe c r o) ⟨hanswer, rfl⟩)
      · intro h x hothers
        obtain ⟨hrequires, hanswers⟩ := h x.1 (others_observing_iff.mp hothers).1
        refine ⟨hrequires, ?_⟩
        intro r x' hanswer
        exact (ih r).mpr (hanswers r x'.1 hanswer.1)
  | cut => rfl

theorem ensures_observing_iff {x : Throwing C A ε α} {Q : Except ε α → σ → Prop} :
    (E.observing observe).Ensures (s, o) x (fun r x => Q r x.1) ↔ E.Ensures s x Q :=
  wp_observing_iff x.run Q

/-- What is known of an observed function, without what was observed. -/
theorem Ensures.unobserved {x : Throwing C A ε α} {Q : Except ε α → σ × ο → Prop}
    (h : (E.observing observe).Ensures (s, o) x Q) :
    E.Ensures s x fun r s' => ∃ o', Q r (s', o') :=
  ensures_observing_iff.mp (h.mono fun _ x hQ => ⟨x.2, hQ⟩)

/-- A call that is observed, and what follows it. -/
theorem ensures_call_observing (halone : E.Alone) {c : C} {f : A c → Throwing C A ε α}
    {Q : Except ε α → σ × ο → Prop} (hrequires : E.requires c s)
    (hanswers : ∀ r s', E.answers c s r s' →
      (E.observing observe).Ensures (s', observe c r o) (f r) Q) :
    (E.observing observe).Ensures (s, o) (request c >>= f) Q := by
  refine ensures_call (observing_alone halone) hrequires ?_
  intro r x hanswer
  obtain ⟨s', o'⟩ := x
  obtain ⟨hanswer, rfl⟩ := hanswer
  exact hanswers r s' hanswer

end Observing

/-! ### Runs -/

/-- A step of a program, or of the others. -/
inductive Step (E : Environment C A σ) : Program C A α × σ → Program C A α × σ → Prop
  | other (p : Program C A α) {s s' : σ} (h : E.other s s') : Step E (p, s) (p, s')
  | call (c : C) (next : A c → Program C A α) {s s' : σ} (r : A c) (h : E.answers c s r s') :
      Step E (.call c next, s) (next r, s')

/-- The runs of a program from a state. -/
def running (E : Environment C A σ) (p : Program C A α) (s : σ) :
    TransitionSystem (Program C A α × σ) where
  init x := x = (p, s)
  step := Step E

/-- What is left of a program meets the postcondition from a state from which
only others have done something. -/
theorem wp_reachable {p p' : Program C A α} (h : E.wp p Q s)
    (hrun : (E.running p s).Reachable (p', s')) :
    ∃ s₀, ReflTransGen E.other s₀ s' ∧ E.wp p' Q s₀ := by
  have hinv := hrun.invariant (I := fun x => ∃ s₀, ReflTransGen E.other s₀ x.2 ∧ E.wp x.1 Q s₀)
  refine hinv ?_ ?_
  · intro x hinit
    obtain rfl : x = (p, s) := hinit
    exact ⟨s, .refl, h⟩
  · intro x y _ hx hstep
    obtain ⟨s₀, hothers, hwp⟩ := hx
    change Step E x y at hstep
    cases hstep with
    | other p hother => exact ⟨s₀, hothers.tail hother, hwp⟩
    | call c next r hanswer => exact ⟨_, .refl, (hwp _ hothers).2 r _ hanswer⟩

/-- **Soundness.** In every run the calls are made where what they require holds,
and the program ends where its postcondition holds. -/
theorem wp_sound {p p' : Program C A α} (h : E.wp p Q s)
    (hrun : (E.running p s).Reachable (p', s')) :
    (∀ c next, p' = .call c next → E.requires c s') ∧
      ∀ a, p' = .done a → ∃ s₀, ReflTransGen E.other s₀ s' ∧ Q a s₀ := by
  obtain ⟨s₀, hothers, hwp⟩ := wp_reachable h hrun
  constructor
  · intro c next hp
    subst hp
    exact (hwp s' hothers).1
  · intro a hp
    subst hp
    exact ⟨s₀, hothers, hwp⟩

/-- A call that is allowed is answered, at the latest when others have done
something. -/
def Responsive (E : Environment C A σ) : Prop :=
  ∀ c s, E.requires c s → ∃ s₁ r s₂, ReflTransGen E.other s s₁ ∧ E.answers c s₁ r s₂

theorem Step.uncut {x y : Program C A α × σ} (hstep : Step E x y) (h : x.1.Uncut) :
    y.1.Uncut := by
  cases hstep with
  | other p hother => exact h
  | call c next r hanswer => exact h r

theorem wp_can_end (hresponsive : E.Responsive) {p : Program C A α} (h : E.wp p Q s)
    (hothers : ReflTransGen E.other s s') (huncut : p.Uncut) :
    ∃ a s'', ReflTransGen (Step E) (p, s') (.done a, s'') := by
  induction p generalizing s s' with
  | done a => exact ⟨a, s', .refl⟩
  | call c next ih =>
      obtain ⟨s₁, r, s₂, hothers', hanswer⟩ := hresponsive c s' (h s' hothers).1
      have hnext := (h s₁ (hothers.trans hothers')).2 r s₂ hanswer
      obtain ⟨a, s'', hend⟩ := ih r hnext .refl (huncut r)
      have hwait : ReflTransGen (Step E) (.call c next, s') (.call c next, s₁) :=
        ReflTransGen.lift (fun t => (Program.call c next, t))
          (fun _ _ hother => Step.other _ hother) _ _ hothers'
      exact ⟨a, s'', hwait.trans (.head (.call c next r hanswer) hend)⟩
  | cut => exact huncut.elim

/-- **Progress.** A program is never stuck in its calls: from wherever it is, it
can come to its end. -/
theorem wp_progress (hresponsive : E.Responsive) {p p' : Program C A α} (h : E.wp p Q s)
    (huncut : p.Uncut) (hrun : (E.running p s).Reachable (p', s')) :
    ∃ a s'', ReflTransGen (Step E) (p', s') (.done a, s'') := by
  obtain ⟨s₀, hothers, hwp⟩ := wp_reachable h hrun
  refine wp_can_end hresponsive hwp hothers ?_
  have hinv := hrun.invariant (I := fun x => x.1.Uncut)
  refine hinv ?_ fun x y _ hx hstep => Step.uncut hstep hx
  intro x hinit
  obtain rfl : x = (p, s) := hinit
  exact huncut

/-- A program that goes on longer comes to the same states. -/
theorem Outlasted.reachable {refuse : (c : C) → A c} {p p' q : Program C A α}
    (h : p.Outlasted refuse q) (hrun : (E.running p s).Reachable (p', s')) :
    ∃ q', p'.Outlasted refuse q' ∧ (E.running q s).Reachable (q', s') := by
  have hinv := hrun.invariant
    (I := fun x => ∃ q', x.1.Outlasted refuse q' ∧ (E.running q s).Reachable (q', x.2))
  refine hinv ?_ ?_
  · intro x hinit
    obtain rfl : x = (p, s) := hinit
    exact ⟨q, h, .of_init rfl⟩
  · intro x y _ hx hstep
    obtain ⟨q', hout, hreach⟩ := hx
    change Step E x y at hstep
    cases hstep with
    | other p hother => exact ⟨q', hout, hreach.step (.other _ hother)⟩
    | call c next r hanswer =>
        obtain ⟨next', rfl, hnext⟩ := hout
        exact ⟨next' r, hnext r, hreach.step (.call c next' r hanswer)⟩

/-- A call can be refused, and what can be seen of the state is the same then. -/
def Refusing {τ : Type} (E : Environment C A σ) (refuse : (c : C) → A c) (view : σ → τ) : Prop :=
  ∀ c s, E.requires c s → ∃ s', E.answers c s (refuse c) s' ∧ view s' = view s

theorem wp_refused {τ : Type} {view : σ → τ} {refuse : (c : C) → A c}
    (hrefusing : E.Refusing refuse view) {p : Program C A α} (h : E.wp p Q s) {a : α}
    (ha : p.refused refuse = some a) : ∃ s', view s' = view s ∧ Q a s' := by
  induction p generalizing s with
  | done b =>
      obtain rfl := Option.some.inj ha
      exact ⟨s, rfl, h⟩
  | call c next ih =>
      obtain ⟨hrequires, hanswers⟩ := h s .refl
      obtain ⟨s₁, hanswer, hview⟩ := hrefusing c s hrequires
      obtain ⟨s', hview', hQ⟩ := ih _ (hanswers _ _ hanswer) ha
      exact ⟨s', hview'.trans hview, hQ⟩
  | cut => cases ha

/-- **Stopping.** What can be seen of the state where a program is stopped is what
it could have left at its end. -/
theorem wp_stopped {τ : Type} {view : σ → τ} {refuse : (c : C) → A c} (halone : E.Alone)
    (hrefusing : E.Refusing refuse view) {p p' q : Program C A α}
    (hout : p.Outlasted refuse q) (h : E.wp q Q s)
    (hrun : (E.running p s).Reachable (p', s')) : ∃ a s'', view s'' = view s' ∧ Q a s'' := by
  obtain ⟨q', hout', hreach⟩ := Outlasted.reachable hout hrun
  obtain ⟨s₀, hothers, hwp⟩ := wp_reachable h hreach
  obtain rfl := halone.same_iff.mp hothers
  obtain ⟨a, ha⟩ := Option.isSome_iff_exists.mp hout'.refused
  exact ⟨a, wp_refused hrefusing hwp ha⟩

/-- How a function ends, where nobody else does anything. -/
theorem Ensures.ends (halone : E.Alone) {x : Throwing C A ε α} {Q : Except ε α → σ → Prop}
    {r : Except ε α} (h : E.Ensures s x Q)
    (hrun : (E.running x.run s).Reachable (.done r, s')) : Q r s' := by
  obtain ⟨s₀, hothers, hQ⟩ := (wp_sound h hrun).2 r rfl
  obtain rfl := halone.same_iff.mp hothers
  exact hQ

/-- A run without the others, up to its end. -/
inductive Ends (E : Environment C A σ) : Program C A α → σ → α → σ → Prop
  | done (a : α) (s : σ) : Ends E (.done a) s a s
  | call {c : C} {next : A c → Program C A α} {s s₁ s' : σ} {a : α} (r : A c)
      (hanswer : E.answers c s r s₁) (h : Ends E (next r) s₁ a s') : Ends E (.call c next) s a s'

theorem Ends.reachable {p : Program C A α} {a : α} (h : E.Ends p s a s') :
    (E.running p s).Reachable (.done a, s') := by
  have hsteps : ReflTransGen (Step E) (p, s) (.done a, s') := by
    induction h with
    | done a s => exact .refl
    | call r hanswer _ ih => exact .head (.call _ _ r hanswer) ih
  exact ⟨(p, s), rfl, hsteps⟩

theorem Ends.bind {p : Program C A α} {f : α → Program C A β} {a : α} {b : β} {s₁ : σ}
    (h : E.Ends p s a s₁) (hf : E.Ends (f a) s₁ b s') : E.Ends (p.bind f) s b s' := by
  induction h with
  | done a s => exact hf
  | call r hanswer _ ih => exact .call r hanswer (ih hf)

theorem ends_request {c : C} {f : A c → Throwing C A ε β} {b : Except ε β} {s₁ : σ} (a : A c)
    (hanswer : E.answers c s a s₁) (h : E.Ends (f a).run s₁ b s') :
    E.Ends (request c >>= f).run s b s' := .call a hanswer h

theorem ends_cleanup {x : Throwing C A ε β} {c : C} {b : Except ε β} {s₁ : σ} (a : A c)
    (h : E.Ends x.run s b s₁) (hanswer : E.answers c s₁ a s') :
    E.Ends (cleanup x c).run s b s' := h.bind (.call a hanswer (.done b s'))

/-- A function may end so in a state. -/
def Returns (E : Environment C A σ) (s : σ) (x : Throwing C A ε α) (r : Except ε α) : Prop :=
  ∃ s', E.Ends x.run s r s'

section Returns

variable {r : Except ε α}

theorem returns_throw {e : ε} :
    E.Returns s (throw e : Throwing C A ε α) r ↔ r = .error e := by
  constructor
  · intro h
    obtain ⟨s', hends⟩ := h
    cases hends
    rfl
  · intro h
    subst h
    exact ⟨s, .done _ s⟩

theorem returns_pure {a : α} : E.Returns s (pure a : Throwing C A ε α) r ↔ r = .ok a := by
  constructor
  · intro h
    obtain ⟨s', hends⟩ := h
    cases hends
    rfl
  · intro h
    subst h
    exact ⟨s, .done _ s⟩

theorem not_returns_cut : ¬ E.Returns s (ExceptT.mk .cut : Throwing C A ε α) r := by
  intro h
  obtain ⟨s', hends⟩ := h
  cases hends

theorem returns_request {c : C} {f : A c → Throwing C A ε α} :
    E.Returns s (request c >>= f) r ↔
      ∃ a s₁, E.answers c s a s₁ ∧ E.Returns s₁ (f a) r := by
  constructor
  · intro h
    obtain ⟨s', hends⟩ := h
    change E.Ends (.call c fun a => (f a).run) s r s' at hends
    cases hends with
    | call a hanswer hends => exact ⟨a, _, hanswer, s', hends⟩
  · intro h
    obtain ⟨a, s₁, hanswer, s', hends⟩ := h
    exact ⟨s', .call a hanswer hends⟩

theorem returns_cleanup {x : Throwing C A ε α} {c : C}
    (hanswered : ∀ s, ∃ a s', E.answers c s a s') (h : E.Returns s x r) :
    E.Returns s (cleanup x c) r := by
  obtain ⟨s', hends⟩ := h
  obtain ⟨a, s'', hanswer⟩ := hanswered s'
  exact ⟨s'', ends_cleanup a hends hanswer⟩

theorem Ends.returns_seq {x : Throwing C A ε β} {f : β → Throwing C A ε α} {b : β} {s₁ : σ}
    (h : E.Ends x.run s (.ok b) s₁) (hf : E.Returns s₁ (f b) r) : E.Returns s (x >>= f) r := by
  obtain ⟨s', hends⟩ := hf
  exact ⟨s', h.bind hends⟩

/-- A call with only one answer. -/
theorem returns_answered {c : C} {f : A c → Throwing C A ε α} {a : A c} {s₁ : σ}
    (h : ∀ a' s', E.answers c s a' s' ↔ a' = a ∧ s' = s₁) :
    E.Returns s (request c >>= f) r ↔ E.Returns s₁ (f a) r := by
  simp only [returns_request, h]
  refine ⟨?_, fun hreturns => ⟨a, s₁, ⟨rfl, rfl⟩, hreturns⟩⟩
  intro hreturns
  obtain ⟨_, _, ⟨rfl, rfl⟩, hreturns⟩ := hreturns
  exact hreturns

end Returns

end Environment
