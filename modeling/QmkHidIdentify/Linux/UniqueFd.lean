import Mathlib.Data.Finset.Insert
import Mathlib.Data.Finset.Erase
import QmkHidIdentify.Lib.Monitor
import QmkHidIdentify.Lib.Transition
import QmkHidIdentify.Linux.HidIdentify

/-!
# QmkHidIdentify.Linux.UniqueFd

`unique_fd` of `linux/unique-fd.h`: any number of objects, each with the file
descriptor it holds, under any sequence of their member functions.

A descriptor that is open belongs to one object or to the caller, who has it as a
number from `open` or `release`. `Fds.hand` are those of the caller and `Fds.trace`
is what was opened and closed, latest first; both are not in the source and are
only read by statements. `descriptorLedger` refuses to close a descriptor that is
not open, which another thread may have been given in the meantime.

A caller may construct or reset an object with a descriptor only if it has that
descriptor (`FdOp.Allowed`). `Represents` connects the objects to the handle of
`LinuxHIDDevice`.
-/

namespace QmkHidIdentify

/-- A descriptor is opened or closed. -/
inductive FdEvent
  | opened (fd : Int32)
  | closed (fd : Int32)
  deriving DecidableEq, Repr

/-- The descriptors that are open. -/
def descriptorLedger : Monitor (Finset Int32) FdEvent where
  start := ∅
  step
    | fds, .opened fd => if fd ∈ fds then none else some (insert fd fds)
    | fds, .closed fd => if fd ∈ fds then some (fds.erase fd) else none

/-- The objects by their addresses, with their `value_`. -/
structure Fds (κ : Type) where
  objects : κ → Option Int32 := fun _ => none
  hand : Finset Int32 := ∅
  trace : List FdEvent := []

namespace Fds

variable {κ : Type} [DecidableEq κ]

/-! ### The member functions -/

/-- `get`. -/
def get (s : Fds κ) (k : κ) : Int32 := (s.objects k).getD (-1)

/-- `close(2)`. -/
def close (s : Fds κ) (fd : Int32) : Fds κ := { s with trace := .closed fd :: s.trace }

/-- A value is stored in `value_`; a descriptor of the caller now belongs to the
object. -/
def store (s : Fds κ) (k : κ) (value : Int32) : Fds κ :=
  { s with objects := Function.update s.objects k (some value), hand := s.hand.erase value }

/-- `reset`. -/
def reset (s : Fds κ) (k : κ) (newValue : Int32) : Fds κ :=
  (if s.get k ≠ -1 then s.close (s.get k) else s).store k newValue

/-- `clear`. -/
def clear (s : Fds κ) (k : κ) : Fds κ := s.reset k (-1)

/-- `release`: what it returns, which the caller has then. -/
def release (s : Fds κ) (k : κ) : Int32 × Fds κ :=
  (s.get k, { s with
    objects := Function.update s.objects k (some (-1))
    hand := if s.get k = -1 then s.hand else insert (s.get k) s.hand })

/-- The move constructor. -/
def moveConstruct (s : Fds κ) (k other : κ) : Fds κ :=
  (s.release other).2.store k (s.release other).1

/-- The move assignment; `k` and `other` may be the same object. -/
def moveAssign (s : Fds κ) (k other : κ) : Fds κ :=
  (s.release other).2.reset k (s.release other).1

/-- The destructor. -/
def destroy (s : Fds κ) (k : κ) : Fds κ :=
  { s.clear k with objects := Function.update (s.clear k).objects k none }

/-! What they do to the value of any object, and what they close. -/

section

variable (s : Fds κ) (k k' : κ) (value : Int32)

@[simp] theorem get_store : (s.store k value).get k' = if k' = k then value else s.get k' := by
  by_cases heq : k' = k
  · simp [store, get, heq]
  · simp [store, get, heq]

@[simp] theorem release_fst : (s.release k).1 = s.get k := rfl

@[simp] theorem get_release :
    (s.release k).2.get k' = if k' = k then -1 else s.get k' := by
  by_cases heq : k' = k
  · simp [release, get, heq]
  · simp [release, get, heq]

@[simp] theorem get_reset : (s.reset k value).get k' = if k' = k then value else s.get k' := by
  have hclose : (if s.get k ≠ -1 then s.close (s.get k) else s).get k' = s.get k' := by
    split <;> rfl
  rw [reset, get_store, hclose]

@[simp] theorem get_clear : (s.clear k).get k' = if k' = k then -1 else s.get k' :=
  s.get_reset k k' (-1)

@[simp] theorem get_destroy : (s.destroy k).get k' = if k' = k then -1 else s.get k' := by
  have hclear := s.get_clear k k'
  by_cases heq : k' = k
  · simp [destroy, get, heq]
  · simpa [destroy, get, heq] using hclear

@[simp] theorem trace_store : (s.store k value).trace = s.trace := rfl

@[simp] theorem trace_release : (s.release k).2.trace = s.trace := rfl

@[simp] theorem trace_reset : (s.reset k value).trace =
    if s.get k ≠ -1 then .closed (s.get k) :: s.trace else s.trace := by
  unfold reset
  split <;> rfl

@[simp] theorem trace_destroy : (s.destroy k).trace =
    if s.get k ≠ -1 then .closed (s.get k) :: s.trace else s.trace := s.trace_reset k (-1)

end

end Fds

/-- What a caller does. -/
inductive FdOp (κ : Type)
  /-- `open(2)` returns a descriptor -/
  | openFd (fd : Int32)
  /-- the caller closes a descriptor itself -/
  | closeFd (fd : Int32)
  | construct (k : κ) (value : Int32)
  | moveConstruct (k other : κ)
  | moveAssign (k other : κ)
  | reset (k : κ) (newValue : Int32)
  | clear (k : κ)
  | release (k : κ)
  | destroy (k : κ)

namespace FdOp

variable {κ : Type} [DecidableEq κ]

def run (s : Fds κ) : FdOp κ → Fds κ
  | openFd fd => { s with hand := insert fd s.hand, trace := .opened fd :: s.trace }
  | closeFd fd => { s.close fd with hand := s.hand.erase fd }
  | construct k value => s.store k value
  | moveConstruct k other => s.moveConstruct k other
  | moveAssign k other => s.moveAssign k other
  | reset k newValue => s.reset k newValue
  | clear k => s.clear k
  | release k => (s.release k).2
  | destroy k => s.destroy k

/-- An object is constructed where there is none, and used where there is one. A
descriptor that is opened is not open already. A value that is handed in is -1 or a
descriptor of the caller: `reset` with the descriptor that the object has would close
it and keep it. -/
def Allowed (s : Fds κ) : FdOp κ → Prop
  | openFd fd => fd ≠ -1 ∧ fd ∉ s.hand ∧ ∀ k, s.objects k ≠ some fd
  | closeFd fd => fd ∈ s.hand
  | construct k value => s.objects k = none ∧ (value = -1 ∨ value ∈ s.hand)
  | moveConstruct k other => s.objects k = none ∧ (s.objects other).isSome = true
  | moveAssign k other => (s.objects k).isSome = true ∧ (s.objects other).isSome = true
  | reset k newValue => (s.objects k).isSome = true ∧ (newValue = -1 ∨ newValue ∈ s.hand)
  | clear k | release k | destroy k => (s.objects k).isSome = true

end FdOp

/-- A process that uses the objects, from its start. -/
def uniqueFds (κ : Type) [DecidableEq κ] : TransitionSystem (Fds κ) where
  init s := s = {}
  step s s' := ∃ op : FdOp κ, op.Allowed s ∧ s' = op.run s

theorem uniqueFds_step {κ : Type} [DecidableEq κ] {s : Fds κ}
    (h : (uniqueFds κ).Reachable s) (op : FdOp κ) (hallowed : op.Allowed s) :
    (uniqueFds κ).Reachable (op.run s) := h.step ⟨op, hallowed, rfl⟩

/-! ### The invariant -/

namespace Fds

variable {κ : Type} [DecidableEq κ] {s : Fds κ} {k other : κ} {value : Int32}

/-- A descriptor belongs to an object. -/
def Holds (s : Fds κ) (fd : Int32) : Prop := fd ≠ -1 ∧ ∃ k, s.objects k = some fd

/-- Every open descriptor belongs to the caller or to one object, and these are
the ones that the ledger has as open. -/
structure Owned (s : Fds κ) : Prop where
  hand_ne : -1 ∉ s.hand
  hand_free : ∀ {k fd}, s.objects k = some fd → fd ∉ s.hand
  unique : ∀ {k k' fd}, s.objects k = some fd → s.objects k' = some fd → fd ≠ -1 → k = k'
  ledger : ∃ fds, descriptorLedger.state s.trace = some fds ∧
    ∀ fd, fd ∈ fds ↔ fd ∈ s.hand ∨ s.Holds fd

omit [DecidableEq κ] in
theorem Owned.init : Owned ({} : Fds κ) := by
  refine ⟨by simp, nofun, nofun, ∅, rfl, ?_⟩
  simp [Holds]

omit [DecidableEq κ] in
theorem get_eq {fd : Int32} (h : s.objects k = some fd) : s.get k = fd := by
  rw [get, h, Option.getD_some]

omit [DecidableEq κ] in
theorem objects_of_get (h : s.get k ≠ -1) : s.objects k = some (s.get k) := by
  unfold get at h ⊢
  cases hk : s.objects k with
  | none => simp [hk] at h
  | some fd => rfl

/-! Descriptors of the caller. -/

theorem Owned.openFd (h : Owned s) {fd : Int32} (hallowed : (FdOp.openFd fd).Allowed s) :
    Owned ((FdOp.openFd fd).run s) := by
  obtain ⟨hne, hhand, hfree⟩ := hallowed
  obtain ⟨fds, hstate, hopen⟩ := h.ledger
  refine ⟨?_, ?_, h.unique, insert fd fds, ?_, ?_⟩
  · simp [FdOp.run, h.hand_ne, Ne.symm hne]
  · intro k fd' hk
    have hfree' := h.hand_free hk
    have hne' : fd' ≠ fd := fun heq => hfree k (heq ▸ hk)
    simp [FdOp.run, hfree', hne']
  · have hclosed : fd ∉ fds := by simp [hopen, Holds, hhand, hfree]
    exact (Monitor.state_cons hstate _).trans (if_neg hclosed)
  · intro fd'
    simp [FdOp.run, Holds, hopen, or_assoc]

theorem Owned.closeFd (h : Owned s) {fd : Int32} (hhand : fd ∈ s.hand) :
    Owned ((FdOp.closeFd fd).run s) := by
  obtain ⟨fds, hstate, hopen⟩ := h.ledger
  have hfree : ∀ k, s.objects k ≠ some fd := fun k hk => h.hand_free hk hhand
  refine ⟨?_, ?_, h.unique, fds.erase fd, ?_, ?_⟩
  · simp [FdOp.run, h.hand_ne]
  · intro k fd' hk
    simp [FdOp.run, h.hand_free hk]
  · exact (Monitor.state_cons hstate _).trans (if_pos ((hopen fd).mpr (.inl hhand)))
  · intro fd'
    by_cases heq : fd' = fd
    · simp [FdOp.run, Holds, close, heq, hfree]
    · simp [FdOp.run, Holds, close, heq, hopen]

/-! Objects. -/

/-- One object is changed, with what the caller has and what has been closed. -/
theorem Owned.update (h : Owned s) {s' : Fds κ} {o : Option Int32}
    (hobjects : s'.objects = Function.update s.objects k o)
    (hnew : ∀ fd, o = some fd → fd ≠ -1 → ∀ k', s.objects k' ≠ some fd)
    (hneg : -1 ∉ s'.hand)
    (hfree : ∀ fd ∈ s'.hand, o ≠ some fd ∧ ∀ k', k' ≠ k → s.objects k' ≠ some fd)
    {fds : Finset Int32} (hstate : descriptorLedger.state s'.trace = some fds)
    (hopen : ∀ fd, fd ∈ fds ↔ fd ∈ s'.hand ∨
      (fd ≠ -1 ∧ (o = some fd ∨ ∃ k', k' ≠ k ∧ s.objects k' = some fd))) : Owned s' := by
  have hcases : ∀ k' fd, s'.objects k' = some fd ↔
      (k' = k ∧ o = some fd) ∨ (k' ≠ k ∧ s.objects k' = some fd) := by
    intro k' fd
    rw [hobjects]
    by_cases heq : k' = k
    · simp [heq]
    · simp [heq]
  refine ⟨hneg, ?_, ?_, fds, hstate, ?_⟩
  · intro k' fd hk' hhand
    obtain ⟨hsome, hothers⟩ := hfree fd hhand
    rcases (hcases k' fd).mp hk' with ⟨-, ho⟩ | ⟨hne, hk'⟩
    · exact hsome ho
    · exact hothers k' hne hk'
  · intro k₁ k₂ fd h₁ h₂ hfd
    rcases (hcases k₁ fd).mp h₁ with ⟨rfl, ho⟩ | ⟨-, hk₁⟩
    · rcases (hcases k₂ fd).mp h₂ with ⟨rfl, -⟩ | ⟨-, hk₂⟩
      · rfl
      · exact absurd hk₂ (hnew fd ho hfd k₂)
    · rcases (hcases k₂ fd).mp h₂ with ⟨rfl, ho⟩ | ⟨-, hk₂⟩
      · exact absurd hk₁ (hnew fd ho hfd k₁)
      · exact h.unique hk₁ hk₂ hfd
  · intro fd
    rw [hopen, Holds]
    simp only [hcases]
    grind

/-- A descriptor of the caller is stored in an object that has none. -/
theorem Owned.store (h : Owned s) (hnone : s.get k = -1) (hvalue : value = -1 ∨ value ∈ s.hand) :
    Owned (s.store k value) := by
  obtain ⟨fds, hstate, hopen⟩ := h.ledger
  have hk : ∀ fd, s.objects k = some fd → fd = -1 := fun fd hk => (get_eq hk).symm.trans hnone
  refine h.update rfl ?_ ?_ ?_ hstate ?_
  · intro fd ho hfd k' hk'
    obtain rfl := Option.some.inj ho
    exact h.hand_free hk' (hvalue.resolve_left hfd)
  · simp [Fds.store, h.hand_ne]
  · intro fd hfd
    obtain ⟨hne, hhand⟩ := Finset.mem_erase.mp hfd
    exact ⟨by simpa using hne.symm, fun k' _ hk' => h.hand_free hk' hhand⟩
  · intro fd
    have hneg := h.hand_ne
    simp only [hopen, Holds, Fds.store, Finset.mem_erase]
    grind

/-- The value of an object goes to the caller. -/
theorem Owned.release (h : Owned s) : Owned (s.release k).2 ∧
    ((s.release k).1 = -1 ∨ (s.release k).1 ∈ (s.release k).2.hand) := by
  obtain ⟨fds, hstate, hopen⟩ := h.ledger
  by_cases hempty : s.get k = -1
  · have hk : ∀ fd, s.objects k = some fd → fd = -1 := fun fd hk => (get_eq hk).symm.trans hempty
    refine ⟨h.update rfl ?_ ?_ ?_ hstate ?_, .inl hempty⟩
    · intro fd ho hfd
      exact absurd (Option.some.inj ho).symm hfd
    · simpa [Fds.release, hempty] using h.hand_ne
    · simp only [Fds.release, hempty, if_true]
      intro fd hhand
      refine ⟨?_, fun k' _ hk' => h.hand_free hk' hhand⟩
      intro ho
      exact h.hand_ne (Option.some.inj ho ▸ hhand)
    · intro fd
      simp only [hopen, Holds, Fds.release, hempty, if_true]
      grind
  · have hk := objects_of_get hempty
    refine ⟨h.update rfl ?_ ?_ ?_ hstate ?_, .inr (by simp [Fds.release, hempty])⟩
    · intro fd ho hfd
      exact absurd (Option.some.inj ho).symm hfd
    · simp [Fds.release, hempty, h.hand_ne, Ne.symm hempty]
    · simp only [Fds.release, hempty, if_false, Finset.mem_insert]
      intro fd hhand
      rcases hhand with rfl | hhand
      · exact ⟨by simpa using Ne.symm hempty, fun k' hne hk' => hne (h.unique hk' hk hempty)⟩
      · refine ⟨?_, fun k' _ hk' => h.hand_free hk' hhand⟩
        intro ho
        exact h.hand_ne (Option.some.inj ho ▸ hhand)
    · intro fd
      simp only [hopen, Holds, Fds.release, hempty, if_false, Finset.mem_insert]
      grind

/-- The descriptor of an object is closed. -/
theorem Owned.clear (h : Owned s) : Owned (s.clear k) := by
  obtain ⟨fds, hstate, hopen⟩ := h.ledger
  by_cases hempty : s.get k = -1
  · rw [Fds.clear, Fds.reset, if_neg (not_not.mpr hempty)]
    exact h.store hempty (.inl rfl)
  · rw [Fds.clear, Fds.reset, if_pos hempty]
    have hk := objects_of_get hempty
    have hheld : s.get k ∈ fds := (hopen _).mpr (.inr ⟨hempty, k, hk⟩)
    have hhand := h.hand_free hk
    refine h.update rfl ?_ ?_ ?_
      ((Monitor.state_cons hstate _).trans (if_pos hheld)) ?_
    · intro fd ho hfd
      exact absurd (Option.some.inj ho).symm hfd
    · simp [Fds.store]
    · intro fd hfd
      obtain ⟨hne, hmem⟩ := Finset.mem_erase.mp hfd
      exact ⟨by simpa using hne.symm, fun k' _ hk' => h.hand_free hk' hmem⟩
    · intro fd
      have hneg := h.hand_ne
      have hunique : ∀ k' fd, s.objects k' = some fd → s.objects k = some fd → fd ≠ -1 → k' = k :=
        fun _ _ hk' hk hfd => h.unique hk' hk hfd
      simp only [Fds.store, Fds.close, Finset.mem_erase, hopen, Holds]
      grind

theorem hand_clear : (s.clear k).hand = s.hand.erase (-1) := by
  unfold Fds.clear Fds.reset
  split <;> rfl

/-- What a reset does is to clear and to store. -/
theorem Owned.reset (h : Owned s) (hvalue : value = -1 ∨ value ∈ s.hand) :
    Owned (s.reset k value) := by
  have hneg : s.hand.erase (-1) = s.hand := Finset.erase_eq_of_notMem h.hand_ne
  have heq : s.reset k value = (s.clear k).store k value := by
    unfold Fds.clear Fds.reset
    split
    · simp [Fds.store, Fds.close, hneg]
    · simp [Fds.store, hneg]
  rw [heq]
  exact h.clear.store (by simp) (by rwa [hand_clear, hneg])

/-- An object that has been cleared is gone. -/
theorem Owned.destroy (h : Owned s) : Owned (s.destroy k) := by
  have hclear := h.clear (k := k)
  obtain ⟨fds, hstate, hopen⟩ := hclear.ledger
  have hk : ∀ fd, (s.clear k).objects k = some fd → fd = -1 :=
    fun fd hk => (get_eq hk).symm.trans (by simp)
  refine hclear.update rfl nofun hclear.hand_ne ?_ hstate ?_
  · intro fd hhand
    exact ⟨nofun, fun k' _ hk' => hclear.hand_free hk' hhand⟩
  · intro fd
    show fd ∈ fds ↔ fd ∈ (s.clear k).hand ∨ _
    simp only [hopen, Holds]
    grind

theorem Owned.run (h : Owned s) (op : FdOp κ) (hallowed : op.Allowed s) : Owned (op.run s) := by
  cases op with
  | openFd fd => exact h.openFd hallowed
  | closeFd fd => exact h.closeFd hallowed
  | construct k value =>
      obtain ⟨hnone, hvalue⟩ := hallowed
      exact h.store (by rw [get, hnone, Option.getD_none]) hvalue
  | moveConstruct k other =>
      obtain ⟨hnone, hother⟩ := hallowed
      obtain ⟨hreleased, hvalue⟩ := h.release (k := other)
      refine hreleased.store ?_ hvalue
      have hne : k ≠ other := by
        intro heq
        simp [← heq, hnone] at hother
      simp [get, Fds.release, Function.update_of_ne hne, hnone]
  | moveAssign k other =>
      obtain ⟨hreleased, hvalue⟩ := h.release (k := other)
      exact hreleased.reset hvalue
  | reset k newValue => exact h.reset hallowed.2
  | clear k => exact h.clear
  | release k => exact h.release.1
  | destroy k => exact h.destroy

theorem Owned.of_reachable (h : (uniqueFds κ).Reachable s) : Owned s := by
  refine h.invariant ?_ ?_
  · intro s hinit
    obtain rfl : s = {} := hinit
    exact .init
  · intro s s' _ hs hstep
    obtain ⟨op, hallowed, rfl⟩ := hstep
    exact hs.run op hallowed

end Fds

open Fds

/-- **Ownership of descriptors.** After any sequence of operations that are allowed,
on any objects, no descriptor has been closed that was not open, and each one that
is open belongs either to the caller or to exactly one object; so none is closed
twice, and when the objects are gone and the caller has closed what it has, all
are closed. -/
theorem descriptors_owned {κ : Type} [DecidableEq κ] {s : Fds κ}
    (h : (uniqueFds κ).Reachable s) :
    ∃ fds, descriptorLedger.state s.trace = some fds ∧
      (∀ fd, fd ∈ fds ↔ fd ∈ s.hand ∨ s.Holds fd) ∧
      (∀ fd, s.Holds fd → fd ∉ s.hand ∧ ∃! k, s.objects k = some fd) ∧
      ((∀ k, s.objects k = none) → s.hand = ∅ → fds = ∅) := by
  have howned := Owned.of_reachable h
  obtain ⟨fds, hstate, hopen⟩ := howned.ledger
  refine ⟨fds, hstate, hopen, ?_, ?_⟩
  · intro fd hholds
    obtain ⟨hfd, k, hk⟩ := hholds
    exact ⟨howned.hand_free hk, k, hk, fun k' hk' => howned.unique hk' hk hfd⟩
  · intro hgone hhand
    refine Finset.eq_empty_of_forall_notMem ?_
    simp [hopen, hhand, Holds, hgone]

/-- An object is assigned to itself and destroyed. -/
theorem descriptors_owned_selfMove :
    ∃ s : Fds Unit, (uniqueFds Unit).Reachable s ∧ s.trace = [.closed 3, .opened 3] ∧
      ∃ fds, descriptorLedger.state s.trace = some fds ∧ fds = ∅ := by
  have hinit : (uniqueFds Unit).Reachable {} := .of_init rfl
  have hopened := uniqueFds_step hinit (.openFd 3) (by simp [FdOp.Allowed])
  have hconstructed := uniqueFds_step hopened (.construct () 3)
    (by simp [FdOp.Allowed, FdOp.run])
  have hassigned := uniqueFds_step hconstructed (.moveAssign () ())
    (by simp [FdOp.Allowed, FdOp.run, store])
  have hrun := uniqueFds_step hassigned (.destroy ())
    (by simp [FdOp.Allowed, FdOp.run, moveAssign, reset, store])
  obtain ⟨fds, hstate, -, -, hempty⟩ := descriptors_owned hrun
  exact ⟨_, hrun, rfl, fds, hstate, hempty (fun _ => rfl) rfl⟩

/-! ### The handle of a device -/

section Device

variable {κ I D P : Type} [DecidableEq κ] {fd_ temporary : κ} {s : Fds κ} {d : Device I D P}
  {fd : Int32}

/-- The openings and closings of a handle. -/
def OsEvent.handleEvents (trace : List (OsEvent I D)) : List Bool :=
  trace.filterMap fun
    | .opened => some true
    | .closed => some false
    | _ => none

/-- The events of descriptors, without their numbers. -/
def FdEvent.isOpened : FdEvent → Bool
  | opened _ => true
  | closed _ => false

/-- The object `fd_` is the handle of a device. -/
structure Represents (fd_ : κ) (s : Fds κ) (d : Device I D P) : Prop where
  handle : s.get fd_ ≠ -1 ↔ d.handle = true
  events : s.trace.map FdEvent.isOpened = OsEvent.handleEvents d.trace

/-- `fd_ = unique_fd(::open(...))`, where it returns a descriptor. -/
theorem Represents.acquire (h : Represents fd_ s d) (hhandle : d.handle = false)
    (hne : temporary ≠ fd_) (hfd : fd ≠ -1) :
    Represents fd_ ([.openFd fd, .construct temporary fd, .moveAssign fd_ temporary,
      .destroy temporary].foldl FdOp.run s) d.acquire := by
  have hempty : s.get fd_ = -1 := by
    by_contra hheld
    rw [h.handle.mp hheld] at hhandle
    cases hhandle
  have hopened : ∀ k, ((FdOp.openFd fd).run s).get k = s.get k := fun _ => rfl
  have htrace : ((FdOp.openFd fd).run s).trace = .opened fd :: s.trace := rfl
  simp only [List.foldl_cons, List.foldl_nil]
  generalize (FdOp.openFd fd).run s = s' at hopened htrace
  constructor
  · simp [FdOp.run, moveAssign, Device.acquire, hne.symm, hfd]
  · simp [FdOp.run, moveAssign, Device.acquire, hne, hne.symm, hopened, htrace, hempty,
      FdEvent.isOpened, OsEvent.handleEvents, h.events]

/-- `fd_.clear()`, and what the destructor does. -/
theorem Represents.release (h : Represents fd_ s d) :
    Represents fd_ (s.clear fd_) d.release ∧ (s.destroy fd_).trace = (s.clear fd_).trace := by
  refine ⟨?_, rfl⟩
  by_cases hempty : s.get fd_ = -1
  · have hhandle : d.handle = false := by
      by_contra hheld
      exact h.handle.mpr (by simpa using hheld) hempty
    rw [Device.release, hhandle, Fds.clear, Fds.reset, if_neg (not_not.mpr hempty)]
    refine ⟨?_, h.events⟩
    simp [Fds.store, Fds.get, hhandle]
  · have hhandle := h.handle.mp hempty
    rw [Device.release, hhandle, Fds.clear, Fds.reset, if_pos hempty]
    constructor
    · simp [Fds.store, Fds.get]
    · simp [Fds.store, Fds.close, FdEvent.isOpened, OsEvent.handleEvents, h.events]

end Device

end QmkHidIdentify
