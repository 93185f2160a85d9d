import QmkHidIdentify.Identify.Protocol
import QmkHidIdentify.Lib.Transition

/-!
# QmkHidIdentify.Identify.DeviceLoop

The loop that both programs have: it goes on from one device to the next,
identifies it with a new object, and keeps the exit code of the first failure.
What it goes through is given by a cursor, which is an index on Linux and an
iterator on Windows.

`DeviceLoop.system_reachable` says what the variables are at any time, from the
iterations before. An iteration need not end, so this covers runs that do not.

What is left out: exceptions from elsewhere than the device code.
-/

namespace QmkHidIdentify

variable {κ ι I D P S T : Type}

/-- The object of one iteration, from its constructor to its destructor: how
`identify()` ends, and the trace. -/
def IdentifiesNew (C : DeviceClass I D P S T) (own : P) (s : S) (t : T)
    (result : Except Exception Unit) (trace : List (OsEvent I D)) : Prop :=
  ∃ info d, C.identify s t (Device.new info own) (result, d) ∧ trace = d.release.trace

/-- The variables of the loop, with what has been done on handles. -/
structure LoopVars (κ I D : Type) where
  cursor : κ
  exitRet : Int32 := 0
  trace : List (OsEvent I D) := []

/-- A loop over devices. -/
structure DeviceLoop (κ ι I D : Type) where
  /-- the device at the cursor, and the cursor after it -/
  next : κ → Option (ι × κ)
  /-- one `identify()` on it -/
  body : ι → Except Exception Unit → List (OsEvent I D) → Prop
  /-- the exit code that the handler of an exception has -/
  handler : Exception → Int32

/-- An iteration that has ended. -/
structure Iteration (ι I D : Type) where
  device : ι
  result : Except Exception Unit
  trace : List (OsEvent I D)

namespace DeviceLoop

variable (L : DeviceLoop κ ι I D)

/-- `exit_ret` after an iteration. -/
def exitRet (old : Int32) : Except Exception Unit → Int32
  | .ok () => old
  | .error e => if old ≠ 0 then old else L.handler e

/-- The loop from a cursor on. -/
def system (start : κ) : TransitionSystem (LoopVars κ I D) where
  init v := v = ⟨start, 0, []⟩
  step v v' := ∃ device cursor result trace, L.next v.cursor = some (device, cursor) ∧
    L.body device result trace ∧ v' = ⟨cursor, L.exitRet v.exitRet result, trace ++ v.trace⟩

/-- The loop ends. -/
def Ends (start : κ) (v : LoopVars κ I D) : Prop :=
  (L.system start).Reachable v ∧ L.next v.cursor = none

/-! ### What the variables are -/

/-- Iterations from a cursor to another one. -/
inductive Runs (start : κ) : List (Iteration ι I D) → κ → Prop
  | nil : Runs start [] start
  | snoc {runs : List (Iteration ι I D)} {cursor cursor' : κ} {run : Iteration ι I D} :
      Runs start runs cursor → L.next cursor = some (run.device, cursor') →
      L.body run.device run.result run.trace → Runs start (runs ++ [run]) cursor'

/-- The code of the first failure. -/
def firstFailure (results : List (Except Exception Unit)) : Int32 :=
  (results.findSome? fun
    | .ok () => none
    | .error e => some (L.handler e)).getD 0

variable {L}

theorem firstFailure_append (h : ∀ e, L.handler e ≠ 0) (results : List (Except Exception Unit))
    (result : Except Exception Unit) :
    L.firstFailure (results ++ [result]) = L.exitRet (L.firstFailure results) result := by
  unfold firstFailure
  rw [List.findSome?_append]
  cases hfirst : results.findSome? fun
    | .ok () => none
    | .error e => some (L.handler e) with
  | none => cases result <;> simp [exitRet]
  | some code =>
      obtain ⟨r, -, hr⟩ := List.exists_of_findSome?_eq_some hfirst
      cases r with
      | ok => cases hr
      | error e =>
          obtain rfl := Option.some.inj hr
          cases result <;> simp [exitRet, h e]

/-- **Everything about the loop at any time**: the exit code is that of the first
failure so far, and the objects were used one after the other. -/
theorem system_reachable (h : ∀ e, L.handler e ≠ 0) {start : κ} {v : LoopVars κ I D} :
    (L.system start).Reachable v ↔ ∃ runs, L.Runs start runs v.cursor ∧
      v.exitRet = L.firstFailure (runs.map (·.result)) ∧
      v.trace = (runs.map (·.trace)).reverse.flatten := by
  constructor
  · intro hreach
    refine hreach.invariant (I := fun v => ∃ runs, L.Runs start runs v.cursor ∧
      v.exitRet = L.firstFailure (runs.map (·.result)) ∧
      v.trace = (runs.map (·.trace)).reverse.flatten) ?_ ?_
    · intro v hinit
      obtain rfl : v = ⟨start, 0, []⟩ := hinit
      exact ⟨[], .nil, rfl, rfl⟩
    · intro v v' _ hinv hstep
      obtain ⟨runs, hruns, hexit, htrace⟩ := hinv
      obtain ⟨device, cursor, result, trace, hnext, hbody, rfl⟩ := hstep
      refine ⟨runs ++ [⟨device, result, trace⟩], .snoc hruns hnext hbody, ?_, ?_⟩
      · rw [hexit, List.map_append, List.map_singleton, firstFailure_append h]
      · simp [htrace]
  · intro hruns
    obtain ⟨runs, hruns, hexit, htrace⟩ := hruns
    obtain ⟨cursor, exitRet, trace⟩ := v
    dsimp only at hruns hexit htrace
    induction hruns generalizing exitRet trace with
    | nil =>
        subst hexit htrace
        exact .of_init rfl
    | @snoc runs cursor cursor' run _ hnext hbody ih =>
        refine (ih _ _ rfl rfl).step ⟨_, _, _, _, hnext, hbody, ?_⟩
        rw [hexit, htrace, List.map_append, List.map_singleton, firstFailure_append h]
        simp

/-- A property of every iteration. -/
theorem Runs.forall {start cursor : κ} {runs : List (Iteration ι I D)}
    {Q : Iteration ι I D → Prop} (h : L.Runs start runs cursor)
    (hbody : ∀ run, L.body run.device run.result run.trace → Q run) : ∀ run ∈ runs, Q run := by
  induction h with
  | nil =>
      intro run hmem
      cases hmem
  | snoc _ _ hrun ih =>
      intro run hmem
      rcases List.mem_append.mp hmem with hmem | hmem
      · exact ih run hmem
      · obtain rfl := List.mem_singleton.mp hmem
        exact hbody run hrun

end DeviceLoop

/-- What holds of the trace of every iteration, as the traces are in that of the
loop. -/
theorem forall_traces {runs : List (Iteration ι I D)} {Q : List (OsEvent I D) → Prop}
    (h : ∀ run ∈ runs, Q run.trace) : ∀ trace ∈ (runs.map (·.trace)).reverse, Q trace := by
  intro trace hmem
  obtain ⟨run, hrun, rfl⟩ := List.mem_map.mp (List.mem_reverse.mp hmem)
  exact h run hrun

/-! ### Handles -/

/-- One object: its calls come in order, every message passes the gates, and its
destructor leaves no handle. -/
theorem IdentifiesNew.ordered {C : DeviceClass I D P S T} {dec : Decoding I D}
    (hC : Lawful C dec) (hwrites : WritesMessage C) {own : P} {s : S} {t : T}
    {result : Except Exception Unit} {trace : List (OsEvent I D)}
    (h : IdentifiesNew C own s t result trace) :
    (handleProtocol I D).state trace = some .closed ∧ AllGated C dec trace := by
  obtain ⟨info, d, hcall, rfl⟩ := h
  have hinv : DeviceInv C dec d := (DeviceInv.new info own).call hC (c := .identify s t) hcall
  have hordered := (Ordered.new info own).identify hC hwrites (DeviceInv.new info own) hcall
  refine ⟨hordered.release.1, ?_⟩
  unfold Device.release
  split
  · exact allGated_cons.mpr ⟨by simp, hinv.gated⟩
  · exact hinv.gated

/-- Objects that are used one after the other never hold two handles. -/
theorem handleProtocol_flatten {traces : List (List (OsEvent I D))}
    (h : ∀ trace ∈ traces, (handleProtocol I D).state trace = some .closed) :
    (handleProtocol I D).state traces.flatten = some .closed := by
  induction traces with
  | nil => rfl
  | cons trace traces ih =>
      rw [List.flatten_cons,
        Monitor.state_append (ih fun tr hmem => h tr (List.mem_cons_of_mem _ hmem))]
      exact h trace List.mem_cons_self

/-- Nothing of a closed handle counts for the next one. -/
theorem handleProtocol_fresh {past : List (OsEvent I D)}
    (h : (handleProtocol I D).state past = some .closed) (es : List (OsEvent I D)) :
    OsEvent.held (es ++ past) = OsEvent.held es ∧
      OsEvent.infos (es ++ past) = OsEvent.infos es ∧
      OsEvent.descriptors (es ++ past) = OsEvent.descriptors es := by
  induction es with
  | nil =>
      cases past with
      | nil => exact ⟨rfl, rfl, rfl⟩
      | cons e past =>
          obtain ⟨phase, -, hstep⟩ := Option.bind_eq_some_iff.mp (show _ = some _ from h)
          cases e with
          | closed => exact ⟨rfl, rfl, rfl⟩
          | written buffer =>
              cases phase with
              | sending data =>
                  simp only [handleProtocol] at hstep
                  split at hstep <;> simp at hstep
              | _ => cases hstep
          | _ => cases phase <;> cases hstep
  | cons e es ih =>
      obtain ⟨hheld, hinfos, hdescriptors⟩ := ih
      cases e with
      | info i => exact ⟨hheld, congrArg (i :: ·) hinfos, hdescriptors⟩
      | descriptor c => exact ⟨hheld, hinfos, congrArg (c :: ·) hdescriptors⟩
      | opened | closed => exact ⟨rfl, rfl, rfl⟩
      | sent | written => exact ⟨hheld, hinfos, hdescriptors⟩

/-- What was done before. -/
theorem AllGated.of_append {C : DeviceClass I D P S T} {dec : Decoding I D}
    {es past : List (OsEvent I D)} (h : AllGated C dec (es ++ past)) : AllGated C dec past := by
  intro newer data older hpast
  refine h (es ++ newer) data older ?_
  rw [hpast, List.append_assoc]

theorem allGated_append {C : DeviceClass I D P S T} {dec : Decoding I D}
    {past : List (OsEvent I D)} (hpast : (handleProtocol I D).state past = some .closed)
    (hgated : AllGated C dec past) {es : List (OsEvent I D)} (h : AllGated C dec es) :
    AllGated C dec (es ++ past) := by
  induction es with
  | nil => exact hgated
  | cons e es ih =>
      obtain ⟨he, hes⟩ := allGated_cons.mp h
      refine allGated_cons.mpr ⟨?_, ih hes⟩
      intro data hsent
      obtain ⟨hheld, hinfos, hdescriptors⟩ := handleProtocol_fresh hpast es
      obtain ⟨hh, hi, hr⟩ := he data hsent
      exact ⟨hheld.trans hh, hinfos.symm ▸ hi, hdescriptors.symm ▸ hr⟩

theorem allGated_flatten {C : DeviceClass I D P S T} {dec : Decoding I D}
    {traces : List (List (OsEvent I D))}
    (h : ∀ trace ∈ traces, (handleProtocol I D).state trace = some .closed ∧
      AllGated C dec trace) : AllGated C dec traces.flatten := by
  induction traces with
  | nil =>
      intro newer data older htr
      simp at htr
  | cons trace traces ih =>
      have htail := fun tr hmem => h tr (List.mem_cons_of_mem trace hmem)
      rw [List.flatten_cons]
      exact allGated_append (handleProtocol_flatten fun tr hmem => (htail tr hmem).1) (ih htail)
        (h trace List.mem_cons_self).2

end QmkHidIdentify
