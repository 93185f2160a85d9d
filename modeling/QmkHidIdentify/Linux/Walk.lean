import QmkHidIdentify.Linux.Calls

/-!
# QmkHidIdentify.Linux.Walk

The walk of the parser over a descriptor.

`ItemAt` are the positions at which items start, with the items before them: a
fact about the bytes. `Visit` are the iterations of the loop of
`get_next_hid_usage`, over calls repeated until one returns non-0, with the
variables at their start. `visit_itemAt` and `itemAt_visit` say that these are
the same positions, and that whether an iteration is in a collection is a matter
of the last bracket before it.
-/

namespace QmkHidIdentify

/-- An item starts at a position, after items with these tokens. -/
inductive ItemAt (rpt : List UInt8) : List Token → Nat → Prop
  | start (h : 0 < rpt.length) : ItemAt rpt [] 0
  | next {ts : List Token} {pos : Nat} (item : ItemAt rpt ts pos)
      (h : nextPos rpt pos < rpt.length) :
      ItemAt rpt (ts ++ [tokenAt rpt pos]) (nextPos rpt pos)

theorem ItemAt.lt {rpt : List UInt8} {ts : List Token} {pos : Nat} (h : ItemAt rpt ts pos) :
    pos < rpt.length := by
  cases h with
  | start h => exact h
  | next _ h => exact h

/-- An iteration of the loop, in any of the calls. A call that returned is
followed by one that starts where it stopped. -/
inductive Visit (rpt : List UInt8) : Nat → UsageVars → Prop
  | start (h : 0 < rpt.length) : Visit rpt 0 {}
  | next {pos pos' : Nat} {s s' : UsageVars} (visit : Visit rpt pos s)
      (body : usageBody rpt pos s = some (.next pos' s')) (h : pos' < rpt.length) :
      Visit rpt pos' s'
  | again {pos : Nat} {s : UsageVars} (visit : Visit rpt pos s)
      (body : usageBody rpt pos s = some (.ret .found)) : Visit rpt pos {}

theorem inCollection_step {ts : List Token} {s : UsageVars} (t : Token)
    (h : s.collection = inCollection ts ∨ t = .endCollection) :
    (s.step t).collection = inCollection (ts ++ [t]) := by
  rcases h with h | rfl
  · cases t <;> simp only [UsageVars.step_collection, inCollection_snoc, h]
  · simp only [UsageVars.step_collection, inCollection_snoc]

/-- An iteration is at an item, and knows whether it is in a collection, except
where a call resumes at an End Collection. -/
theorem visit_itemAt {rpt : List UInt8} (hsize : rpt.length ≤ HID_MAX_DESCRIPTOR_SIZE) {pos : Nat}
    {s : UsageVars} (h : Visit rpt pos s) :
    ∃ ts, ItemAt rpt ts pos ∧
      (s.collection = inCollection ts ∨ tokenAt rpt pos = .endCollection) := by
  induction h with
  | start h => exact ⟨[], .start h, .inl rfl⟩
  | @next pos pos' s s' _ body h ih =>
      obtain ⟨ts, hitem, hcoll⟩ := ih
      rw [usageBody_eq hsize hitem.lt, Option.some.injEq] at body
      split at body
      · cases body
      · cases body
        exact ⟨_, hitem.next h, .inl (inCollection_step _ hcoll)⟩
  | @again pos s _ body ih =>
      obtain ⟨ts, hitem, -⟩ := ih
      rw [usageBody_eq hsize hitem.lt, Option.some.injEq] at body
      split at body
      · next hr => exact ⟨ts, hitem, .inr (UsageVars.returnsAt_iff.mp hr).1⟩
      · cases body

/-- Every item is visited. -/
theorem itemAt_visit {rpt : List UInt8} (hsize : rpt.length ≤ HID_MAX_DESCRIPTOR_SIZE)
    {ts : List Token} {pos : Nat} (h : ItemAt rpt ts pos) :
    ∃ s, Visit rpt pos s ∧ s.collection = inCollection ts := by
  induction h with
  | start h => exact ⟨{}, .start h, rfl⟩
  | @next ts pos hitem h ih =>
      obtain ⟨s, hvisit, hcoll⟩ := ih
      have hbody := usageBody_eq hsize hitem.lt s
      cases hr : s.returnsAt (tokenAt rpt pos) with
      | true =>
          -- the next call steps over the End Collection
          rw [hr, if_pos rfl] at hbody
          obtain ⟨hfresh, -⟩ := UsageVars.step_fresh_of_returnsAt hr
          have hagain := usageBody_eq hsize hitem.lt {}
          rw [hfresh, if_neg (by decide)] at hagain
          exact ⟨_, (hvisit.again hbody).next hagain h,
            inCollection_step _ (.inr (UsageVars.returnsAt_iff.mp hr).1)⟩
      | false =>
          rw [hr, if_neg (by decide)] at hbody
          exact ⟨_, hvisit.next hbody h, inCollection_step _ (.inl hcoll)⟩

end QmkHidIdentify
