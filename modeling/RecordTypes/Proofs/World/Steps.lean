import Mathlib.Logic.Relation
import RecordTypes.Proofs.World.Typed

/-!
# From its making on

`Steps` are what can happen to a world in the long run.  An instance `ComesFrom` what its making put
into its slots, if it was made at some time after everything began, by any steps, and any steps led
on from there.  Every instance comes from its making (`Steps.exists_comesFrom`), and what came of it
since is bounded: the type is the one it was made of (`ComesFrom.type_eq`), an own slot still holds
its argument if no property is written at its place (`ComesFrom.slot_eq`), and the slot of an
inherited member that may not be written still holds what it started with
(`ComesFrom.inherited_eq`).
-/

namespace RecordTypes.World

open Universe (Grows)

variable {w w' w'' : World} {r : InstanceId} {t : TypeId} {heap : Heap} {arguments : List Value}
  {made : Cell}

/-! ### Many steps -/

theorem Evolves.inheritedOf_eq (h : Evolves w w') (hw : w.Sound) (hr : w.heap.Holds (.ref r)) :
    w'.inheritedOf r = w.inheritedOf r := by
  unfold inheritedOf layoutOf?
  rw [h.type_eq r hr, h.grows.layout?_eq (hw.closed r hr).knows]

theorem Evolves.trans (h : Evolves w w') (hw : w.Sound) (h' : Evolves w' w'') :
    Evolves w w'' where
  grows := h.grows.trans h'.grows
  size_le := Nat.le_trans h.size_le h'.size_le
  objects_le := Nat.le_trans h.objects_le h'.objects_le
  type_eq r hr := (h'.type_eq r (h.holds hr)).trans (h.type_eq r hr)
  slot_eq r hr i hfixed := by
    -- Where nothing is written in one world nothing is written in the next.
    have hfixed' : w'.types.IsFixedAt (w'.heap.cell r).type i := by
      unfold Universe.IsFixedAt
      rw [h.type_eq r hr, h.grows.properties_eq (hw.closed r hr).knows]
      exact hfixed
    exact (h'.slot_eq r (h.holds hr) i hfixed').trans (h.slot_eq r hr i hfixed)

/-- What can happen to a world in the long run. -/
abbrev Steps : World → World → Prop := Relation.ReflTransGen Step

theorem Steps.sound (h : Steps w w') (hw : w.Sound) : w'.Sound := by
  induction h with
  | refl => exact hw
  | tail _ h ih => exact ih.step h

theorem Steps.evolves (h : Steps w w') (hw : w.Sound) : Evolves w w' := by
  induction h using Relation.ReflTransGen.head_induction_on with
  | refl => exact evolves_of_extends .refl (.refl _)
  | head h _ ih => exact h.evolves.trans hw (ih (hw.step h))

theorem Steps.typed (h : Steps w w') (hw : w.Typed) : w'.Typed := by
  induction h with
  | refl => exact hw
  | tail _ h ih => exact ih.step h

/-- In the long run, too, the slot of an inherited member that may not be written stays as it is. -/
theorem Steps.inherited_eq (h : Steps w w') (hw : w.Sound) (hr : w.heap.Holds (.ref r)) {i : Nat}
    {m : InheritedMember} (hm : (w.inheritedOf r)[i]? = some m)
    (hfixed : m.member.canWrite = false) :
    (w'.heap.cell r).inherited[i]? = (w.heap.cell r).inherited[i]? := by
  induction h with
  | refl => rfl
  | @tail v v' h hstep ih =>
    have hevolves : Evolves w v := Steps.evolves h hw
    have hm' : (v.inheritedOf r)[i]? = some m := by
      rw [hevolves.inheritedOf_eq hw hr]
      exact hm
    exact (hstep.inherited_eq (hevolves.holds hr) hm' hfixed).trans ih

/-! ### Makings -/

/-- Whatever exists after a step was there before, or the step made it. -/
theorem Step.holds_or_create (h : Step w w') (hr : w'.heap.Holds (.ref r)) :
    w.heap.Holds (.ref r) ∨ ∃ t arguments heap, (∀ v ∈ arguments, w.heap.Holds v) ∧
      w.create t arguments = (.ok r, heap) ∧ w' = { w with heap } := by
  cases h with
  | declareClass _ _ => exact .inl hr
  | declareRecord _ _ => exact .inl hr
  | declareParameter _ _ => exact .inl hr
  | newObject => exact .inl hr
  | @create t arguments hheld =>
    rcases w.create_cases t arguments with ⟨e, hout⟩ | ⟨l, -, -, -, -, hout⟩
    · rw [afterCreate_of_eq hout] at hr
      exact .inl hr
    · rw [afterCreate_of_eq hout] at hr ⊢
      by_cases hnew : r = w.heap.next
      · exact .inr ⟨t, arguments, _, hheld, hnew ▸ hout, rfl⟩
      · exact .inl (Heap.holds_of_holds_allocate hr hnew)
  | @write x _ =>
    left
    rcases x.outcome_cases w with
      ⟨e, hout⟩ | ⟨name, l, p, -, -, -, -, -, -, hout⟩ | ⟨i, m, -, -, -, hout⟩
    · rw [x.after_of_eq hout] at hr
      exact hr
    · rw [x.after_of_eq hout] at hr
      exact Heap.holds_modify_iff.mp hr
    · rw [x.after_of_eq hout] at hr
      exact Heap.holds_modify_iff.mp hr

/-- What an instance is when it is made. -/
theorem cell_of_create (h : w.create t arguments = (.ok r, heap)) :
    heap.Holds (.ref r) ∧ w.types.Knows t ∧ (heap.cell r).type = t ∧
      (heap.cell r).own = arguments := by
  obtain ⟨l, hl, -, -, -, hout⟩ := create_eq_ok_iff.mp h
  obtain ⟨rfl, hheap⟩ := Prod.mk.inj hout
  obtain rfl : heap = (w.heap.allocate t arguments l.inherited).2 := hheap
  rw [Heap.cell_allocate_next]
  exact ⟨Heap.holds_allocate_next _ _ _ _,
    Universe.knows_of_kind? (Universe.layout?_eq_some_iff.mp hl), rfl, rfl⟩

/-- An instance was made with the slots `made`, and steps led from there to the world `w`. -/
def ComesFrom (w : World) (r : InstanceId) (made : Cell) : Prop :=
  ∃ w₀ heap, Steps {} w₀ ∧ (∀ v ∈ made.own, w₀.heap.Holds v) ∧
    w₀.create made.type made.own = (.ok r, heap) ∧ heap.cell r = made ∧
    Steps { w₀ with heap } w

/-- Every instance comes from its making. -/
theorem Steps.exists_comesFrom (h : Steps {} w) (hr : w.heap.Holds (.ref r)) :
    ∃ made, w.ComesFrom r made := by
  induction h with
  | refl => exact absurd hr (Nat.not_lt_zero _)
  | @tail v v' h hstep ih =>
    rcases hstep.holds_or_create hr with hold | ⟨t, arguments, heap, hheld, hcreate, rfl⟩
    · obtain ⟨made, w₀, heap, hstart, hheld, hcreate, hcell, hsteps⟩ := ih hold
      exact ⟨made, w₀, heap, hstart, hheld, hcreate, hcell, hsteps.tail hstep⟩
    · obtain ⟨-, -, htype, hown⟩ := cell_of_create hcreate
      refine ⟨heap.cell r, v, heap, h, ?_, ?_, rfl, .refl⟩
      · rw [hown]
        exact hheld
      · rw [htype, hown]
        exact hcreate

/-- The steps since the making keep what steps keep. -/
theorem ComesFrom.steps (h : w.ComesFrom r made) : ∃ v : World, Steps v w ∧ v.Sound ∧
    v.heap.Holds (.ref r) ∧ v.types.Knows made.type ∧ v.heap.cell r = made := by
  obtain ⟨w₀, heap, hstart, hheld, hcreate, hcell, hsteps⟩ := h
  obtain ⟨hr, hknows, -⟩ := cell_of_create hcreate
  have hsound : w₀.Sound := Steps.sound hstart sound_empty
  exact ⟨{ w₀ with heap }, hsteps, hsound.create hheld hcreate, hr, hknows, hcell⟩

theorem ComesFrom.type_eq (h : w.ComesFrom r made) : (w.heap.cell r).type = made.type := by
  obtain ⟨v, hsteps, hv, hr, -, rfl⟩ := h.steps
  exact (Steps.evolves hsteps hv).type_eq r hr

/-- An own slot that no property is written at holds the argument of the constructor for good. -/
theorem ComesFrom.slot_eq (h : w.ComesFrom r made) {i : Nat}
    (hfixed : w.types.IsFixedAt made.type i) : (w.heap.cell r).own[i]? = made.own[i]? := by
  obtain ⟨v, hsteps, hv, hr, hknows, rfl⟩ := h.steps
  have hevolves : Evolves v w := Steps.evolves hsteps hv
  apply hevolves.slot_eq r hr i
  intro p hp
  apply hfixed p
  rw [hevolves.grows.properties_eq hknows]
  exact hp

/-- Slots that may not be written hold the arguments of the constructor for good. -/
theorem ComesFrom.own_eq (h : w.ComesFrom r made) (hfixed : w.types.IsFixed made.type) :
    (w.heap.cell r).own = made.own :=
  List.ext_getElem? fun i => h.slot_eq (hfixed.isFixedAt i)

theorem ComesFrom.inherited_eq (h : w.ComesFrom r made) {i : Nat} {m : InheritedMember}
    (hm : (w.inheritedOf r)[i]? = some m) (hfixed : m.member.canWrite = false) :
    (w.heap.cell r).inherited[i]? = made.inherited[i]? := by
  obtain ⟨v, hsteps, hv, hr, -, rfl⟩ := h.steps
  rw [(Steps.evolves hsteps hv).inheritedOf_eq hv hr] at hm
  exact Steps.inherited_eq hsteps hv hr hm hfixed

end RecordTypes.World
