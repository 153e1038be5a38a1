import RecordTypes.Proofs.World.Slots

/-!
# How many slots there are

An instance is made with a slot for each property and one for each inherited member, and no step
after that changes how many it has (`World.Step.sizes_eq`).  So an instance has as many own slots as
its type has properties for as long as it is there (`World.Steps.length_own`).
-/

namespace RecordTypes

/-- How many slots of its own a cell has, and how many inherited ones. -/
def Cell.sizes (c : Cell) : Nat × Nat := (c.own.length, c.inherited.length)

theorem Heap.sizes_put (h : Heap) (r s : InstanceId) (place : Place) (v : Value) :
    ((h.put r place v).cell s).sizes = (h.cell s).sizes := by
  by_cases hs : h.Holds (.ref s)
  · cases place with
    | own i =>
      rw [put, setOwn, cell_modify _ _ _ _ hs]
      split
      · exact congrArg (·, _) List.length_set
      · rfl
    | inherited i =>
      rw [put, setInherited, cell_modify _ _ _ _ hs]
      split
      · exact congrArg (_, ·) List.length_set
      · rfl
  · cases place with
    | own i => exact congrArg Cell.sizes (cell_modify_of_not_holds h r _ hs)
    | inherited i => exact congrArg Cell.sizes (cell_modify_of_not_holds h r _ hs)

theorem Heap.length_initials (objects : Nat) (members : List InheritedMember) :
    (initials objects members).1.length = members.length :=
  (forall₂_slots_initials objects members).length_eq.symm

namespace World

variable {w w' : World} {r s : InstanceId} {made : Cell}

/-- No step changes how many slots an instance has. -/
theorem Step.sizes_eq (h : Step w w') (hs : w.heap.Holds (.ref s)) :
    (w'.heap.cell s).sizes = (w.heap.cell s).sizes := by
  cases h with
  | declareClass _ _ => rfl
  | declareRecord _ _ => rfl
  | declareParameter _ _ => rfl
  | newObject => rfl
  | @create t arguments _ =>
    exact congrArg Cell.sizes ((w.extends_afterCreate t arguments).cell_eq s hs)
  | @write x _ =>
    rcases x.outcome_cases w with
      ⟨e, hout⟩ | ⟨name, l, p, -, -, -, -, -, -, hout⟩ | ⟨i, m, -, -, -, hout⟩
    · rw [x.after_of_eq hout]
    · rw [x.after_of_eq hout]
      exact w.heap.sizes_put x.target s (.own p.position) x.value
    · rw [x.after_of_eq hout]
      exact w.heap.sizes_put x.target s (.inherited i) x.value

theorem Steps.sizes_eq (h : Steps w w') (hw : w.Sound) (hs : w.heap.Holds (.ref s)) :
    (w'.heap.cell s).sizes = (w.heap.cell s).sizes := by
  induction h with
  | refl => rfl
  | tail h hstep ih => exact (hstep.sizes_eq ((Steps.evolves h hw).holds hs)).trans ih

/-- Every instance has a slot of its own for each property of its type. -/
theorem Steps.length_own (h : Steps {} w) (hr : w.heap.Holds (.ref r)) :
    (w.heap.cell r).own.length = (w.types.properties (w.heap.cell r).type).length := by
  obtain ⟨made, w₀, heap, hstart, hheld, hcreate, rfl, hsteps⟩ := Steps.exists_comesFrom h hr
  obtain ⟨hmade, hknows, -⟩ := cell_of_create hcreate
  have hsound : World.Sound { w₀ with heap } :=
    (Steps.sound hstart sound_empty).create hheld hcreate
  have hevolves : Evolves { w₀ with heap } w := Steps.evolves hsteps hsound
  obtain ⟨l, hl, -, hlength, -⟩ := create_eq_ok_iff.mp hcreate
  have hown : (w.heap.cell r).own.length = (heap.cell r).own.length :=
    congrArg Prod.fst (Steps.sizes_eq hsteps hsound hmade)
  rw [hown, hlength, l.length_constructor, hevolves.type_eq r hmade,
    hevolves.grows.properties_eq hknows, Universe.properties_of_layout? hl]

end World

end RecordTypes
