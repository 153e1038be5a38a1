import RecordTypes.Proofs.Registry.Direct
import RecordTypes.Proofs.World.Requests

/-!
# Steps of a world

A `Step` is one thing that can happen to a world: a type is declared, an object is made, an instance
is asked for, a slot is to be written.  Requests may be refused.  Only values that exist are handed
over in a step.

Two things hold after every step.  Instances are of closed record types and hold values that exist
(`Sound.step`).  And the world only `Evolves`: types stay what they are, an instance never changes
its type, and an own slot never changes if no property that may be written has its place for a
position (`Step.evolves`).
-/

namespace RecordTypes

open Universe (Grows)

namespace Universe

variable {u v : Universe} {t : TypeId}

/-- A type is a record type with instances. -/
def IsClosed (u : Universe) (t : TypeId) : Prop :=
  ∃ l, u.layout? t = some l ∧ l.shape.isTemplate = false

/-- No property of a type may be written. -/
def IsFixed (u : Universe) (t : TypeId) : Prop := ∀ p ∈ u.properties t, p.canWrite = false

/-- No property of a type is written at a place. -/
def IsFixedAt (u : Universe) (t : TypeId) (i : Nat) : Prop :=
  ∀ p ∈ u.properties t, p.canWrite = true → p.position ≠ i

/-- A type none of whose properties may be written is not written at any place. -/
theorem IsFixed.isFixedAt (h : u.IsFixed t) (i : Nat) : u.IsFixedAt t i := by
  intro p hp hwrite
  exact absurd ((h p hp).symm.trans hwrite) Bool.false_ne_true

/-- Types that are added leave a closed record type what it is. -/
theorem Grows.isClosed (h : Grows u v) (ht : u.IsClosed t) : v.IsClosed t := by
  obtain ⟨l, hl, hshape⟩ := ht
  exact ⟨l, h.layout? hl, hshape⟩

theorem IsClosed.knows (ht : u.IsClosed t) : u.Knows t := by
  obtain ⟨l, hl, -⟩ := ht
  exact knows_of_kind? (layout?_eq_some_iff.mp hl)

/-- A closed record type is neither a template nor a type parameter. -/
theorem IsClosed.isOpen_eq_false (ht : u.IsClosed t) : u.isOpen t = false := by
  obtain ⟨l, hl, hshape⟩ := ht
  have hkind := layout?_eq_some_iff.mp hl
  unfold isOpen isTemplate isParameter shape?
  rw [hl, hkind]
  simpa using hshape

/-- A record type whose properties are writable as the type is mutable is fixed unless it is
mutable. -/
theorem isFixed_of_isRegular {l : Layout} (hl : u.layout? t = some l) (hregular : l.IsRegular)
    (hmutable : l.isMutable = false) : u.IsFixed t := by
  intro p hp
  rw [properties_of_layout? hl] at hp
  obtain ⟨i, hi⟩ := List.mem_iff_getElem?.mp hp
  rw [(hregular i p hi).2, hmutable]

end Universe

namespace World

variable {w w' w'' : World} {r made : InstanceId} {t : TypeId} {v : Value} {heap : Heap}
  {arguments : List Value} {u : Universe}

/-- What can happen to a world.  Requests for instances and requests to write may be refused. -/
inductive Step : World → World → Prop
  | declareClass {w : World} {name : String} {c : ClassInfo} {t : TypeId} {u : Universe}
      (hheld : ∀ m ∈ c.members, w.heap.Holds m.initial)
      (h : w.declareClass name c = .ok (t, u)) : Step w { w with types := u }
  | declareRecord {w : World} (name : String) {l : Layout}
      (hparent : ∀ p ∈ l.parent, w.types.Knows p) :
      Step w { w with types := w.types.add ⟨name, .record l⟩ }
  | declareParameter {w : World} (name : String) (position : Nat) :
      Step w { w with types := w.types.add ⟨name, .parameter position⟩ }
  | newObject {w : World} : Step w { w with heap := w.heap.newObject.2 }
  | create {w : World} (t : TypeId) {arguments : List Value}
      (hheld : ∀ v ∈ arguments, w.heap.Holds v) : Step w (w.afterCreate t arguments)
  | write {w : World} {x : Write} (hheld : w.heap.Holds x.value) : Step w (x.after w)

/-- An instance that is made is a step. -/
theorem step_create (hheld : ∀ v ∈ arguments, w.heap.Holds v)
    (h : w.create t arguments = (.ok made, heap)) : Step w { w with heap } := by
  rw [← afterCreate_of_eq h]
  exact .create t hheld

/-- Instances are of closed record types and hold values that exist. -/
structure Sound (w : World) : Prop where
  closed : ∀ r, w.heap.Holds (.ref r) → w.types.IsClosed (w.heap.cell r).type
  complete : w.heap.Complete

/-- Types and instances were added.  Those there were kept their types, and what they hold in own
slots that no property is written at. -/
structure Evolves (w w' : World) : Prop where
  grows : Grows w.types w'.types
  size_le : w.heap.cells.size ≤ w'.heap.cells.size
  objects_le : w.heap.objects ≤ w'.heap.objects
  type_eq : ∀ r, w.heap.Holds (.ref r) → (w'.heap.cell r).type = (w.heap.cell r).type
  slot_eq : ∀ r, w.heap.Holds (.ref r) → ∀ i, w.types.IsFixedAt (w.heap.cell r).type i →
    (w'.heap.cell r).own[i]? = (w.heap.cell r).own[i]?

/-- Own slots that may not be written stay as they are. -/
theorem Evolves.own_eq (h : Evolves w w') (r : InstanceId) (hr : w.heap.Holds (.ref r))
    (hfixed : w.types.IsFixed (w.heap.cell r).type) :
    (w'.heap.cell r).own = (w.heap.cell r).own :=
  List.ext_getElem? fun i => h.slot_eq r hr i (hfixed.isFixedAt i)

/-- A value that exists goes on existing. -/
theorem Evolves.holds (h : Evolves w w') (hv : w.heap.Holds v) : w'.heap.Holds v :=
  hv.mono h.size_le h.objects_le

/-- A value that exists keeps its type. -/
theorem Evolves.typeOf?_eq (h : Evolves w w') (hv : w.heap.Holds v) :
    w'.heap.typeOf? v = w.heap.typeOf? v := by
  cases v with
  | scalar s => rfl
  | ref r => exact congrArg some (h.type_eq r hv)

/-- A world evolves if types, instances and objects are added and nothing is written. -/
theorem evolves_of_extends (hu : Grows w.types w'.types) (hh : w.heap.Extends w'.heap) :
    Evolves w w' where
  grows := hu
  size_le := hh.size_le
  objects_le := hh.objects_le
  type_eq r hr := congrArg Cell.type (hh.cell_eq r hr)
  slot_eq r hr i _ := congrArg (·.own[i]?) (hh.cell_eq r hr)

/-- The world without types and instances is sound. -/
theorem sound_empty : Sound {} := ⟨fun _ hr => absurd hr (Nat.not_lt_zero _),
  fun _ hr => absurd hr (Nat.not_lt_zero _)⟩

/-! ### The parts that steps are made of -/

/-- A sound world stays sound when types are added. -/
theorem Sound.declare (hw : w.Sound) (hu : Grows w.types u) : Sound { w with types := u } :=
  ⟨fun r hr => hu.isClosed (hw.closed r hr), hw.complete⟩

/-- A world evolves when types are added. -/
theorem evolves_declare (hu : Grows w.types u) : Evolves w { w with types := u } :=
  evolves_of_extends hu ⟨Nat.le_refl _, Nat.le_refl _, fun _ _ => rfl⟩

/-- A request for an instance leaves all instances there were as they are, whether it is granted or
refused. -/
theorem extends_afterCreate (w : World) (t : TypeId) (arguments : List Value) :
    w.heap.Extends (w.afterCreate t arguments).heap := by
  rcases w.create_cases t arguments with ⟨e, hout⟩ | ⟨l, -, -, -, -, hout⟩
  · rw [afterCreate_of_eq hout]
    exact .refl _
  · rw [afterCreate_of_eq hout]
    exact Heap.extends_allocate

/-- A world evolves when an instance is asked for. -/
theorem evolves_afterCreate (w : World) (t : TypeId) (arguments : List Value) :
    Evolves w (w.afterCreate t arguments) :=
  evolves_of_extends .refl (w.extends_afterCreate t arguments)

/-- An instance is made of a closed record type, and holds what it is given. -/
theorem Sound.afterCreate (hw : w.Sound) (t : TypeId) (hheld : ∀ v ∈ arguments, w.heap.Holds v) :
    Sound (w.afterCreate t arguments) := by
  rcases w.create_cases t arguments with ⟨e, hout⟩ | ⟨l, hl, hshape, -, -, hout⟩
  · rw [afterCreate_of_eq hout]
    exact hw
  · rw [afterCreate_of_eq hout]
    refine ⟨fun r hr => ?_, hw.complete.allocate hheld⟩
    show w.types.IsClosed ((w.heap.allocate t arguments l.inherited).2.cell r).type
    rw [Heap.cell_allocate]
    split
    · exact ⟨l, hl, hshape⟩
    · next hne => exact hw.closed r (Heap.holds_of_holds_allocate hr hne)

/-- A sound world stays sound when an instance is made of values that exist. -/
theorem Sound.create (hw : w.Sound) (hheld : ∀ v ∈ arguments, w.heap.Holds v)
    (h : w.create t arguments = (.ok made, heap)) : Sound { w with heap } := by
  rw [← afterCreate_of_eq h]
  exact hw.afterCreate t hheld

section Modify

variable {f : Cell → Cell} (htype : ∀ c, (f c).type = c.type)
include htype

/-- A change that keeps the type of the instance it is made to keeps the types of all. -/
theorem type_cell_modify (hr : w.heap.Holds (.ref made)) :
    ((w.heap.modify r f).cell made).type = (w.heap.cell made).type := by
  rw [Heap.cell_modify _ _ _ _ hr]
  split
  · exact htype _
  · rfl

/-- A world evolves when one instance is changed in slots that a property is written at. -/
theorem evolves_modify (hown : ∀ i, w.types.IsFixedAt (w.heap.cell r).type i →
    (f (w.heap.cell r)).own[i]? = (w.heap.cell r).own[i]?) :
    Evolves w { w with heap := w.heap.modify r f } where
  grows := .refl
  size_le := Nat.le_of_eq (Heap.size_modify _ _ _).symm
  objects_le := Nat.le_refl _
  type_eq s hs := type_cell_modify htype hs
  slot_eq s hs i hfixed := by
    show ((w.heap.modify r f).cell s).own[i]? = _
    rw [Heap.cell_modify _ _ _ _ hs]
    split
    · next hsr =>
      subst hsr
      exact hown i hfixed
    · rfl

/-- A sound world stays sound when an instance is changed to hold other values that exist. -/
theorem Sound.modify (hw : w.Sound)
    (hown : ∀ c, (∀ x ∈ c.own, w.heap.Holds x) → ∀ x ∈ (f c).own, w.heap.Holds x) :
    Sound { w with heap := w.heap.modify r f } := by
  refine ⟨fun s hs => ?_, hw.complete.modify hown⟩
  rw [Heap.holds_modify_iff] at hs
  show w.types.IsClosed ((w.heap.modify r f).cell s).type
  rw [type_cell_modify htype hs]
  exact hw.closed s hs

end Modify

/-! ### Steps -/

/-- Every step adds to the world, and leaves the types of instances and the own slots that no
property is written at as they are. -/
theorem Step.evolves (h : Step w w') : Evolves w w' := by
  cases h with
  | declareClass _ h => exact evolves_declare (Registry.typesGrow_declareClass h)
  | declareRecord name hparent => exact evolves_declare (Grows.refl.add _ hparent)
  | declareParameter name position => exact evolves_declare (Grows.refl.add _ trivial)
  | newObject => exact evolves_of_extends .refl Heap.extends_newObject
  | create t _ => exact w.evolves_afterCreate t _
  | @write x _ =>
    rcases x.outcome_cases w with
      ⟨e, hout⟩ | ⟨name, l, p, -, hl, hp, hwrite, -, -, hout⟩ | ⟨i, m, -, -, -, hout⟩
    · rw [x.after_of_eq hout]
      exact evolves_of_extends .refl (.refl _)
    · rw [x.after_of_eq hout]
      refine evolves_modify (fun _ => rfl) fun i hfixed => ?_
      -- The slot that is written is the one at the position of a property that may be written.
      have hmem : p ∈ w.types.properties (w.heap.cell x.target).type := by
        rw [Universe.properties_of_layout? hl]
        exact Layout.mem_properties_of_property? hp
      exact List.getElem?_set_ne (hfixed p hmem hwrite)
    · rw [x.after_of_eq hout]
      exact evolves_modify (fun _ => rfl) fun _ _ => rfl

/-- Every step keeps instances closed record types and slots full of values that exist. -/
theorem Sound.step (hw : w.Sound) (h : Step w w') : w'.Sound := by
  cases h with
  | declareClass _ h => exact hw.declare (Registry.typesGrow_declareClass h)
  | declareRecord name hparent => exact hw.declare (Grows.refl.add _ hparent)
  | declareParameter name position => exact hw.declare (Grows.refl.add _ trivial)
  | newObject =>
    exact ⟨hw.closed, fun r hr v hv => Heap.extends_newObject.holds (hw.complete r hr v hv)⟩
  | create t hheld => exact hw.afterCreate t hheld
  | @write x hheld =>
    rcases x.outcome_cases w with
      ⟨e, hout⟩ | ⟨name, l, p, -, -, -, -, -, -, hout⟩ | ⟨i, m, -, -, -, hout⟩
    · rw [x.after_of_eq hout]
      exact hw
    · rw [x.after_of_eq hout]
      refine hw.modify (fun _ => rfl) fun c hc v hv => ?_
      rcases List.mem_or_eq_of_mem_set hv with hv | rfl
      · exact hc v hv
      · exact hheld
    · rw [x.after_of_eq hout]
      exact hw.modify (fun _ => rfl) fun _ hc => hc

end World

end RecordTypes
