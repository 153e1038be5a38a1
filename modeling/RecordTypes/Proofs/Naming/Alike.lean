import RecordTypes.Proofs.Foundry.Direct

/-!
# Universes that differ in names

Two universes are alike if they hold the same types in the same order, by whatever names.  All that
the checks and the backend look at is what a type is, never what it is called, so it is the same in
both.  The castings that the direct backend answers with are for the same kinds of types, too,
however the types are called that it is asked for (`Alike.define`, `Alike.close`).
-/

namespace RecordTypes

namespace Universe

/-- Two universes hold the same types in the same order, by whatever names. -/
structure Alike (u u' : Universe) : Prop where
  size_eq : u'.entries.size = u.entries.size
  kind?_eq : ∀ t, u'.kind? t = u.kind? t

theorem Alike.refl (u : Universe) : Alike u u := ⟨rfl, fun _ => rfl⟩

namespace Alike

variable {u u' : Universe} (h : Alike u u')
include h

/-- The next type to be declared gets the same identity in both. -/
theorem next_eq : u'.next = u.next := congrArg TypeId.declared h.size_eq

/-! ### What a type is -/

theorem layout?_eq (t : TypeId) : u'.layout? t = u.layout? t := by
  rw [layout?, layout?, h.kind?_eq]

theorem class?_eq (t : TypeId) : u'.class? t = u.class? t := by
  rw [class?, class?, h.kind?_eq]

theorem isTemplate_eq (t : TypeId) : u'.isTemplate t = u.isTemplate t := by
  rw [isTemplate, isTemplate, shape?, shape?, h.layout?_eq]

/-- The same types are templates or type parameters. -/
theorem isOpen_eq : u'.isOpen = u.isOpen := by
  funext t
  rw [isOpen, isOpen, h.isTemplate_eq, isParameter, isParameter, h.kind?_eq]

theorem properties_eq (t : TypeId) : u'.properties t = u.properties t := by
  rw [properties, properties, h.layout?_eq]

/-! ### Ancestry -/

theorem base?_eq (t : TypeId) : u'.base? t = u.base? t := by
  rw [base?, base?, h.kind?_eq]

/-- A type has the same ancestors in both. -/
theorem ancestorsWithin_eq (fuel : Nat) (t : TypeId) :
    u'.ancestorsWithin fuel t = u.ancestorsWithin fuel t := by
  induction fuel generalizing t with
  | zero => rfl
  | succ fuel ih =>
    rw [ancestorsWithin, ancestorsWithin, h.base?_eq]
    cases u.base? t with
    | none => rfl
    | some b => exact congrArg (b :: ·) (ih b)

/-- The same types derive from one another. -/
theorem derives_eq (t ancestor : TypeId) : u'.derives t ancestor = u.derives t ancestor := by
  rw [derives, derives, ancestors, ancestors, h.ancestorsWithin_eq]

/-- A type takes values of the same types in both. -/
theorem admits_eq (t : TypeId) (actual : Option TypeId) :
    u'.admits t actual = u.admits t actual := by
  cases actual with
  | none =>
    show u'.isNullable t = u.isNullable t
    rw [isNullable, isNullable, h.kind?_eq]
  | some a =>
    show u'.isAssignable t a = u.isAssignable t a
    rw [isAssignable, isAssignable, h.derives_eq]

/-- A type inherits from the same classes. -/
theorem classesWithin_eq (fuel : Nat) (t : TypeId) :
    u'.classesWithin fuel t = u.classesWithin fuel t := by
  induction fuel generalizing t with
  | zero => rfl
  | succ fuel ih =>
    have hbases : u'.classesWithin fuel = u.classesWithin fuel := funext ih
    rw [classesWithin, classesWithin, h.class?_eq, hbases]

/-- A class has the same members in both, its own and inherited ones. -/
theorem members_eq (t : TypeId) : u'.members t = u.members t := by
  rw [members, members, classes, classes, h.classesWithin_eq]

/-- A parent passes on the same members in both. -/
theorem membersOver_eq (parent : Option TypeId) : u'.membersOver parent = u.membersOver parent := by
  cases parent with
  | none => rfl
  | some p => exact h.members_eq p

end Alike

end Universe

/-! ### Castings -/

section MapIdx

variable {α β γ : Type}

theorem mapIdx_map (f : α → β) (g : Nat → β → γ) (l : List α) :
    (l.map f).mapIdx g = l.mapIdx fun i a => g i (f a) := by
  apply List.ext_getElem?
  intro i
  rw [List.getElem?_mapIdx, List.getElem?_mapIdx, List.getElem?_map, Option.map_map]
  rfl

theorem map_mapIdx (f : Nat → α → β) (g : β → γ) (l : List α) :
    (l.mapIdx f).map g = l.mapIdx fun i a => g (f i a) := by
  apply List.ext_getElem?
  intro i
  rw [List.getElem?_map, List.getElem?_mapIdx, List.getElem?_mapIdx, Option.map_map]
  rfl

end MapIdx

/-- Two castings are for the same kinds of types, or both for none. -/
structure Casting.Alike (c c' : Casting) : Prop where
  auxiliary : c'.auxiliary.map (·.kind) = c.auxiliary.map (·.kind)
  outcome : c'.outcome.toOption.map (·.kind) = c.outcome.toOption.map (·.kind)

theorem Casting.alike_fail (reason reason' : String) :
    Alike (.fail reason) (.fail reason') := ⟨rfl, rfl⟩

namespace Universe.Alike

variable {u u' : Universe}

/-- Universes stay alike when the same kind of type is added to both. -/
theorem add (h : Alike u u') {d d' : Descriptor} (hd : d'.kind = d.kind) :
    Alike (u.add d) (u'.add d') := by
  constructor
  · show (u'.entries.push _).size = (u.entries.push _).size
    rw [Array.size_push, Array.size_push, h.size_eq]
  · intro t
    rw [kind?_add, kind?_add, h.next_eq, h.kind?_eq, hd]

/-- Universes stay alike when types of the same kinds are added to both, in the same order. -/
theorem addAll (h : Alike u u') {ds ds' : List Descriptor}
    (hds : ds'.map (·.kind) = ds.map (·.kind)) : Alike (u.addAll ds) (u'.addAll ds') := by
  induction ds generalizing u u' ds' with
  | nil =>
    obtain rfl : ds' = [] := List.map_eq_nil_iff.mp hds
    exact h
  | cons d ds ih =>
    obtain ⟨d', ds', rfl, hd, hds⟩ := List.map_eq_cons_iff.mp hds
    exact ih (h.add hd) hds

/-- A request for a template is answered in the same way however the naming would have it called. -/
theorem define (h : Alike u u') (n n' : Naming) (index : Nat) (names : List String)
    (isMutable : Bool) (parent : Option TypeId) :
    (Direct.define u (n.request index names isMutable parent)).Alike
      (Direct.define u' (n'.request index names isMutable parent)) := by
  have hparameters : Direct.parameters u' (names.map n'.parameterName) =
      Direct.parameters u (names.map n.parameterName) := by
    rw [Direct.parameters, Direct.parameters, h.size_eq, mapIdx_map, mapIdx_map]
  have hkinds : ∀ n : Naming, ((names.map n.parameterName).mapIdx fun i name =>
      Descriptor.mk name (.parameter i)).map (·.kind) = names.mapIdx fun i _ => .parameter i := by
    intro n
    rw [map_mapIdx, mapIdx_map]
  rw [Direct.define_eq u (List.length_map _), Direct.define_eq u' (List.length_map _)]
  refine ⟨(hkinds n').trans (hkinds n).symm, ?_⟩
  dsimp only [Except.toOption, Option.map_some, Naming.request]
  rw [hparameters, h.membersOver_eq]

/-- A template is closed in the same way whatever it is called. -/
theorem close (h : Alike u u') (template : TypeId) (arguments : List TypeId) :
    (Direct.close u template arguments).Alike (Direct.close u' template arguments) := by
  rcases hl : u.layout? template with _ | l
  · have hl' : u'.layout? template = none := by rw [h.layout?_eq, hl]
    rw [Direct.close, Direct.close, hl, hl']
    exact Casting.alike_fail _ _
  · have hl' : u'.layout? template = some l := by rw [h.layout?_eq, hl]
    by_cases harity : l.arity = arguments.length
    · rw [Direct.close_eq u hl harity, Direct.close_eq u' hl' harity, h.membersOver_eq]
      exact ⟨rfl, rfl⟩
    · rw [Direct.close, Direct.close, hl, hl']
      dsimp only
      rw [if_neg harity, if_neg harity]
      exact Casting.alike_fail _ _

end Universe.Alike

end RecordTypes
