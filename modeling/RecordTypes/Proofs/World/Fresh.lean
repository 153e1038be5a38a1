import Mathlib.Data.List.Forall2
import RecordTypes.Proofs.Registry.Instances
import RecordTypes.Proofs.World.Writes

/-!
# Objects of instances

A member of a class that starts with a plain object starts with a new one in every instance.  The
objects that the inherited slots of an instance start with are numbered on from those made before
(`Heap.objects_initials`), so one is made for each such member, and no two slots share one.

That a new number was never seen before is a matter of all that happened: an object `Occurs` in the
slots of instances and among the members of classes, and every object that occurs was made at some
time (`Changes.grounded`).  This is kept by whatever happens to a world, also if record types come
from other backends than the direct one, as long as nothing is handed over that does not exist.  So
inherited objects are shared neither among instances nor with classes, and a request that fails
makes none (`Changes.inherited_objects`).
-/

namespace RecordTypes

/-- The object that a value is. -/
def Value.object? : Value → Option ObjectId
  | .scalar (.object o) => some o
  | _ => none

namespace Value

variable {v : Value} {o : ObjectId}

theorem object?_eq_some_iff : v.object? = some o ↔ v = .scalar (.object o) := by
  cases v with
  | ref r => exact ⟨nofun, nofun⟩
  | scalar s =>
    cases s with
    | object o' =>
      rw [object?, Option.some.injEq, Value.scalar.injEq, Scalar.object.injEq]
    | _ => simp [object?]

theorem object?_of_isObject_eq_false (h : v.isObject = false) : v.object? = none := by
  rw [Option.eq_none_iff_forall_ne_some]
  intro o ho
  rw [object?_eq_some_iff.mp ho] at h
  exact absurd h.symm Bool.false_ne_true

end Value

/-- Whether an inherited member starts with an object. -/
def InheritedMember.startsWithObject (m : InheritedMember) : Bool := m.member.initial.isObject

namespace Heap

open InheritedMember (startsWithObject)

/-! ### What inherited slots start with -/

theorem snd_initials (objects : Nat) (members : List InheritedMember) :
    (initials objects members).2 = objects + members.countP startsWithObject := by
  induction members generalizing objects with
  | nil => rfl
  | cons m rest ih =>
    unfold initials
    rw [List.countP_cons, startsWithObject]
    split
    · rw [ih]
      omega
    · rw [ih]
      omega

/-- Objects are numbered on in the order of the slots. -/
theorem objects_initials (objects : Nat) (members : List InheritedMember) :
    (initials objects members).1.filterMap Value.object? =
      (List.range' (objects + 1) (members.countP startsWithObject)).map ObjectId.mk := by
  induction members generalizing objects with
  | nil => rfl
  | cons m rest ih =>
    unfold initials
    rw [List.countP_cons, startsWithObject]
    split
    · rw [List.range'_succ, List.map_cons, ← ih (objects + 1)]
      rfl
    · next hobject =>
      have hnone : m.member.initial.object? = none :=
        Value.object?_of_isObject_eq_false (by simpa using hobject)
      rw [List.filterMap_cons_none hnone]
      exact ih objects

/-- A slot starts with an object if its member does, and else with what the member does. -/
theorem forall₂_slots_initials (objects : Nat) (members : List InheritedMember) :
    List.Forall₂
      (fun m v =>
        if m.startsWithObject then ∃ o, v = .scalar (.object o) else v = m.member.initial)
      members (initials objects members).1 := by
  induction members generalizing objects with
  | nil => exact .nil
  | cons m rest ih =>
    unfold initials
    split
    · next hobject =>
      exact .cons (by rw [startsWithObject, if_pos hobject]; exact ⟨_, rfl⟩) (ih _)
    · next hobject =>
      exact .cons (by rw [startsWithObject, if_neg hobject]) (ih _)

/-- The objects that the slots start with are those from the next number on. -/
theorem mem_initials_iff {objects : Nat} {members : List InheritedMember} {o : ObjectId} :
    .scalar (.object o) ∈ (initials objects members).1 ↔
      objects < o.number ∧ o.number ≤ (initials objects members).2 := by
  have hmem : .scalar (.object o) ∈ (initials objects members).1 ↔
      o ∈ (initials objects members).1.filterMap Value.object? := by
    rw [List.mem_filterMap]
    simp only [Value.object?_eq_some_iff, exists_eq_right]
  rw [hmem, objects_initials, snd_initials, List.mem_map]
  simp only [List.mem_range'_1]
  constructor
  · rintro ⟨n, hn, rfl⟩
    dsimp only
    omega
  · intro hn
    exact ⟨o.number, by omega, rfl⟩

/-- An object was made between one heap and another. -/
def MakesObject (h h' : Heap) (o : ObjectId) : Prop :=
  h'.Holds (.scalar (.object o)) ∧ ¬ h.Holds (.scalar (.object o))

/-- Between two heaps, one object was made for each inherited member that starts with an object.
The slot of such a member holds an object that was made, no other slot holds the same, and none was
made beside these.  Every other slot holds what its member starts with. -/
structure Furnished (h h' : Heap) (members : List InheritedMember) (slots : List Value) : Prop where
  objects : h'.objects = h.objects + members.countP startsWithObject
  starts : List.Forall₂
    (fun m v => if m.startsWithObject then ∃ o, v = .scalar (.object o) ∧ h.MakesObject h' o
      else v = m.member.initial) members slots
  distinct : (slots.filterMap Value.object?).Nodup
  mem_iff : ∀ o, .scalar (.object o) ∈ slots ↔ h.MakesObject h' o

theorem furnished_allocate (h : Heap) (t : TypeId) (own : List Value)
    (members : List InheritedMember) :
    Furnished h (h.allocate t own members).2 members (initials h.objects members).1 := by
  have hmem (o : ObjectId) : .scalar (.object o) ∈ (initials h.objects members).1 ↔
      h.MakesObject (h.allocate t own members).2 o := by
    rw [mem_initials_iff, and_comm]
    exact and_congr_right fun _ => Nat.not_le.symm
  refine ⟨snd_initials _ _, ?_, ?_, hmem⟩
  · obtain ⟨hlength, hall⟩ := List.forall₂_iff_zip.mp (forall₂_slots_initials h.objects members)
    refine List.forall₂_iff_zip.mpr ⟨hlength, fun {m v} hzip => ?_⟩
    have hslot := hall hzip
    split at hslot
    · next hobject =>
      obtain ⟨o, rfl⟩ := hslot
      rw [if_pos hobject]
      exact ⟨o, rfl, (hmem o).mp (List.of_mem_zip hzip).2⟩
    · next hobject =>
      rw [if_neg hobject]
      exact hslot
  · rw [objects_initials]
    exact List.Nodup.map (fun _ _ heq => congrArg ObjectId.number heq) List.nodup_range'

end Heap

namespace World

open Registry (Call perform make object slotType)

variable {w w' : World} {made r : InstanceId} {t : TypeId} {arguments : List Value} {heap : Heap}
  {o : ObjectId} {u : Universe}

/-! ### Where objects occur -/

/-- An object is in a slot of an instance, or a member of a class starts with it. -/
inductive Occurs (w : World) (o : ObjectId) : Prop
  | slot {r : InstanceId} (hr : w.heap.Holds (.ref r))
      (h : .scalar (.object o) ∈ (w.heap.cell r).own ++ (w.heap.cell r).inherited)
  | initial {t : TypeId} {c : ClassInfo} {m : Member} (hc : w.types.class? t = some c)
      (hm : m ∈ c.members) (h : m.initial = .scalar (.object o))

/-- Every object that occurs was made at some time. -/
def Grounded (w : World) : Prop := ∀ o, w.Occurs o → w.heap.Holds (.scalar (.object o))

/-! ### What happens to a world -/

/-- Whatever can happen to a world, with types from anywhere: new classes only have to start with
values that exist.  Requests may be refused. -/
inductive Change : World → World → Prop
  | types {w : World} {u : Universe}
      (hheld : ∀ t c, u.class? t = some c → w.types.class? t = some c ∨
        ∀ m ∈ c.members, w.heap.Holds m.initial) : Change w { w with types := u }
  | newObject {w : World} : Change w { w with heap := w.heap.newObject.2 }
  | create {w : World} (t : TypeId) {arguments : List Value}
      (hheld : ∀ v ∈ arguments, w.heap.Holds v) : Change w (w.afterCreate t arguments)
  | write {w : World} {x : Write} (hheld : w.heap.Holds x.value) : Change w (x.after w)

/-- Whatever can happen to a world in the long run. -/
abbrev Changes : World → World → Prop := Relation.ReflTransGen Change

theorem change_add {d : Descriptor}
    (hd : ∀ c, d.kind = .nominal c → ∀ m ∈ c.members, w.heap.Holds m.initial) :
    Change w { w with types := w.types.add d } := by
  refine .types fun t c hc => ?_
  rw [Universe.class?_eq_some_iff, Universe.kind?_add] at hc
  split at hc
  · exact .inr (hd c (Option.some.inj hc))
  · exact .inl (Universe.class?_eq_some_iff.mpr hc)

/-- Steps are changes. -/
theorem Step.change (h : Step w w') : Change w w' := by
  cases h with
  | declareClass hheld h =>
    obtain ⟨rfl, -, -⟩ := declareClass_cases h
    exact change_add fun _ hkind => Kind.nominal.inj hkind ▸ hheld
  | declareRecord name hparent => exact change_add nofun
  | declareParameter name position => exact change_add nofun
  | newObject => exact .newObject
  | create t hheld => exact .create t hheld
  | write hheld => exact .write hheld

theorem Steps.changes (h : Steps w w') : Changes w w' :=
  Relation.ReflTransGen.mono (fun _ _ h => h.change) _ _ h

/-- A call for an object is refused, or comes to a request for an instance in a world with more
types. -/
theorem object_cases {σ : Type} (b : Backend σ) (registry : Registry σ) (w : World)
    (values : Fields Value) (type : Option TypeId) :
    let out := object b registry w values type
    (∃ u e, out.1 = .error e ∧ out.2.2 = { w with types := u }) ∨
    ∃ u t arguments, (∀ v ∈ arguments, v ∈ values.values) ∧
      out.1 = (World.create { w with types := u } t arguments).1 ∧
      out.2.2 = World.afterCreate { w with types := u } t arguments := by
  intro out
  cases type with
  | none =>
    change (∃ u e, (make b registry w values).1 = _ ∧ (make b registry w values).2.2 = _) ∨
      ∃ u t arguments, _ ∧ (make b registry w values).1 = _ ∧ (make b registry w values).2.2 = _
    unfold make
    rcases Registry.recordType b registry w.types (values.map (slotType w.heap)) {} with
      ⟨e | t, registry', u⟩
    · exact .inl ⟨u, e, rfl, rfl⟩
    · exact .inr ⟨u, t, values.values, fun v hv => hv, rfl, rfl⟩
  | some t =>
    change (∃ u e, (w.createNamed t values).1 = _ ∧
        World.mk w.types (w.createNamed t values).2 = _) ∨
      ∃ u t' arguments, _ ∧ (w.createNamed t values).1 = _ ∧
        World.mk w.types (w.createNamed t values).2 = _
    rcases w.createNamed_cases t values with ⟨e, hout⟩ | ⟨arguments, hout, hmem⟩
    · rw [hout]
      exact .inl ⟨w.types, e, rfl, rfl⟩
    · rw [hout]
      exact .inr ⟨w.types, t, arguments, hmem, rfl, rfl⟩

/-- Calls are changes, whatever the backend, if it declares classes with values that exist. -/
theorem changes_perform {σ : Type} (b : Backend σ) (registry : Registry σ) {c : Call}
    (hheld : c.ValuesExist w.heap)
    (hclasses : ∀ t info, (perform b registry w c).2.2.types.class? t = some info →
      w.types.class? t = some info ∨ ∀ m ∈ info.members, w.heap.Holds m.initial) :
    Changes w (perform b registry w c).2.2 := by
  cases c with
  | object values type =>
    change ∀ t info, (object b registry w values type).2.2.types.class? t = _ → _ at hclasses
    show Changes w (object b registry w values type).2.2
    rcases object_cases b registry w values type with
      ⟨u, e, -, hout⟩ | ⟨u, t, arguments, harguments, -, hout⟩
    · rw [hout] at hclasses ⊢
      exact .single (.types hclasses)
    · -- Types are declared, and then an instance is asked for.
      rw [hout] at hclasses ⊢
      exact .tail (.single (.types hclasses))
        (.create t fun v hv => hheld v (harguments v hv))
  | recordType fields options => exact .single (.types hclasses)
  | template names options => exact .single (.types hclasses)
  | close template arguments => exact .single (.types hclasses)
  | rename naming => exact .refl
  | castTemplate names isMutable parent => exact .single (.types hclasses)
  | castClosed template arguments => exact .single (.types hclasses)

/-! ### Objects that occur were made -/

theorem Grounded.types (hw : w.Grounded) (hheld : ∀ t c, u.class? t = some c →
    w.types.class? t = some c ∨ ∀ m ∈ c.members, w.heap.Holds m.initial) :
    Grounded { w with types := u } := by
  rintro o (⟨hr, h⟩ | ⟨hc, hm, h⟩)
  · exact hw o (.slot hr h)
  · rcases hheld _ _ hc with hold | hnew
    · exact hw o (.initial hold hm h)
    · have hinitial := hnew _ hm
      rw [h] at hinitial
      exact hinitial

theorem Grounded.newObject (hw : w.Grounded) :
    Grounded { w with heap := w.heap.newObject.2 } := by
  rintro o (⟨hr, h⟩ | ⟨hc, hm, h⟩)
  · exact Heap.extends_newObject.holds (hw o (.slot hr h))
  · exact Heap.extends_newObject.holds (hw o (.initial hc hm h))

/-- A new instance holds its arguments, and objects that were made for it. -/
theorem Grounded.allocate (hw : w.Grounded) (hheld : ∀ v ∈ arguments, w.heap.Holds v)
    (members : List InheritedMember) :
    Grounded { w with heap := (w.heap.allocate t arguments members).2 } := by
  rintro o (⟨hr, h⟩ | ⟨hc, hm, h⟩)
  · rw [Heap.cell_allocate] at h
    split at h
    · rcases List.mem_append.mp h with hown | hinherited
      · exact Heap.extends_allocate.holds (hheld _ hown)
      · exact (Heap.mem_initials_iff.mp hinherited).2
    · next hne =>
      exact Heap.extends_allocate.holds (hw o (.slot (Heap.holds_of_holds_allocate hr hne) h))
  · exact Heap.extends_allocate.holds (hw o (.initial hc hm h))

/-- An instance may be changed if that brings nothing in that was never made. -/
theorem Grounded.modify (hw : w.Grounded) {f : Cell → Cell}
    (hslots : ∀ c, ∀ v ∈ (f c).own ++ (f c).inherited,
      v ∈ c.own ++ c.inherited ∨ w.heap.Holds v) :
    Grounded { w with heap := w.heap.modify r f } := by
  rintro o (⟨hs, h⟩ | ⟨hc, hm, h⟩)
  · rw [Heap.holds_modify_iff] at hs ⊢
    rw [Heap.cell_modify _ _ _ _ hs] at h
    split at h
    · rcases hslots _ _ h with hold | hnew
      · exact hw o (.slot hs hold)
      · exact hnew
    · exact hw o (.slot hs h)
  · exact Heap.holds_modify_iff.mpr (hw o (.initial hc hm h))

theorem Grounded.setOwn (hw : w.Grounded) {v : Value} (hv : w.heap.Holds v) (i : Nat) :
    Grounded { w with heap := w.heap.setOwn r i v } := by
  refine hw.modify fun c x hx => ?_
  rcases List.mem_append.mp hx with hx | hx
  · rcases List.mem_or_eq_of_mem_set hx with hx | rfl
    · exact .inl (List.mem_append_left _ hx)
    · exact .inr hv
  · exact .inl (List.mem_append_right _ hx)

theorem Grounded.setInherited (hw : w.Grounded) {v : Value} (hv : w.heap.Holds v) (i : Nat) :
    Grounded { w with heap := w.heap.setInherited r i v } := by
  refine hw.modify fun c x hx => ?_
  rcases List.mem_append.mp hx with hx | hx
  · exact .inl (List.mem_append_left _ hx)
  · rcases List.mem_or_eq_of_mem_set hx with hx | rfl
    · exact .inl (List.mem_append_right _ hx)
    · exact .inr hv

/-- Whatever happens to a world, every object that occurs was made at some time. -/
theorem Grounded.change (hw : w.Grounded) (h : Change w w') : w'.Grounded := by
  cases h with
  | types hheld => exact hw.types hheld
  | newObject => exact hw.newObject
  | @create t arguments hheld =>
    rcases w.create_cases t arguments with ⟨e, hout⟩ | ⟨l, -, -, -, -, hout⟩
    · rw [afterCreate_of_eq hout]
      exact hw
    · rw [afterCreate_of_eq hout]
      exact hw.allocate hheld l.inherited
  | @write x hheld =>
    rcases x.outcome_cases w with
      ⟨e, hout⟩ | ⟨name, l, p, -, -, -, -, -, -, hout⟩ | ⟨i, m, -, -, -, hout⟩
    · rw [x.after_of_eq hout]
      exact hw
    · rw [x.after_of_eq hout]
      exact hw.setOwn hheld p.position
    · rw [x.after_of_eq hout]
      exact hw.setInherited hheld i

theorem Changes.grounded (h : Changes {} w) : w.Grounded := by
  induction h with
  | refl =>
    rintro o (⟨hr, -⟩ | @⟨t, c, m, hc, -, -⟩)
    · exact absurd hr (Nat.not_lt_zero _)
    · cases t <;> exact absurd hc nofun
  | tail _ h ih => exact ih.change h

/-- No object is made by writing. -/
theorem Write.objects_after (w : World) (x : Write) :
    (x.after w).heap.objects = w.heap.objects := by
  rcases x.outcome_cases w with
    ⟨e, hout⟩ | ⟨name, l, p, -, -, -, -, -, -, hout⟩ | ⟨i, m, -, -, -, hout⟩
  · rw [x.after_of_eq hout]
  · rw [x.after_of_eq hout]
    rfl
  · rw [x.after_of_eq hout]
    rfl

/-- Objects are never forgotten. -/
theorem Change.objects_le (h : Change w w') : w.heap.objects ≤ w'.heap.objects := by
  cases h with
  | types _ => exact Nat.le_refl _
  | newObject => exact Nat.le_succ _
  | @create t arguments _ => exact (w.evolves_afterCreate t arguments).objects_le
  | @write x _ => exact Nat.le_of_eq (x.objects_after w).symm

theorem Changes.objects_le (h : Changes w w') : w.heap.objects ≤ w'.heap.objects := by
  induction h with
  | refl => exact Nat.le_refl _
  | tail _ h ih => exact Nat.le_trans ih h.objects_le

/-! ### Objects for new instances -/

/-- An instance was made between two worlds, and its inherited slots are furnished. -/
structure Makes (w w' : World) (made : InstanceId) : Prop where
  new : ¬ w.heap.Holds (.ref made) ∧ w'.heap.Holds (.ref made)
  furnished : Heap.Furnished w.heap w'.heap (w'.inheritedOf made) (w'.heap.cell made).inherited

theorem makes_afterCreate (h : (w.create t arguments).1 = .ok made) :
    Makes w (w.afterCreate t arguments) made := by
  have hcreate : w.create t arguments = (.ok made, (w.create t arguments).2) := Prod.ext h rfl
  obtain ⟨l, hl, -, -, -, hout⟩ := create_eq_ok_iff.mp hcreate
  obtain ⟨rfl, hheap⟩ := Prod.mk.inj hout
  rw [afterCreate, show (w.create t arguments).2 = (w.heap.allocate t arguments l.inherited).2
    from hheap]
  have hcell := Heap.cell_allocate_next w.heap t arguments l.inherited
  have hinherited : inheritedOf { w with heap := (w.heap.allocate t arguments l.inherited).2 }
      w.heap.next = l.inherited := by
    apply inheritedOf_of_layoutOf?
    show w.types.layout? ((w.heap.allocate t arguments l.inherited).2.cell w.heap.next).type = _
    rw [hcell]
    exact hl
  refine ⟨⟨fun hholds => Heap.ne_next_of_holds hholds rfl, Heap.holds_allocate_next _ _ _ _⟩, ?_⟩
  show Heap.Furnished _ _ _ ((w.heap.allocate t arguments l.inherited).2.cell w.heap.next).inherited
  rw [hinherited, hcell]
  exact Heap.furnished_allocate _ _ _ _

/-- A call for an object makes an instance, of whatever type. -/
theorem makes_object {σ : Type} (b : Backend σ) (registry : Registry σ) {values : Fields Value}
    {type : Option TypeId} (h : (object b registry w values type).1 = .ok made) :
    Makes w (object b registry w values type).2.2 made := by
  rcases object_cases b registry w values type with
    ⟨u, e, herror, -⟩ | ⟨u, t, arguments, -, hresult, hout⟩
  · rw [herror] at h
    exact absurd h nofun
  · rw [h] at hresult
    obtain ⟨hnew, hfurnished⟩ := makes_afterCreate hresult.symm
    rw [hout]
    exact ⟨hnew, hfurnished⟩

/-- What one instance starts with no later one does. -/
theorem Makes.not_mem_of_mem {w₁ w₂ w₃ : World} {later : InstanceId} (h : Makes w w₁ made)
    (hsince : Changes w₁ w₂) (hlater : Makes w₂ w₃ later)
    (ho : .scalar (.object o) ∈ (w₁.heap.cell made).inherited) :
    .scalar (.object o) ∉ (w₃.heap.cell later).inherited := by
  intro ho'
  have hmade : o.number ≤ w₁.heap.objects := ((h.furnished.mem_iff o).mp ho).1
  exact ((hlater.furnished.mem_iff o).mp ho').2 (Nat.le_trans hmade hsince.objects_le)

/-- Whatever happened before, every object that occurs, in a slot or with a class, was made.  An
instance that is made, by the constructor or by a call for an object, starts with one new object for
each inherited member that starts with an object, and with what the member starts with in every
other inherited slot; no instance made later starts with one of these objects.  A request that
fails, for an instance or for an object of a type that exists, leaves the world as it is. -/
theorem Changes.inherited_objects (h : Changes {} w) :
    (∀ o, w.Occurs o → w.heap.Holds (.scalar (.object o))) ∧
    (∀ t arguments made, (w.create t arguments).1 = .ok made →
      Makes w (w.afterCreate t arguments) made) ∧
    (∀ t arguments e, (w.create t arguments).1 = .error e → w.afterCreate t arguments = w) ∧
    (∀ (σ : Type) (b : Backend σ) (registry : Registry σ) (values : Fields Value),
      (∀ type made, (object b registry w values type).1 = .ok made →
        Makes w (object b registry w values type).2.2 made) ∧
      ∀ t e, (object b registry w values (some t)).1 = .error e →
        (object b registry w values (some t)).2 = (registry, w)) ∧
    ∀ w₁ w₂ w₃ made later o, Makes w w₁ made → Changes w₁ w₂ → Makes w₂ w₃ later →
      .scalar (.object o) ∈ (w₁.heap.cell made).inherited →
        .scalar (.object o) ∉ (w₃.heap.cell later).inherited := by
  refine ⟨h.grounded, fun _ _ _ => makes_afterCreate, fun _ _ _ => afterCreate_of_error,
    fun σ b registry values => ⟨?_, ?_⟩, ?_⟩
  · intro type made hmade
    exact makes_object b registry hmade
  · intro t e herror
    show (registry, World.mk w.types (w.createNamed t values).2) = (registry, w)
    rw [heap_createNamed_of_error herror]
  · intro w₁ w₂ w₃ made later o hmade hsince hlater ho
    exact hmade.not_mem_of_mem hsince hlater ho

/-- Two instances over a class with two members that start with one object, and a request that
fails. -/
theorem Changes.inherited_objects_over_class :
    let tag : Member := ⟨"tag", .object, .scalar (.object ⟨1⟩), false⟩
    let note : Member := ⟨"note", .builtin .string, .null, true⟩
    let lock : Member := ⟨"lock", .object, .scalar (.object ⟨1⟩), false⟩
    ∃ w : World,
      let first := w.afterCreate (.declared 3) [.scalar (.int32 7)]
      let second := first.afterCreate (.declared 3) [.scalar (.int32 8)]
      Changes {} w ∧
      (w.types.class? (.declared 0)).map (·.members) = some [tag, note, lock] ∧
      Makes w first ⟨0⟩ ∧ Makes first second ⟨1⟩ ∧
      (second.heap.cell ⟨0⟩).inherited = [.scalar (.object ⟨2⟩), .null, .scalar (.object ⟨3⟩)] ∧
      (second.heap.cell ⟨1⟩).inherited = [.scalar (.object ⟨4⟩), .null, .scalar (.object ⟨5⟩)] ∧
      (∃ e, (w.create (.declared 3) [.scalar (.bool true)]).1 = .error e) ∧
      w.afterCreate (.declared 3) [.scalar (.bool true)] = w := by
  intro tag note lock
  let base : ClassInfo := { members := [tag, note, lock] }
  let u : Universe := Universe.add {} ⟨"Base", .nominal base⟩
  let w₀ : World := { heap := ({} : Heap).newObject.2 }
  have hdeclared : w₀.declareClass "Base" base = .ok (.declared 0, u) := rfl
  have hmembers : ∀ m ∈ base.members, w₀.heap.Holds m.initial := by
    simp [base, tag, note, lock, w₀, Heap.Holds, Heap.newObject]
  have hclass : Steps {} { w₀ with types := u } :=
    .tail (.single .newObject) (.declareClass hmembers hdeclared)
  -- A record type over the class is asked for.
  let c : Call := .recordType ⟨[("a", .builtin .int32)], by decide⟩
    { parent := some (.declared 0) }
  have hu : u.WellFormed := (Steps.typed hclass typed_empty).wellFormed
  have hrecord :
      Steps {} (perform directBackend (.new .standard ()) { w₀ with types := u } c).2.2 :=
    hclass.trans (Registry.steps_perform hu (.new .standard ()) trivial)
  generalize hout : perform directBackend (.new .standard ()) { w₀ with types := u } c = out
    at hrecord
  have hinfo : (out.2.2.types.class? (.declared 0)).map (·.members) = some [tag, note, lock] :=
    hout ▸ by decide +kernel
  -- Two instances are made, and a third request is refused.
  have hfirst : (out.2.2.create (.declared 3) [.scalar (.int32 7)]).1 = .ok ⟨0⟩ :=
    hout ▸ by decide +kernel
  have hsecond : ((out.2.2.afterCreate (.declared 3) [.scalar (.int32 7)]).create (.declared 3)
      [.scalar (.int32 8)]).1 = .ok ⟨1⟩ := hout ▸ by decide +kernel
  have hslots :
      let second := (out.2.2.afterCreate (.declared 3) [.scalar (.int32 7)]).afterCreate
        (.declared 3) [.scalar (.int32 8)];
      (second.heap.cell ⟨0⟩).inherited = [.scalar (.object ⟨2⟩), .null, .scalar (.object ⟨3⟩)] ∧
      (second.heap.cell ⟨1⟩).inherited = [.scalar (.object ⟨4⟩), .null, .scalar (.object ⟨5⟩)] :=
    hout ▸ by decide +kernel
  have hrefused : (out.2.2.create (.declared 3) [.scalar (.bool true)]).1.isOk = false :=
    hout ▸ by decide +kernel
  generalize out.2.2 = w at hrecord hinfo hfirst hsecond hslots hrefused
  have hchanges : Changes {} w := Steps.changes hrecord
  obtain ⟨-, hmakes, hfails, -⟩ := Changes.inherited_objects hchanges
  have hlater : Changes {} (w.afterCreate (.declared 3) [.scalar (.int32 7)]) :=
    hchanges.tail (.create _ (by simp [Heap.Holds]))
  obtain ⟨-, hmakesLater, -⟩ := Changes.inherited_objects hlater
  rcases hthird : (w.create (.declared 3) [.scalar (.bool true)]).1 with e | made
  · exact ⟨w, hchanges, hinfo, hmakes _ _ _ hfirst, hmakesLater _ _ _ hsecond, hslots.1, hslots.2,
      ⟨e, hthird⟩, hfails _ _ _ hthird⟩
  · rw [hthird] at hrefused
    exact absurd hrefused.symm Bool.false_ne_true

end World

end RecordTypes
