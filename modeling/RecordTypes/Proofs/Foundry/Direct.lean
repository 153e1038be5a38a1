import RecordTypes.Foundry
import RecordTypes.Proofs.Universe.Record

/-!
# A foundry over the direct backend

The direct backend never fails a request that passed the checks.  So a request for a template has
two outcomes (`castTemplate_cases`): the checks refuse it and nothing changes, or the universe grows
by the template asked for.  The same goes for closing a template (`castClosed_cases`).
-/

namespace RecordTypes

/-! ### What the checks let through -/

theorem firstRepeated?_eq_none_iff (seen names : List String) :
    firstRepeated? seen names = none ↔ names.Nodup ∧ ∀ name ∈ names, name ∉ seen := by
  induction names generalizing seen with
  | nil => simp [firstRepeated?]
  | cons name rest ih =>
    unfold firstRepeated?
    by_cases hseen : name ∈ seen
    · rw [if_pos (List.contains_iff_mem.mpr hseen)]
      exact ⟨nofun, fun h => absurd hseen (h.2 name List.mem_cons_self)⟩
    · rw [if_neg (by simpa using hseen), ih, List.nodup_cons, List.forall_mem_cons]
      -- A name of the rest is new if it is neither the first one nor among those seen before.
      have hnew : (∀ x ∈ rest, x ∉ name :: seen) ↔ name ∉ rest ∧ ∀ x ∈ rest, x ∉ seen := by
        simp only [List.mem_cons, not_or]
        constructor
        · intro h
          exact ⟨fun hmem => (h name hmem).1 rfl, fun x hx => (h x hx).2⟩
        · rintro ⟨hname, h⟩ x hx
          exact ⟨fun heq => hname (heq ▸ hx), h x hx⟩
      rw [hnew]
      constructor
      · rintro ⟨hrest, hname, h⟩
        exact ⟨⟨hname, hrest⟩, hseen, h⟩
      · rintro ⟨⟨hname, hrest⟩, -, h⟩
        exact ⟨hrest, hname, h⟩

theorem checkNames_eq_ok_iff (names : List String) : checkNames names = .ok () ↔ names.Nodup := by
  have hnames : firstRepeated? [] names = none ↔ names.Nodup := by
    rw [firstRepeated?_eq_none_iff]
    simp
  rw [← hnames]
  unfold checkNames
  cases firstRepeated? [] names with
  | none => exact ⟨fun _ => rfl, fun _ => rfl⟩
  | some name => exact ⟨nofun, nofun⟩

namespace Universe

variable {u : Universe}

/-- A class that a record type may derive from. -/
def CanDerive (u : Universe) (p : TypeId) : Prop :=
  ∃ c, u.class? p = some c ∧ c.isSealed = false ∧ c.hasDefaultConstructor = true

theorem CanDerive.class?_isSome {p : TypeId} (h : u.CanDerive p) : (u.class? p).isSome := by
  obtain ⟨c, hc, -⟩ := h
  rw [hc]
  rfl

theorem Grows.canDerive {v : Universe} (h : Grows u v) {p : TypeId} (hp : u.CanDerive p) :
    v.CanDerive p := by
  obtain ⟨c, hc, hsealed, hdefault⟩ := hp
  exact ⟨c, h.class? hc, hsealed, hdefault⟩

/-- Besides `Object`, the check of a parent lets through the classes that may be derived from. -/
theorem WellFormed.checkParent_eq_ok_iff (hu : u.WellFormed) (p : TypeId) :
    u.checkParent p = .ok () ↔ p = .object ∨ u.CanDerive p := by
  have hobject : p = .object ↔ u.kind? p = some (.primitive .object) :=
    ⟨fun h => h ▸ rfl, hu.primitive p .object⟩
  unfold checkParent CanDerive
  simp only [hobject, class?_eq_some_iff]
  cases hkind : u.kind? p with
  | none => simp
  | some k =>
    cases k with
    | primitive q => cases q <;> simp
    | nominal c =>
      -- The check asks first whether the class is sealed.
      cases hsealed : c.isSealed <;> cases hdefault : c.hasDefaultConstructor <;>
        simp [hsealed, hdefault]
    | record l => simp
    | parameter i => simp

theorem properParent_ne_object {parent : Option TypeId} {p : TypeId}
    (h : p ∈ properParent parent) : p ≠ .object := by
  have := Option.filter_eq_some_iff.mp h
  simpa using this.2

theorem WellFormed.checkParent?_eq_ok_iff (hu : u.WellFormed) (parent : Option TypeId) :
    u.checkParent? (properParent parent) = .ok () ↔ ∀ p ∈ properParent parent, u.CanDerive p := by
  rcases h : properParent parent with _ | p
  · simp [checkParent?]
  · have hne : p ≠ .object := properParent_ne_object h
    rw [checkParent?, hu.checkParent_eq_ok_iff]
    simp [hne]

/-- A template has names that are not repeated, and derives from a class that it may derive from. -/
theorem WellFormed.checkDefinition_eq_ok_iff (hu : u.WellFormed) (parent : Option TypeId)
    (names : List String) : u.checkDefinition (properParent parent) names = .ok () ↔
      (∀ p ∈ properParent parent, u.CanDerive p) ∧ names.Nodup := by
  rw [← hu.checkParent?_eq_ok_iff, ← checkNames_eq_ok_iff]
  unfold checkDefinition
  rcases u.checkParent? (properParent parent) with e | _
  · exact ⟨nofun, fun h => absurd h.1 nofun⟩
  · exact ⟨fun h => ⟨rfl, h⟩, fun h => h.2⟩

/-- A template is closed over as many types as it has properties, none of them open. -/
theorem checkClosing_eq_ok_iff (t : TypeId) (arguments : List TypeId) :
    u.checkClosing t arguments = .ok () ↔ u.isTemplate t = true ∧
      arguments.length = (u.properties t).length ∧ ∀ a ∈ arguments, u.isOpen a = false := by
  have harguments : u.checkArguments t arguments = .ok () ↔
      arguments.length = (u.properties t).length ∧ ∀ a ∈ arguments, u.isOpen a = false := by
    unfold checkArguments
    by_cases hlength : arguments.length = (u.properties t).length
    · rcases hopen : arguments.find? u.isOpen with _ | a
      · simpa [hlength] using List.find?_eq_none.mp hopen
      · have : u.isOpen a = true ∧ a ∈ arguments :=
          ⟨List.find?_some hopen, List.mem_of_find?_eq_some hopen⟩
        simp only [hlength, ne_eq, not_true_eq_false, if_false, reduceCtorEq, true_and, false_iff]
        intro h
        rw [h a this.2] at this
        exact absurd this.1 (by decide)
    · simp [hlength]
  rw [← harguments, checkClosing, checkTemplate]
  by_cases ht : u.isTemplate t = true
  · rw [if_pos ht]
    exact ⟨fun h => ⟨ht, h⟩, fun h => h.2⟩
  · rw [if_neg ht]
    exact ⟨nofun, fun h => absurd h.1 ht⟩

/-- What is let through to be closed has a property for each of the types. -/
theorem exists_layout?_of_checkClosing {t : TypeId} {arguments : List TypeId}
    (h : u.checkClosing t arguments = .ok ()) :
    ∃ l, u.layout? t = some l ∧ l.arity = arguments.length := by
  obtain ⟨htemplate, hlength, -⟩ := (checkClosing_eq_ok_iff t arguments).mp h
  rcases hl : u.layout? t with _ | l
  · rw [isTemplate, shape?, hl] at htemplate
    exact absurd htemplate (by decide)
  · rw [properties, hl] at hlength
    exact ⟨l, rfl, hlength.symm⟩

/-! ### Carrying out a casting -/

theorem allows_parameter {d : Descriptor} (h : ∃ i, d.kind = .parameter i) : u.Allows d := by
  obtain ⟨i, hi⟩ := h
  rw [Allows, hi]
  trivial

theorem grows_addParameters {ds : List Descriptor} (h : ∀ d ∈ ds, ∃ i, d.kind = .parameter i) :
    Grows u (u.addAll ds) :=
  grows_addAll fun d hd _ => allows_parameter (h d hd)

/-- A casting that declares parameters and then a record type is carried out, and the type has the
layout that was asked for. -/
theorem cast_record (name : String) (l : Layout) (auxiliary : List Descriptor)
    (hauxiliary : ∀ d ∈ auxiliary, ∃ i, d.kind = .parameter i)
    (hparent : ∀ p ∈ l.parent, u.Knows p) :
    ∃ t v, u.cast ⟨auxiliary, .ok ⟨name, .record l⟩⟩ = (.ok t, v) ∧ Grows u v ∧
      v.layout? t = some l := by
  have hparameters : Grows u (u.addAll auxiliary) := grows_addParameters hauxiliary
  refine ⟨(u.addAll auxiliary).next, (u.addAll auxiliary).add ⟨name, .record l⟩, rfl, ?_, ?_⟩
  · exact hparameters.add _ fun p hp => hparameters.knows (hparent p hp)
  · rw [layout?_eq_some_iff, kind?_add_next]

/-- A request with a parameter for each name and a class for a parent is answered with the template
asked for. -/
theorem WellFormed.cast_define (hu : u.WellFormed) (request : TemplateRequest)
    (hlength : request.parameterNames.length = request.propertyNames.length)
    (hparent : ∀ p ∈ request.parent, (u.class? p).isSome) :
    ∃ t v, u.cast (Direct.define u request) = (.ok t, v) ∧ Grows u v ∧
      v.HasTemplate t request.propertyNames request.isMutable request.parent := by
  have hknows : ∀ p ∈ request.parent, u.Knows p := fun p hp =>
    knows_of_class?_isSome (hparent p hp)
  have hauxiliary : ∀ d ∈ request.parameterNames.mapIdx
      (fun i name => Descriptor.mk name (.parameter i)), ∃ i, d.kind = .parameter i := by
    intro d hd
    obtain ⟨i, hi, rfl⟩ := List.mem_mapIdx.mp hd
    exact ⟨i, rfl⟩
  rw [Direct.define_eq u hlength]
  obtain ⟨t, v, hcast, hgrows, hlayout⟩ := cast_record request.name (.ofFields
    (request.propertyNames.zip (Direct.parameters u request.parameterNames)) request.parent
    (u.membersOver request.parent) request.isMutable
    (.template (Direct.parameters u request.parameterNames))) _ hauxiliary hknows
  refine ⟨t, v, hcast, hgrows, fun p hp => hgrows.class?_isSome (hparent p hp),
    Direct.parameters u request.parameterNames, ?_, ?_⟩
  · rw [Direct.length_parameters, hlength]
  · rw [hlayout, hgrows.membersOver_eq hu hknows]

/-- A template is closed over as many types as it has properties. -/
theorem WellFormed.cast_close (hu : u.WellFormed) {template : TypeId} {arguments : List TypeId}
    {l : Layout} (hl : u.layout? template = some l) (harity : l.arity = arguments.length) :
    ∃ t v, u.cast (Direct.close u template arguments) = (.ok t, v) ∧ Grows u v ∧
      v.HasClosed t template arguments := by
  have hknows : ∀ p ∈ l.parent, u.Knows p := fun p hp => (hu.parent template l p hl hp).1
  rw [Direct.close_eq u hl harity]
  obtain ⟨t, v, hcast, hgrows, hlayout⟩ := cast_record (u.name template)
    (.arrange (Direct.closedProperties l arguments) l.parent (u.membersOver l.parent) l.isMutable
      (.closed template arguments)) [] nofun hknows
  refine ⟨t, v, hcast, hgrows, l, hgrows.layout? hl, harity, ?_⟩
  rw [hlayout, hgrows.membersOver_eq hu hknows]

end Universe

/-! ### The two requests -/

namespace Foundry

open Universe (Grows)

variable {u : Universe}

/-- A request for a template is refused by the checks, or answered with that template. -/
theorem castTemplate_cases (hu : u.WellFormed) (n : Naming) (names : List String)
    (isMutable : Bool) (parent : Option TypeId) (f : Foundry Unit) :
    (∃ e, u.checkDefinition (properParent parent) names = .error e ∧
      castTemplate directBackend n names isMutable parent f u = (.error e, f, u)) ∨
    (u.checkDefinition (properParent parent) names = .ok () ∧
      ∃ t v, castTemplate directBackend n names isMutable parent f u =
          (.ok t, ⟨f.nextIndex + 1, ()⟩, v) ∧
        Grows u v ∧ v.HasTemplate t names isMutable (properParent parent)) := by
  rcases hcheck : u.checkDefinition (properParent parent) names with e | _
  · exact .inl ⟨e, rfl, by rw [castTemplate, hcheck]⟩
  · right
    -- What the backend relies on is that the parent passed its check.
    have hparent : ∀ p ∈ properParent parent, (u.class? p).isSome := fun p hp =>
      (((hu.checkDefinition_eq_ok_iff parent names).mp hcheck).1 p hp).class?_isSome
    obtain ⟨t, v, hcast, hgrows, ht⟩ :=
      hu.cast_define (n.request f.nextIndex names isMutable (properParent parent))
        (List.length_map _) hparent
    refine ⟨rfl, t, v, ?_, hgrows, ht⟩
    rw [castTemplate, hcheck]
    show ((u.cast (Direct.define u _)).1, _, (u.cast (Direct.define u _)).2) = _
    rw [hcast]

/-- A request to close a template is refused by the checks, or answered with the template closed
over the types given. -/
theorem castClosed_cases (hu : u.WellFormed) (template : TypeId) (arguments : List TypeId)
    (f : Foundry Unit) :
    (∃ e, u.checkClosing template arguments = .error e ∧
      castClosed directBackend template arguments f u = (.error e, f, u)) ∨
    (u.checkClosing template arguments = .ok () ∧
      ∃ t v, castClosed directBackend template arguments f u = (.ok t, f, v) ∧ Grows u v ∧
        v.HasClosed t template arguments) := by
  rcases hcheck : u.checkClosing template arguments with e | _
  · exact .inl ⟨e, rfl, by rw [castClosed, hcheck]⟩
  · right
    obtain ⟨l, hl, harity⟩ := Universe.exists_layout?_of_checkClosing hcheck
    obtain ⟨t, v, hcast, hgrows, ht⟩ := hu.cast_close hl harity
    refine ⟨rfl, t, v, ?_, hgrows, ht⟩
    rw [castClosed, hcheck]
    show ((u.cast (Direct.close u _ _)).1, _, (u.cast (Direct.close u _ _)).2) = _
    rw [hcast]

theorem grows_castTemplate (hu : u.WellFormed) (n : Naming) (names : List String)
    (isMutable : Bool) (parent : Option TypeId) (f : Foundry Unit) :
    Grows u (castTemplate directBackend n names isMutable parent f u).2.2 := by
  rcases castTemplate_cases hu n names isMutable parent f with
    ⟨e, -, hcast⟩ | ⟨-, t, v, hcast, hgrows, -⟩
  · rw [hcast]
    exact .refl
  · rw [hcast]
    exact hgrows

theorem grows_castClosed (hu : u.WellFormed) (template : TypeId) (arguments : List TypeId)
    (f : Foundry Unit) : Grows u (castClosed directBackend template arguments f u).2.2 := by
  rcases castClosed_cases hu template arguments f with
    ⟨e, -, hcast⟩ | ⟨-, t, v, hcast, hgrows, -⟩
  · rw [hcast]
    exact .refl
  · rw [hcast]
    exact hgrows

end Foundry

end RecordTypes
