import RecordTypes.Proofs.Fields.Lookup
import RecordTypes.Proofs.Foundry.Layouts
import RecordTypes.Proofs.Registry.Run
import RecordTypes.Proofs.Universe.Arrange

/-!
# Closing any record type

A universe is `Declared` if it came about by declaring types of any kind: classes over classes, type
parameters, and record types laid out from any properties over any type that exists.  What
registries make over the direct backend is declared in this way, too (`Registry.kept_declared`).

Whatever the positions of the properties were, a layout has them sorted (`Declared.everyLayout`).
So the sorting that comes with the closing of a record type moves nothing, and the `i`-th argument
becomes the type of the `i`-th property (`Layout.properties_close`).  All else is taken over from
the record type that is closed (`Universe.Declared.close_layout`).
-/

namespace RecordTypes

/-! ### The layout of what is closed -/

namespace Layout

section Close

variable {l l' : Layout} {properties : List Property} {parent : Option TypeId}
  {inherited : List InheritedMember} {isMutable : Bool} {shape shape' : Shape}
  {arguments : List TypeId}
  (hl : l = arrange properties parent inherited isMutable shape)
  (hl' : l' = arrange (Direct.closedProperties l arguments) l.parent l.inherited l.isMutable shape')
include hl hl'

omit hl' in
/-- The properties of an arranged layout are sorted, and typing them anew leaves them so. -/
theorem pairwise_position_closedProperties (arguments : List TypeId) :
    (Direct.closedProperties l arguments).Pairwise fun p q => p.position ≤ q.position := by
  have hopen : l.properties.Pairwise fun p q => p.position ≤ q.position :=
    hl ▸ pairwise_position_arrange
  rw [List.pairwise_iff_getElem] at hopen ⊢
  intro i j hi hj hij
  rw [Direct.closedProperties, List.length_zipWith] at hi hj
  simp only [Direct.closedProperties, List.getElem_zipWith]
  exact hopen i j (by omega) (by omega) hij

/-- Closing an arranged layout types its properties by the arguments, in order, and changes nothing
else about them. -/
theorem properties_close :
    l'.properties = l.properties.zipWith (fun p t => { p with type := t }) arguments := by
  have hflags : ∀ p ∈ l.properties, flagged l.inherited p = p := by
    subst hl
    exact fun p hp => flagged_of_mem_arrange hp
  rw [hl', properties_arrange_of_pairwise (pairwise_position_closedProperties hl arguments)]
  apply List.ext_getElem?
  intro i
  rw [Direct.closedProperties, List.map_zipWith, List.getElem?_zipWith, List.getElem?_zipWith]
  rcases hp : l.properties[i]? with _ | p
  · rfl
  · rcases arguments[i]? with _ | t
    · rfl
    · have hflag := congrArg Property.hidesInherited (hflags p (List.mem_of_getElem? hp))
      show some { p with type := t, hidesInherited := (flagged l.inherited p).hidesInherited } = _
      rw [hflag]

section Length

variable (hlength : arguments.length = l.arity)
include hlength

theorem length_properties_close : l'.properties.length = l.properties.length := by
  rw [properties_close hl hl', List.length_zipWith, hlength]
  exact Nat.min_self _

/-- The names stay where they are. -/
theorem map_name_close : l'.properties.map (·.name) = l.properties.map (·.name) := by
  have hclosed := length_properties_close hl hl' hlength
  apply List.ext_getElem
  · rw [List.length_map, List.length_map, hclosed]
  · intro i _ _
    simp only [properties_close hl hl', List.getElem_map, List.getElem_zipWith]

/-- The argument at a place is the type of the property and of the parameter there. -/
theorem getElem?_close {i : Nat} {p : Property} (hp : l.properties[i]? = some p) :
    ∃ a, arguments[i]? = some a ∧ l'.properties[i]? = some { p with type := a } ∧
      l'.constructor[i]? = some ⟨p.name, a, i⟩ := by
  have hi : i < arguments.length := hlength ▸ (List.getElem?_eq_some_iff.mp hp).1
  have hargument : arguments[i]? = some arguments[i] := List.getElem?_eq_getElem hi
  have hproperty : l'.properties[i]? = some { p with type := arguments[i] } := by
    rw [properties_close hl hl', List.getElem?_zipWith, hp, hargument]
  exact ⟨arguments[i], hargument, hproperty, getElem?_constructor hproperty⟩

end Length

end Close

end Layout

namespace Universe

variable {u v : Universe} {l : Layout}

/-! ### Universes that come about by declaring types -/

/-- A universe came about by declaring types: classes over none or over a class, type parameters,
and record types of any shape that are laid out from any properties over none or over any type that
exists. -/
inductive Declared : Universe → Prop
  | empty : Declared {}
  | nominal {u : Universe} (h : Declared u) (name : String) {c : ClassInfo}
      (hbase : ∀ b ∈ c.base, (u.class? b).isSome) : Declared (u.add ⟨name, .nominal c⟩)
  | parameter {u : Universe} (h : Declared u) (name : String) (position : Nat) :
      Declared (u.add ⟨name, .parameter position⟩)
  | record {u : Universe} (h : Declared u) (name : String) (properties : List Property)
      {parent : Option TypeId} (hparent : ∀ p ∈ parent, u.Knows p) (isMutable : Bool)
      (shape : Shape) :
      Declared (u.add ⟨name, .record (u.layout properties parent isMutable shape)⟩)

theorem Declared.wellFormed (h : u.Declared) : u.WellFormed := by
  induction h with
  | empty => exact wellFormed_empty
  | nominal _ _ hbase ih => exact ih.add hbase
  | parameter _ _ _ ih => exact ih.add trivial
  | record _ _ _ hparent _ _ ih => exact ih.add hparent

/-- A layout was made from some properties, over a type that exists. -/
structure IsArranged (u : Universe) (l : Layout) : Prop where
  wellFormed : u.WellFormed
  knows : ∀ p ∈ l.parent, u.Knows p
  exists_properties : ∃ properties, l = u.layout properties l.parent l.isMutable l.shape

/-- A layout over a type that exists is the same in a universe where more is declared. -/
theorem Grows.layout_eq (h : Grows u v) (hu : u.WellFormed) {parent : Option TypeId}
    (hparent : ∀ p ∈ parent, u.Knows p) (properties : List Property) (isMutable : Bool)
    (shape : Shape) :
    v.layout properties parent isMutable shape = u.layout properties parent isMutable shape :=
  congrArg (Layout.arrange properties parent · isMutable shape) (h.membersOver_eq hu hparent)

theorem lasts_isArranged : Lasts IsArranged := by
  intro u v l hgrows h
  refine ⟨hgrows.wellFormed h.wellFormed, fun p hp => hgrows.knows (h.knows p hp), ?_⟩
  obtain ⟨properties, hl⟩ := h.exists_properties
  exact ⟨properties, hl.trans (hgrows.layout_eq h.wellFormed h.knows _ _ _).symm⟩

theorem Declared.everyLayout (h : u.Declared) : EveryLayout IsArranged u := by
  induction h with
  | empty => exact everyLayout_empty
  | nominal _ _ hbase ih => exact ih.add lasts_isArranged hbase fun l hl => nomatch hl
  | parameter _ _ _ ih => exact ih.add lasts_isArranged trivial fun l hl => nomatch hl
  | record h _ properties hparent _ _ ih =>
    refine ih.add lasts_isArranged ?_ fun l hl => ?_
    · exact hparent
    · obtain rfl := Kind.record.inj hl
      exact ⟨h.wellFormed, hparent, properties, rfl⟩

/-! ### The direct backend -/

theorem Declared.addAll (h : u.Declared) {ds : List Descriptor}
    (hds : ∀ d ∈ ds, ∃ i, d.kind = .parameter i) : (u.addAll ds).Declared := by
  induction ds generalizing u with
  | nil => exact h
  | cons d ds ih =>
    obtain ⟨⟨i, hi⟩, hrest⟩ := List.forall_mem_cons.mp hds
    obtain ⟨name, kind⟩ := d
    subst hi
    exact ih (h.parameter name i) hrest

theorem Declared.cast_define (h : u.Declared) {request : TemplateRequest}
    (hparent : ∀ p ∈ request.parent, u.Knows p) :
    (u.cast (Direct.define u request)).2.Declared := by
  unfold Direct.define
  dsimp only
  split
  · let auxiliary := request.parameterNames.mapIdx fun i name =>
      Descriptor.mk name (.parameter i)
    have hauxiliary : ∀ d ∈ auxiliary, ∃ i, d.kind = .parameter i := by
      intro d hd
      obtain ⟨i, hi, rfl⟩ := List.mem_mapIdx.mp hd
      exact ⟨i, rfl⟩
    have hparameters : Grows u (u.addAll auxiliary) := grows_addParameters hauxiliary
    -- The layout was made before the parameters were declared, and it is the same after that.
    have hrecord := (h.addAll hauxiliary).record request.name
      (Direct.openProperties u request id) (fun p hp => hparameters.knows (hparent p hp))
      request.isMutable (.template (Direct.parameters u request.parameterNames))
    rw [hparameters.layout_eq h.wellFormed hparent] at hrecord
    exact hrecord
  · exact h

theorem Declared.cast_close (h : u.Declared) (template : TypeId) (arguments : List TypeId) :
    (u.cast (Direct.close u template arguments)).2.Declared := by
  unfold Direct.close
  split
  · exact h
  · next l hl =>
    split
    · exact h.record _ _ (fun p hp => (h.wellFormed.parent template l p hl hp).1) _ _
    · exact h

end Universe

namespace Registry

open Universe (Declared)

/-- What registries make over the direct backend is declared from properties, too. -/
theorem kept_declared : Kept directBackend fun _ u => u.Declared := by
  apply kept_of_casts (Q := Declared)
  · intro f n names isMutable parent u h
    unfold Foundry.castTemplate
    dsimp only
    rcases hcheck : u.checkDefinition (properParent parent) names with e | _
    · exact h
    · obtain ⟨hparent, -⟩ := (h.wellFormed.checkDefinition_eq_ok_iff parent names).mp hcheck
      exact h.cast_define fun p hp => Universe.knows_of_class?_isSome (hparent p hp).class?_isSome
  · intro f template arguments u h
    unfold Foundry.castClosed
    rcases u.checkClosing template arguments with e | _
    · exact h
    · exact h.cast_close template arguments

end Registry

/-! ### Closing -/

namespace Universe

variable {u : Universe} {template : TypeId} {l : Layout} {arguments : List TypeId}

/-- A record type is closed over as many types as it has properties.  What comes of it has the
properties in the same order, each typed by the argument at its place and otherwise unchanged, and a
constructor parameter for each of them; the same names lead to the same places, and the parent, the
inherited members and the mutability are the same. -/
theorem Declared.close_layout (h : u.Declared) (hl : u.layout? template = some l)
    (hlength : arguments.length = l.arity) :
    ∃ t v l', u.cast (Direct.close u template arguments) = (.ok t, v) ∧ v.Declared ∧
      v.layout? t = some l' ∧ v.template? t = some template ∧ v.arguments t = arguments ∧
      l'.properties.length = l.properties.length ∧
      (∀ (i : Nat) p, l.properties[i]? = some p → ∃ a, arguments[i]? = some a ∧
        l'.properties[i]? = some { p with type := a } ∧
        l'.constructor[i]? = some ⟨p.name, a, i⟩) ∧
      (∀ name, l'.index? name = l.index? name) ∧ l'.parent = l.parent ∧
      l'.inherited = l.inherited ∧ l'.isMutable = l.isMutable := by
  obtain ⟨t, v, hcast, hgrows, hclosed⟩ := h.wellFormed.cast_close hl hlength.symm
  have hdeclared : v.Declared := by
    have hclose := h.cast_close template arguments
    rw [hcast] at hclose
    exact hclose
  have hopen : v.layout? template = some l := hgrows.layout? hl
  obtain ⟨-, -, properties, harranged⟩ := hdeclared.everyLayout template l hopen
  have hinherited : v.membersOver l.parent = l.inherited :=
    (congrArg Layout.inherited harranged).symm
  have htemplate : v.template? t = some template := hclosed.template?_eq
  have harguments : v.arguments t = arguments := by
    rw [Universe.arguments, hclosed.shape?_eq]
  obtain ⟨l₁, hl₁, -, hlayout⟩ := hclosed
  obtain rfl := Option.some.inj (hopen.symm.trans hl₁)
  rw [hinherited] at hlayout
  exact ⟨t, v, _, hcast, hdeclared, hlayout, htemplate, harguments,
    Layout.length_properties_close harranged rfl hlength,
    fun i p hp => Layout.getElem?_close harranged rfl hlength hp,
    Layout.index?_congr (Layout.map_name_close harranged rfl hlength), rfl, rfl, rfl⟩

/-- A template over a class, with the properties in another order than their positions, closed over
two types: the first type is that of the property at position 0, which hides a member. -/
theorem Declared.close_of_unordered_template :
    let note : Member := ⟨"a", .builtin .string, .scalar (.string "note"), true⟩
    let property (name : String) (type : TypeId) (position : Nat) (hides : Bool) : Property :=
      ⟨name, type, position, false, hides⟩
    let base : Universe := Universe.add {} ⟨"Base", .nominal { members := [note] }⟩
    let parameters : Universe := (base.add ⟨"TB", .parameter 0⟩).add ⟨"TA", .parameter 1⟩
    let l : Layout := parameters.layout
      [property "b" (.declared 1) 1 false, property "a" (.declared 2) 0 false] (some (.declared 0))
      false (.template [.declared 1, .declared 2])
    let u : Universe := parameters.add ⟨"Template", .record l⟩
    let arguments : List TypeId := [.builtin .int32, .builtin .string]
    u.Declared ∧ u.layout? (.declared 3) = some l ∧ arguments.length = l.arity ∧
      ∃ t v l', u.cast (Direct.close u (.declared 3) arguments) = (.ok t, v) ∧
        v.layout? t = some l' ∧
        l'.properties[0]? = some (property "a" (.builtin .int32) 0 true) ∧
        l'.properties[1]? = some (property "b" (.builtin .string) 1 false) := by
  intro note property base parameters l u arguments
  have hbase : base.Declared := .nominal .empty "Base" fun b hb => absurd hb (Option.not_mem_none b)
  have hparent : ∀ p ∈ some (TypeId.declared 0), parameters.Knows p := by
    intro p hp
    obtain rfl := Option.some.inj hp
    rfl
  have hdeclared : u.Declared :=
    ((hbase.parameter "TB" 0).parameter "TA" 1).record "Template" _ hparent _ _
  have hproperties : l.properties =
      [property "a" (.declared 2) 0 true, property "b" (.declared 1) 1 false] := by
    have hsorted : ([property "b" (.declared 1) 1 false, property "a" (.declared 2) 0
        false].mergeSort fun p q => p.position ≤ q.position) =
        [property "a" (.declared 2) 0 false, property "b" (.declared 1) 1 false] := by
      simp [property, List.mergeSort, List.MergeSort.Internal.splitInTwo]
    have harranged : l.properties = _ := Layout.properties_arrange
    rw [harranged, hsorted]
    decide +kernel
  have hlength : arguments.length = l.arity := by
    rw [Layout.arity, hproperties]
    rfl
  have hl : u.layout? (.declared 3) = some l := rfl
  obtain ⟨t, v, l', hcast, -, hlayout, -, -, -, hplaces, -⟩ :=
    Declared.close_layout hdeclared hl hlength
  obtain ⟨a, ha, hfirst, -⟩ := hplaces 0 _ (by rw [hproperties]; rfl)
  obtain ⟨b, hb, hsecond, -⟩ := hplaces 1 _ (by rw [hproperties]; rfl)
  obtain rfl := Option.some.inj ha
  obtain rfl := Option.some.inj hb
  exact ⟨hdeclared, hl, hlength, t, v, l', hcast, hlayout, hfirst, hsecond⟩

end Universe

end RecordTypes
