import RecordTypes.Backend.Direct
import RecordTypes.Proofs.Universe.Inheritance

/-!
# The layouts of record types

`Layout.ofFields` is the layout of fields that are listed in the order of their positions, written
down without any sorting.  It is what the direct backend arrives at: a template has its properties
in the order of its names (`Direct.define_eq`), closing it over types leaves them in that order
(`Direct.closedProperties_ofFields`), and sorting moves none of them (`Layout.arrange_inOrder`).

`HasTemplate` and `HasClosed` say what a universe knows of a template and of a closed record type.
Both stay true when the universe grows, and each type fits one description only.  A closed type is
regular if its template is (`HasClosed.isRegular`).
-/

namespace RecordTypes

/-! ### Fields in order -/

/-- Properties for fields in order, before it is known which of them hide anything. -/
def inOrder (fields : List (String × TypeId)) (isMutable : Bool) : List Property :=
  fields.mapIdx fun i field =>
    { name := field.1, type := field.2, position := i, canWrite := isMutable }

/-- The layout of fields in order. -/
def Layout.ofFields (fields : List (String × TypeId)) (parent : Option TypeId)
    (inherited : List InheritedMember) (isMutable : Bool) (shape : Shape) : Layout where
  properties := fields.mapIdx fun i field =>
    { name := field.1
      type := field.2
      position := i
      canWrite := isMutable
      hidesInherited := inherited.any fun m => m.member.name = field.1 }
  parent := parent
  inherited := inherited
  isMutable := isMutable
  shape := shape

/-- Nothing is lost in numbering a list if the numbered entries give back the entries. -/
theorem map_mapIdx_eq_self {α β : Type} {l : List α} {f : Nat → α → β} {g : β → α}
    (h : ∀ i a, g (f i a) = a) : (l.mapIdx f).map g = l := by
  apply List.ext_getElem?
  intro i
  rw [List.getElem?_map, List.getElem?_mapIdx, Option.map_map]
  cases l[i]? with
  | none => rfl
  | some a => exact congrArg some (h i a)

/-- Sorting by positions moves nothing if every property stands at its position. -/
theorem mergeSort_of_position {properties : List Property}
    (h : ∀ (i : Nat) (p : Property), properties[i]? = some p → p.position = i) :
    properties.mergeSort (fun p q => p.position ≤ q.position) = properties := by
  apply List.mergeSort_of_pairwise
  rw [List.pairwise_iff_getElem]
  intro i j hi hj hij
  have hpi := h i _ (List.getElem?_eq_getElem hi)
  have hpj := h j _ (List.getElem?_eq_getElem hj)
  rw [decide_eq_true_iff]
  omega

section Fields

variable (fields : List (String × TypeId)) (parent : Option TypeId)
  (inherited : List InheritedMember) (isMutable : Bool) (shape : Shape)

theorem position_inOrder (i : Nat) (p : Property) (h : (inOrder fields isMutable)[i]? = some p) :
    p.position = i := by
  rw [inOrder, List.getElem?_mapIdx] at h
  obtain ⟨field, -, rfl⟩ := Option.map_eq_some_iff.mp h
  rfl

/-- Sorting leaves fields that are in order where they are. -/
theorem Layout.arrange_inOrder :
    Layout.arrange (inOrder fields isMutable) parent inherited isMutable shape =
      .ofFields fields parent inherited isMutable shape := by
  rw [arrange, mergeSort_of_position (position_inOrder fields isMutable), ofFields]
  congr 1
  apply List.ext_getElem?
  intro i
  rw [inOrder, List.getElem?_map, List.getElem?_mapIdx, List.getElem?_mapIdx, Option.map_map]
  rfl

/-- The properties have the names and the types of the fields. -/
theorem Layout.map_properties_ofFields :
    (ofFields fields parent inherited isMutable shape).properties.map
      (fun p => (p.name, p.type)) = fields :=
  map_mapIdx_eq_self fun _ _ => rfl

theorem Layout.map_name_properties_ofFields :
    (ofFields fields parent inherited isMutable shape).properties.map (·.name) =
      fields.map (·.1) := by
  have hnames := congrArg (List.map Prod.fst)
    (map_properties_ofFields fields parent inherited isMutable shape)
  rw [List.map_map] at hnames
  exact hnames

theorem Parameter.map_numbered :
    (Parameter.numbered fields).map (fun p => (p.name, p.type)) = fields :=
  map_mapIdx_eq_self fun _ _ => rfl

/-- The constructor takes the fields in order. -/
theorem Layout.constructor_ofFields :
    (ofFields fields parent inherited isMutable shape).constructor =
      Parameter.numbered fields := by
  rw [constructor, map_properties_ofFields]

@[simp] theorem Layout.arity_ofFields :
    (ofFields fields parent inherited isMutable shape).arity = fields.length := by
  rw [arity, ofFields, List.length_mapIdx]

end Fields

/-- The constructor has a parameter for each property, of its name and its type. -/
theorem Layout.map_constructor (l : Layout) :
    l.constructor.map (fun q => (q.name, q.type)) = l.properties.map fun p => (p.name, p.type) :=
  Parameter.map_numbered _

theorem Layout.length_constructor (l : Layout) : l.constructor.length = l.properties.length := by
  have hlength := congrArg List.length l.map_constructor
  simpa using hlength

/-- The parameter at a place is for the property there. -/
theorem Layout.getElem?_constructor {l : Layout} {i : Nat} {p : Property}
    (hp : l.properties[i]? = some p) : l.constructor[i]? = some ⟨p.name, p.type, i⟩ := by
  rw [constructor, Parameter.numbered, List.getElem?_mapIdx, List.getElem?_map, hp]
  rfl

/-- Every property stands at its position, and may be written if the type is mutable. -/
def Layout.IsRegular (l : Layout) : Prop :=
  ∀ (i : Nat) (p : Property), l.properties[i]? = some p → p.position = i ∧ p.canWrite = l.isMutable

/-- Every property that may be written stands at its position. -/
def Layout.WritesInPlace (l : Layout) : Prop :=
  ∀ p ∈ l.properties, p.canWrite = true → l.properties[p.position]? = some p

theorem Layout.IsRegular.writesInPlace {l : Layout} (hl : l.IsRegular) : l.WritesInPlace := by
  intro p hp _
  obtain ⟨i, hi⟩ := List.mem_iff_getElem?.mp hp
  rw [(hl i p hi).1]
  exact hi

theorem Layout.isRegular_ofFields (fields : List (String × TypeId)) (parent : Option TypeId)
    (inherited : List InheritedMember) (isMutable : Bool) (shape : Shape) :
    (ofFields fields parent inherited isMutable shape).IsRegular := by
  intro i p h
  rw [ofFields, List.getElem?_mapIdx] at h
  obtain ⟨field, -, rfl⟩ := Option.map_eq_some_iff.mp h
  exact ⟨rfl, rfl⟩

/-- Arranging properties that stand at their positions gives a regular layout. -/
theorem Layout.isRegular_arrange {properties : List Property} (parent : Option TypeId)
    (inherited : List InheritedMember) {isMutable : Bool} (shape : Shape)
    (h : ∀ (i : Nat) (p : Property), properties[i]? = some p →
      p.position = i ∧ p.canWrite = isMutable) :
    (arrange properties parent inherited isMutable shape).IsRegular := by
  intro i p hp
  rw [arrange, mergeSort_of_position fun i p hp => (h i p hp).1, List.getElem?_map] at hp
  obtain ⟨q, hq, rfl⟩ := Option.map_eq_some_iff.mp hp
  exact h i q hq

/-! ### What the direct backend lays out -/

namespace Direct

/-- The type parameters of a template: the next identities, one for each of the names. -/
def parameters (u : Universe) (names : List String) : List TypeId :=
  names.mapIdx fun i _ => .declared (u.entries.size + i)

theorem length_parameters (u : Universe) (names : List String) :
    (parameters u names).length = names.length := by
  rw [parameters, List.length_mapIdx]

/-- The properties of a template are its names in order, typed by its parameters. -/
theorem openProperties_eq_inOrder (u : Universe) {request : TemplateRequest}
    (h : request.parameterNames.length = request.propertyNames.length) :
    openProperties u request id =
      inOrder (request.propertyNames.zip (parameters u request.parameterNames))
        request.isMutable := by
  have hlength := length_parameters u request.parameterNames
  apply List.ext_getElem
  · rw [openProperties, inOrder, List.length_mapIdx, List.length_mapIdx, List.length_zip]
    omega
  · intro i _ _
    simp only [openProperties, inOrder, parameters, List.getElem_mapIdx, List.getElem_zip, id]

/-- What is declared for a template with a parameter for each name. -/
theorem define_eq (u : Universe) {request : TemplateRequest}
    (h : request.parameterNames.length = request.propertyNames.length) :
    define u request =
      ⟨request.parameterNames.mapIdx fun i name => ⟨name, .parameter i⟩,
        .ok ⟨request.name, .record (.ofFields
          (request.propertyNames.zip (parameters u request.parameterNames)) request.parent
          (u.membersOver request.parent) request.isMutable
          (.template (parameters u request.parameterNames)))⟩⟩ := by
  rw [define, if_pos h, defineWith, openProperties_eq_inOrder u h, Universe.layout,
    Layout.arrange_inOrder]
  rfl

/-- What is declared for a template that is closed over one type per property. -/
theorem close_eq (u : Universe) {template : TypeId} {arguments : List TypeId} {l : Layout}
    (hl : u.layout? template = some l) (harity : l.arity = arguments.length) :
    close u template arguments =
      ⟨[], .ok ⟨u.name template, .record (.arrange (closedProperties l arguments) l.parent
        (u.membersOver l.parent) l.isMutable (.closed template arguments))⟩⟩ := by
  rw [close, hl]
  exact if_pos harity

/-- Closing a template types its properties anew and leaves them in order. -/
theorem closedProperties_ofFields (fields : List (String × TypeId)) (parent : Option TypeId)
    (inherited : List InheritedMember) (isMutable : Bool) (shape : Shape)
    (arguments : List TypeId) :
    closedProperties (.ofFields fields parent inherited isMutable shape) arguments =
      inOrder ((fields.map (·.1)).zip arguments) isMutable := by
  apply List.ext_getElem?
  intro i
  rw [closedProperties, inOrder, Layout.ofFields, List.getElem?_zipWith, List.getElem?_mapIdx,
    List.getElem?_mapIdx, List.zip, List.getElem?_zipWith, List.getElem?_map]
  cases fields[i]? <;> cases arguments[i]? <;> rfl

/-- Closing a template leaves every property at its position. -/
theorem closedProperties_of_isRegular {l : Layout} (hl : l.IsRegular) (arguments : List TypeId)
    (i : Nat) (p : Property) (h : (closedProperties l arguments)[i]? = some p) :
    p.position = i ∧ p.canWrite = l.isMutable := by
  rw [closedProperties, List.getElem?_zipWith_eq_some] at h
  obtain ⟨q, t, hq, -, rfl⟩ := h
  exact hl i q hq

end Direct

namespace Universe

variable {u v : Universe} {t template : TypeId} {names names' : List String}
  {isMutable isMutable' : Bool} {parent parent' : Option TypeId}
  {arguments arguments' : List TypeId}

/-! ### Templates -/

/-- A type is the template of given names, mutability and parent, with a parameter for each name. -/
def HasTemplate (u : Universe) (t : TypeId) (names : List String) (isMutable : Bool)
    (parent : Option TypeId) : Prop :=
  (∀ p ∈ parent, (u.class? p).isSome) ∧
  ∃ parameters : List TypeId, parameters.length = names.length ∧
    u.layout? t = some (.ofFields (names.zip parameters) parent (u.membersOver parent) isMutable
      (.template parameters))

theorem knows_of_class?_isSome (h : (u.class? t).isSome) : u.Knows t := by
  obtain ⟨c, hc⟩ := Option.isSome_iff_exists.mp h
  exact knows_of_kind? (class?_eq_some_iff.mp hc)

theorem Grows.class?_isSome (h : Grows u v) (ht : (u.class? t).isSome) :
    (v.class? t).isSome := by
  obtain ⟨c, hc⟩ := Option.isSome_iff_exists.mp ht
  rw [h.class? hc]
  rfl

theorem Grows.hasTemplate (h : Grows u v) (hu : u.WellFormed)
    (ht : u.HasTemplate t names isMutable parent) : v.HasTemplate t names isMutable parent := by
  obtain ⟨hclass, parameters, hlength, hlayout⟩ := ht
  -- The parent is known already, so the members that come with it are the same in `v`.
  have hmembers : v.membersOver parent = u.membersOver parent :=
    h.membersOver_eq hu fun p hp => knows_of_class?_isSome (hclass p hp)
  refine ⟨fun p hp => h.class?_isSome (hclass p hp), parameters, hlength, ?_⟩
  rw [hmembers]
  exact h.layout? hlayout

theorem HasTemplate.isTemplate (ht : u.HasTemplate t names isMutable parent) :
    u.isTemplate t = true := by
  obtain ⟨-, parameters, -, hlayout⟩ := ht
  rw [Universe.isTemplate, shape?, hlayout]
  rfl

theorem HasTemplate.knows (ht : u.HasTemplate t names isMutable parent) : u.Knows t := by
  obtain ⟨-, parameters, -, hlayout⟩ := ht
  exact knows_of_kind? (layout?_eq_some_iff.mp hlayout)

theorem HasTemplate.length_properties (ht : u.HasTemplate t names isMutable parent) :
    (u.properties t).length = names.length := by
  obtain ⟨-, parameters, hlength, hlayout⟩ := ht
  rw [properties_of_layout? hlayout]
  show (Layout.ofFields _ _ _ _ _).arity = names.length
  rw [Layout.arity_ofFields, List.length_zip]
  omega

/-- A template tells the names, the mutability and the parent it was made for. -/
theorem HasTemplate.unique (ht : u.HasTemplate t names isMutable parent)
    (ht' : u.HasTemplate t names' isMutable' parent') :
    names = names' ∧ isMutable = isMutable' ∧ parent = parent' := by
  obtain ⟨-, parameters, hlength, hlayout⟩ := ht
  obtain ⟨-, parameters', hlength', hlayout'⟩ := ht'
  have heq := Option.some.inj (hlayout.symm.trans hlayout')
  have hnames := congrArg (fun l => l.properties.map (·.name)) heq
  simp only [Layout.map_name_properties_ofFields] at hnames
  rw [List.map_fst_zip (by omega), List.map_fst_zip (by omega)] at hnames
  exact ⟨hnames, congrArg Layout.isMutable heq, congrArg Layout.parent heq⟩

/-! ### Closed record types -/

/-- A type is a template closed over given types, one per property. -/
def HasClosed (u : Universe) (t template : TypeId) (arguments : List TypeId) : Prop :=
  ∃ l, u.layout? template = some l ∧ l.arity = arguments.length ∧
    u.layout? t = some (.arrange (Direct.closedProperties l arguments) l.parent
      (u.membersOver l.parent) l.isMutable (.closed template arguments))

theorem Grows.hasClosed (h : Grows u v) (hu : u.WellFormed)
    (ht : u.HasClosed t template arguments) : v.HasClosed t template arguments := by
  obtain ⟨l, htemplate, harity, hlayout⟩ := ht
  -- Nothing is asked of the parent of `l` here: being part of a layout is enough to be known.
  have hmembers : v.membersOver l.parent = u.membersOver l.parent :=
    h.membersOver_eq hu fun p hp => (hu.parent template l p htemplate hp).1
  refine ⟨l, h.layout? htemplate, harity, ?_⟩
  rw [hmembers]
  exact h.layout? hlayout

theorem HasClosed.knows (ht : u.HasClosed t template arguments) : u.Knows t := by
  obtain ⟨l, -, -, hlayout⟩ := ht
  exact knows_of_kind? (layout?_eq_some_iff.mp hlayout)

theorem HasClosed.shape?_eq (ht : u.HasClosed t template arguments) :
    u.shape? t = some (.closed template arguments) := by
  obtain ⟨l, -, -, hlayout⟩ := ht
  rw [shape?, hlayout]
  rfl

theorem HasClosed.template?_eq (ht : u.HasClosed t template arguments) :
    u.template? t = some template := by
  rw [template?, ht.shape?_eq]

/-- A closed record type tells the template and the types it was closed over. -/
theorem HasClosed.unique {template' : TypeId} (ht : u.HasClosed t template arguments)
    (ht' : u.HasClosed t template' arguments') : template = template' ∧ arguments = arguments' := by
  have heq := Option.some.inj (ht.shape?_eq.symm.trans ht'.shape?_eq)
  exact Shape.closed.inj heq

/-- A closed record type has the names of its template as fields, in order and typed by the types
that the template was closed over. -/
theorem HasTemplate.layout?_closed (htemplate : u.HasTemplate template names isMutable parent)
    (ht : u.HasClosed t template arguments) :
    names.length = arguments.length ∧
    u.layout? t = some (.ofFields (names.zip arguments) parent (u.membersOver parent) isMutable
      (.closed template arguments)) := by
  obtain ⟨-, parameters, hlength, hopen⟩ := htemplate
  obtain ⟨l, hl, harity, hlayout⟩ := ht
  obtain rfl := Option.some.inj (hopen.symm.trans hl)
  rw [Layout.arity_ofFields, List.length_zip] at harity
  -- The parameters of the template are gone: only its names are left under the arguments.
  have hnames : (names.zip parameters).map (·.1) = names := List.map_fst_zip (by omega)
  refine ⟨by omega, ?_⟩
  rw [hlayout, Direct.closedProperties_ofFields, hnames]
  exact congrArg some (Layout.arrange_inOrder _ _ _ _ _)

/-! ### Regular types -/

theorem HasTemplate.isRegular (ht : u.HasTemplate t names isMutable parent) :
    ∃ l, u.layout? t = some l ∧ l.IsRegular := by
  obtain ⟨-, parameters, -, hlayout⟩ := ht
  exact ⟨_, hlayout, Layout.isRegular_ofFields _ _ _ _ _⟩

/-- Closing a template with a regular layout gives a type with a regular layout. -/
theorem HasClosed.isRegular {l closed : Layout} (ht : u.HasClosed t template arguments)
    (hl : u.layout? template = some l) (hregular : l.IsRegular)
    (hclosed : u.layout? t = some closed) : closed.IsRegular := by
  obtain ⟨l', hl', -, hlayout⟩ := ht
  obtain rfl := Option.some.inj (hl.symm.trans hl')
  obtain rfl := Option.some.inj (hlayout.symm.trans hclosed)
  exact Layout.isRegular_arrange _ _ _ (Direct.closedProperties_of_isRegular hregular arguments)

/-- Whatever the template, a closed type inherits what its parent says. -/
theorem HasClosed.exists_layout (ht : u.HasClosed t template arguments) :
    ∃ l, u.layout? t = some l ∧ l.inherited = u.membersOver l.parent ∧
      l.shape.isTemplate = false := by
  obtain ⟨l, -, -, hlayout⟩ := ht
  exact ⟨_, hlayout, rfl, rfl⟩

theorem Grows.layout?_eq (h : Grows u v) (ht : u.Knows t) : v.layout? t = u.layout? t := by
  unfold Universe.layout?
  rw [h.kind?_eq ht]

end Universe

end RecordTypes
