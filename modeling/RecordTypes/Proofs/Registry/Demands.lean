import RecordTypes.Proofs.Naming.Alike
import RecordTypes.Proofs.Registry.Names

/-!
# Demands

A `Demand` says which template is asked for, or which template closed over which types, without the
identities that templates have in one run or another.  A memo stores at most one type for a demand
(`find?`), and a type that is stored anew is found for one demand only (`find?_store_template`,
`find?_store_closed`).  What a faithful registry stores for a demand is what the demand calls for
(`Demand.Meets`): different types for different demands (`Faithful.eq_iff_demand_eq`), each with a
layout that its demand tells but for identities (`Demand.Meets.exists_outline`).
-/

namespace RecordTypes

/-- A template is no closed type. -/
theorem Universe.HasTemplate.not_hasClosed {u : Universe} {t template : TypeId}
    {names : List String} {isMutable : Bool} {parent : Option TypeId} {arguments : List TypeId}
    (h : u.HasTemplate t names isMutable parent) : ¬ u.HasClosed t template arguments := by
  intro hclosed
  have htemplate := h.isTemplate
  rw [Universe.isTemplate, hclosed.shape?_eq] at htemplate
  exact Bool.false_ne_true htemplate

namespace Registry

open Universe (Grows)

/-! ### Demands -/

/-- A template, or a template closed over types, as it is asked for. -/
structure Demand where
  names : List String
  isMutable : Bool
  /-- The class derived from; none also if `Object` was asked for. -/
  parent : Option TypeId
  /-- The types closed over; none if the template itself is asked for. -/
  arguments : Option (List TypeId)
  deriving DecidableEq

/-- The template for names and options. -/
def Demand.template (names : List String) (options : Options) : Demand :=
  ⟨names, options.isMutable, properParent options.parent, none⟩

/-- The record type of given fields. -/
def Demand.closed (fields : Fields TypeId) (options : Options) : Demand :=
  ⟨fields.names, options.isMutable, properParent options.parent, some fields.values⟩

/-- The template that is asked for along with a demand. -/
def Demand.open (d : Demand) : Demand := { d with arguments := none }

/-- The type stored for a demand. -/
def find? (m : Memo) (d : Demand) : Option TypeId :=
  (m.get? (.template d.names d.isMutable d.parent)).bind fun template =>
    match d.arguments with
    | none => some template
    | some arguments => m.get? (.closed template arguments)

variable {m m' : Memo} {d d' : Demand} {t template : TypeId}

theorem find?_of_arguments_eq_none (hd : d.arguments = none) :
    find? m d = m.get? (.template d.names d.isMutable d.parent) := by
  rw [find?, hd]
  exact Option.bind_fun_some _

theorem find?_of_arguments_eq_some {arguments : List TypeId} (hd : d.arguments = some arguments)
    (htemplate : m.get? (.template d.names d.isMutable d.parent) = some template) :
    find? m d = m.get? (.closed template arguments) := by
  rw [find?, htemplate, hd]
  rfl

theorem find?_open (m : Memo) (d : Demand) :
    find? m d.open = m.get? (.template d.names d.isMutable d.parent) :=
  find?_of_arguments_eq_none rfl

/-- What a memo stores for a demand, one that stores more does. -/
theorem find?_mono (hm : m.Extends m') (h : find? m d = some t) : find? m' d = some t := by
  obtain ⟨template, htemplate, ht⟩ := Option.bind_eq_some_iff.mp h
  rw [find?, hm _ _ htemplate, Option.bind_some]
  cases hd : d.arguments with
  | none =>
    rw [hd] at ht
    exact ht
  | some arguments =>
    rw [hd] at ht
    exact hm _ _ ht

/-! ### Storing types -/

/-- A template that is stored is found for its own demand, and changes no other one: no type was
closed over it before. -/
theorem find?_store_template {names : List String} {options : Options}
    (hnew : ∀ arguments, m.get? (.closed t arguments) = none)
    (hnone : m.get? (templateSignature names options) = none) (d : Demand) :
    find? (m.store (templateSignature names options) t) d =
      if d = .template names options then some t else find? m d := by
  have hget (arguments : List TypeId) (T : TypeId) :
      (m.store (templateSignature names options) t).get? (.closed T arguments) =
        m.get? (.closed T arguments) := by
    rw [Memo.get?_store, if_neg nofun]
  by_cases hsame : templateSignature names options = .template d.names d.isMutable d.parent
  · obtain ⟨hnames, hmutable, hparent⟩ := Signature.template.inj hsame
    have hstored : (m.store (templateSignature names options) t).get?
        (.template d.names d.isMutable d.parent) = some t := by
      rw [← hsame, Memo.get?_store_self]
    cases hd : d.arguments with
    | none =>
      have hdemand : d = .template names options := by
        cases d
        simp only [Demand.template, Demand.mk.injEq]
        exact ⟨hnames.symm, hmutable.symm, hparent.symm, hd⟩
      rw [find?_of_arguments_eq_none hd, hstored, if_pos hdemand]
    | some arguments =>
      have hdemand : d ≠ .template names options := by
        rintro rfl
        exact absurd hd nofun
      rw [find?_of_arguments_eq_some hd hstored, hget, hnew, if_neg hdemand, find?, ← hsame, hnone]
      rfl
  · have hdemand : d ≠ .template names options := by
      rintro rfl
      exact hsame rfl
    rw [if_neg hdemand, find?, find?, Memo.get?_store, if_neg hsame]
    simp only [hget]

/-- A closed type that is stored is found for its own demand, and changes no other one: a template
is that of one demand only. -/
theorem find?_store_closed {arguments : List TypeId} (hd : d.arguments = some arguments)
    (htemplate : m.get? (.template d.names d.isMutable d.parent) = some template)
    (hunique : ∀ names isMutable parent, m.get? (.template names isMutable parent) = some template →
      names = d.names ∧ isMutable = d.isMutable ∧ parent = d.parent) (d' : Demand) :
    find? (m.store (.closed template arguments) t) d' = if d' = d then some t else find? m d' := by
  have hget (names : List String) (isMutable : Bool) (parent : Option TypeId) :
      (m.store (.closed template arguments) t).get? (.template names isMutable parent) =
        m.get? (.template names isMutable parent) := by
    rw [Memo.get?_store, if_neg nofun]
  cases hd' : d'.arguments with
  | none =>
    have hne : d' ≠ d := by
      rintro rfl
      exact absurd (hd.symm.trans hd') nofun
    rw [find?_of_arguments_eq_none hd', find?_of_arguments_eq_none hd', hget, if_neg hne]
  | some arguments' =>
    rcases htemplate' : m.get? (.template d'.names d'.isMutable d'.parent) with _ | T
    · have hne : d' ≠ d := by
        rintro rfl
        exact absurd (htemplate.symm.trans htemplate') nofun
      rw [find?, find?, hget, htemplate', if_neg hne]
      rfl
    · rw [find?_of_arguments_eq_some hd' (by rw [hget, htemplate']),
        find?_of_arguments_eq_some hd' htemplate', Memo.get?_store]
      -- Only the demand itself calls for the signature that was stored.
      have hiff : Signature.closed template arguments = .closed T arguments' ↔ d' = d := by
        constructor
        · intro h
          obtain ⟨rfl, rfl⟩ := Signature.closed.inj h
          obtain ⟨hnames, hmutable, hparent⟩ := hunique _ _ _ htemplate'
          cases d
          cases d'
          simp only [Demand.mk.injEq]
          exact ⟨hnames, hmutable, hparent, hd'.trans hd.symm⟩
        · rintro rfl
          rw [Option.some.inj (hd.symm.trans hd'),
            Option.some.inj (htemplate.symm.trans htemplate')]
      simp only [hiff]

/-! ### What is stored -/

variable {n : Naming} {u v : Universe} {r : Registry Unit}

/-- A type is what a demand calls for. -/
inductive Demand.Meets (u : Universe) : Demand → TypeId → Prop
  | template {names : List String} {isMutable : Bool} {parent : Option TypeId} {t : TypeId}
      (h : u.HasTemplate t names isMutable parent) : Meets u ⟨names, isMutable, parent, none⟩ t
  | closed {names : List String} {isMutable : Bool} {parent : Option TypeId}
      {template t : TypeId} {arguments : List TypeId}
      (htemplate : u.HasTemplate template names isMutable parent)
      (h : u.HasClosed t template arguments) : Meets u ⟨names, isMutable, parent, some arguments⟩ t

/-- What a faithful registry stores for a demand is what the demand calls for. -/
theorem Faithful.meets_of_find? (h : Faithful r u) (ht : find? r.memo d = some t) :
    d.Meets u t := by
  obtain ⟨template, htemplate, ht⟩ := Option.bind_eq_some_iff.mp ht
  obtain ⟨names, isMutable, parent, arguments⟩ := d
  have hhas := h.template _ _ _ _ htemplate
  cases arguments with
  | none =>
    obtain rfl : template = t := Option.some.inj ht
    exact .template hhas
  | some arguments => exact .closed hhas (h.closed template arguments t ht)

theorem Demand.Meets.layout?_isSome (h : d.Meets u t) : (u.layout? t).isSome := by
  cases h with
  | template h =>
    obtain ⟨-, parameters, -, hlayout⟩ := h
    rw [hlayout]
    rfl
  | closed _ h =>
    obtain ⟨l, -, -, hlayout⟩ := h
    rw [hlayout]
    rfl

theorem Demand.Meets.knows (h : d.Meets u t) : u.Knows t := by
  obtain ⟨l, hl⟩ := Option.isSome_iff_exists.mp h.layout?_isSome
  exact Universe.knows_of_kind? (Universe.layout?_eq_some_iff.mp hl)

theorem Demand.Meets.parameters_eq_nil (h : d.Meets u t) {arguments : List TypeId}
    (hd : d.arguments = some arguments) : u.parameters t = [] := by
  cases h with
  | template => exact absurd hd nofun
  | closed _ h => rw [Universe.parameters, h.shape?_eq]

/-- A type is called for by one demand only. -/
theorem Demand.Meets.unique (h : d.Meets u t) (h' : d'.Meets u t) : d = d' := by
  cases h with
  | template h =>
    cases h' with
    | template h' =>
      obtain ⟨rfl, rfl, rfl⟩ := h.unique h'
      rfl
    | closed _ h' => exact absurd h' h.not_hasClosed
  | closed htemplate h =>
    cases h' with
    | template h' => exact absurd h h'.not_hasClosed
    | closed htemplate' h' =>
      obtain ⟨rfl, rfl⟩ := h.unique h'
      obtain ⟨rfl, rfl, rfl⟩ := htemplate.unique htemplate'
      rfl

/-- Demands share a type exactly if they are the same. -/
theorem Faithful.eq_iff_demand_eq (h : Faithful r u) {t' : TypeId} (ht : find? r.memo d = some t)
    (ht' : find? r.memo d' = some t') : t = t' ↔ d = d' := by
  constructor
  · rintro rfl
    exact (h.meets_of_find? ht).unique (h.meets_of_find? ht')
  · rintro rfl
    exact Option.some.inj (ht.symm.trans ht')

/-- The template of a type that is stored is the one that is stored for the open demand. -/
theorem Faithful.template?_eq_find? (h : Faithful r u) (ht : find? r.memo d = some t) :
    u.template? t = find? r.memo d.open ∧ (find? r.memo d.open).isSome := by
  obtain ⟨template, htemplate, ht⟩ := Option.bind_eq_some_iff.mp ht
  rw [find?_open, htemplate]
  refine ⟨?_, rfl⟩
  cases hd : d.arguments with
  | none =>
    rw [hd] at ht
    obtain rfl : template = t := Option.some.inj ht
    obtain ⟨-, parameters, -, hlayout⟩ := h.template _ _ _ _ htemplate
    rw [Universe.template?, Universe.shape?, hlayout]
    rfl
  | some arguments =>
    rw [hd] at ht
    exact (h.closed template arguments t ht).template?_eq

/-- Demands share a template exactly if they are the same but for the types closed over. -/
theorem Faithful.template?_eq_iff (h : Faithful r u) {t' : TypeId} (ht : find? r.memo d = some t)
    (ht' : find? r.memo d' = some t') : u.template? t = u.template? t' ↔ d.open = d'.open := by
  obtain ⟨htemplate, hsome⟩ := h.template?_eq_find? ht
  obtain ⟨htemplate', hsome'⟩ := h.template?_eq_find? ht'
  obtain ⟨T, hT⟩ := Option.isSome_iff_exists.mp hsome
  obtain ⟨T', hT'⟩ := Option.isSome_iff_exists.mp hsome'
  rw [htemplate, htemplate', hT, hT', Option.some.injEq]
  exact h.eq_iff_demand_eq hT hT'

/-- What follows the name of a type in its full name. -/
def Demand.suffix (d : Demand) (u : Universe) : String :=
  match d.arguments with
  | none => ""
  | some arguments => u.closedSuffix arguments

/-- A type is named as a demand calls for, by an index that is left open; what it is closed over has
the names that it had in an earlier universe. -/
structure Demand.Names (d : Demand) (n : Naming) (u₀ u : Universe) (t : TypeId) : Prop where
  name : ∃ i, u.name t = n.typeName i d.names.length ∧
    u.fullName t = n.typeName i d.names.length ++ d.suffix u₀
  parameters : d.arguments = none → u.HasParameters t n d.names

theorem Demand.Names.grows {u₀ : Universe} (h : d.Names n u₀ u t) (hg : Grows u v)
    (ht : u.Knows t) : d.Names n u₀ v t := by
  refine ⟨?_, fun hd => hg.hasParameters ht (h.parameters hd)⟩
  rw [hg.name_eq ht, hg.fullName_eq ht]
  exact h.name

end Registry

/-! ### Outlines -/

/-- What a layout says, but for the identities that were given to a template and to its type
parameters: `Object` stands in for them. -/
def Layout.outline (l : Layout) : Layout :=
  match l.shape with
  | .template parameters =>
    { l with
      properties := l.properties.map fun p => { p with type := .object }
      shape := .template (parameters.map fun _ => .object) }
  | .closed _ arguments => { l with shape := .closed .object arguments }

/-- The outline of a template says nothing of its type parameters. -/
theorem Layout.outline_ofFields_template {names : List String} {parameters : List TypeId}
    (hlength : parameters.length = names.length) (parent : Option TypeId)
    (inherited : List InheritedMember) (isMutable : Bool) :
    (ofFields (names.zip parameters) parent inherited isMutable (.template parameters)).outline =
      ofFields (names.map fun name => (name, .object)) parent inherited isMutable
        (.template (names.map fun _ => .object)) := by
  have hnames : names = (names.zip parameters).map Prod.fst :=
    (List.map_fst_zip (by omega)).symm
  have hparameters : (parameters.map fun _ => TypeId.object) = names.map fun _ => .object := by
    rw [List.map_const', List.map_const', hlength]
  unfold outline ofFields
  dsimp only
  rw [hparameters, map_mapIdx, mapIdx_map]
  congr 1
  conv_rhs => rw [hnames]
  rw [mapIdx_map]

namespace Registry

variable {d : Demand} {t : TypeId} {u : Universe}

/-- The outline of what a demand calls for, where the parent has given members. -/
def Demand.outline (d : Demand) (inherited : List InheritedMember) : Layout :=
  match d.arguments with
  | none =>
    .ofFields (d.names.map fun name => (name, .object)) d.parent inherited d.isMutable
      (.template (d.names.map fun _ => .object))
  | some arguments =>
    .ofFields (d.names.zip arguments) d.parent inherited d.isMutable (.closed .object arguments)

/-- A type that meets a demand has the layout that the demand calls for. -/
theorem Demand.Meets.exists_outline (h : d.Meets u t) :
    ∃ l, u.layout? t = some l ∧ l.outline = d.outline (u.membersOver d.parent) := by
  cases h with
  | template h =>
    obtain ⟨-, parameters, hlength, hlayout⟩ := h
    exact ⟨_, hlayout, Layout.outline_ofFields_template hlength _ _ _⟩
  | closed htemplate h =>
    obtain ⟨-, hlayout⟩ := htemplate.layout?_closed h
    exact ⟨_, hlayout, rfl⟩

end Registry

end RecordTypes
