import RecordTypes.Proofs.Registry.Direct

/-!
# Names of new types

A type that is cast was not known before (`Universe.not_knows_of_cast`).  A template bears the name
that its index calls for, its type parameters are named after its properties (`HasParameters`), and
a closed type bears the name of its template, which its full name follows up with the types closed
over.  A registry that stores nothing for a request hands out such a type
(`Registry.templateFor_new`, `Registry.close_new`).
-/

namespace RecordTypes

namespace Universe

variable {u v : Universe} {t : TypeId} {c : Casting} {d : Descriptor}

/-- A casting that succeeds declares the type asked for last. -/
theorem cast_of_outcome (u : Universe) (h : c.outcome = .ok d) :
    u.cast c = (.ok (u.addAll c.auxiliary).next, (u.addAll c.auxiliary).add d) := by
  unfold cast
  rw [h]

theorem exists_outcome_of_cast (h : (u.cast c).1 = .ok t) : ∃ d, c.outcome = .ok d := by
  unfold cast at h
  rcases houtcome : c.outcome with reason | d
  · rw [houtcome] at h
    exact absurd h nofun
  · exact ⟨d, rfl⟩

/-- A type that is cast was not known before. -/
theorem not_knows_of_cast (h : (u.cast c).1 = .ok t) : ¬ u.Knows t := by
  obtain ⟨d, hd⟩ := exists_outcome_of_cast h
  rw [cast_of_outcome u hd] at h
  obtain rfl := Except.ok.inj h
  intro hknows
  have hrank := rank_lt_rank_next ((extends_addAll u c.auxiliary).knows hknows)
  exact Nat.lt_irrefl _ hrank

theorem entry?_of_cast (hd : c.outcome = .ok d) (h : (u.cast c).1 = .ok t) :
    Universe.entry? (u.cast c).2 t = some ⟨d, (u.addAll c.auxiliary).fullNameOf d⟩ := by
  rw [cast_of_outcome u hd] at h ⊢
  obtain rfl := Except.ok.inj h
  exact (entry?_add _ _ _).trans (if_pos rfl)

/-- A type that is cast bears the name asked for. -/
theorem name_of_cast (hd : c.outcome = .ok d) (h : (u.cast c).1 = .ok t) :
    (u.cast c).2.name t = d.name ∧
    (u.cast c).2.fullName t = (u.addAll c.auxiliary).fullNameOf d := by
  rw [name, fullName, entry?_of_cast hd h]
  exact ⟨rfl, rfl⟩

theorem Grows.name_eq (h : Grows u v) (ht : u.Knows t) : v.name t = u.name t := by
  rw [name, name, h.entry?_eq ht]

theorem Grows.fullName_eq (h : Grows u v) (ht : u.Knows t) : v.fullName t = u.fullName t := by
  rw [fullName, fullName, h.entry?_eq ht]

/-- Type parameters that are declared together are found under the next identities, in order. -/
theorem entry?_addAll {ds : List Descriptor} (hds : ∀ d ∈ ds, ∃ i, d.kind = .parameter i)
    (i : Nat) : Universe.entry? (u.addAll ds) (.declared (u.entries.size + i)) =
      ds[i]?.map fun d => ⟨d, d.name⟩ := by
  induction ds generalizing u i with
  | nil => exact Array.getElem?_eq_none (Nat.le_add_right _ _)
  | cons d ds ih =>
    obtain ⟨⟨position, hd⟩, hds⟩ := List.forall_mem_cons.mp hds
    cases i with
    | zero =>
      have hentry : Universe.entry? (u.add d) u.next = some ⟨d, d.name⟩ := by
        rw [entry?_add, if_pos rfl, fullNameOf, hd]
      have hknows : (u.add d).Knows u.next := by
        rw [Knows, hentry]
        rfl
      exact (extends_addAll (u.add d) ds _ hknows).trans hentry
    | succ i =>
      have hsize : (u.add d).entries.size = u.entries.size + 1 := Array.size_push _
      have hrest := ih (u := u.add d) hds i
      rw [hsize, Nat.add_assoc, Nat.add_comm 1 i] at hrest
      exact hrest

theorem parameters_add_next {l : Layout} {name : String} {parameters : List TypeId}
    (hl : l.shape = .template parameters) :
    (u.add ⟨name, .record l⟩).parameters u.next = parameters := by
  have hlayout : (u.add ⟨name, .record l⟩).layout? u.next = some l :=
    layout?_eq_some_iff.mpr (kind?_add_next u _)
  rw [Universe.parameters, shape?, hlayout, Option.map_some, hl]

/-- What follows the name of a closed type in its full name: the types that it is closed over. -/
def closedSuffix (u : Universe) (arguments : List TypeId) : String :=
  "[" ++ ",".intercalate (arguments.map u.fullName) ++ "]"

/-- A type has a type parameter for each of the names, called after the name. -/
def HasParameters (u : Universe) (t : TypeId) (n : Naming) (names : List String) : Prop :=
  (u.parameters t).map u.entry? = names.mapIdx fun i name =>
    some ⟨⟨n.parameterName name, .parameter i⟩, n.parameterName name⟩

/-- The descriptors of type parameters called after names. -/
def parameterDescriptors (n : Naming) (names : List String) : List Descriptor :=
  (names.map n.parameterName).mapIdx fun i name => ⟨name, .parameter i⟩

theorem kind_of_mem_parameterDescriptors {n : Naming} {names : List String} {d : Descriptor}
    (hd : d ∈ parameterDescriptors n names) : ∃ i, d.kind = .parameter i := by
  obtain ⟨i, hi, rfl⟩ := List.mem_mapIdx.mp hd
  exact ⟨i, rfl⟩

/-- A template over the type parameters that were declared just before has them. -/
theorem hasParameters_add_next (n : Naming) (names : List String) {l : Layout} {name : String}
    (hl : l.shape = .template (Direct.parameters u (names.map n.parameterName))) :
    let v := u.addAll (parameterDescriptors n names)
    (v.add ⟨name, .record l⟩).HasParameters v.next n names := by
  intro v
  rw [HasParameters, parameters_add_next hl]
  apply List.ext_getElem?
  intro i
  have hentry : Universe.entry? v (.declared (u.entries.size + i)) = _ :=
    entry?_addAll (fun _ => kind_of_mem_parameterDescriptors) i
  rw [parameterDescriptors, List.getElem?_mapIdx, List.getElem?_map, Option.map_map,
    Option.map_map] at hentry
  rw [List.getElem?_map, Direct.parameters, List.getElem?_mapIdx, List.getElem?_mapIdx,
    List.getElem?_map, Option.map_map, Option.map_map]
  cases hi : names[i]? with
  | none => rfl
  | some property =>
    rw [hi] at hentry
    have hknows : v.Knows (.declared (u.entries.size + i)) := by
      rw [Knows]
      exact hentry ▸ rfl
    -- The template, which is declared last, changes nothing for its parameters.
    exact congrArg some ((extends_add _ _ _ hknows).trans hentry)

theorem Grows.parameters_eq (h : Grows u v) (ht : u.Knows t) :
    v.parameters t = u.parameters t := by
  unfold parameters shape? Universe.layout?
  rw [h.kind?_eq ht]

theorem Grows.hasParameters (h : Grows u v) (ht : u.Knows t) {n : Naming} {names : List String}
    (hp : u.HasParameters t n names) : v.HasParameters t n names := by
  rw [HasParameters, h.parameters_eq ht, ← hp]
  apply List.map_congr_left
  intro p hmem
  -- A parameter is known, since it is found under its name.
  have hentry : u.entry? p ∈ (u.parameters t).map u.entry? := List.mem_map_of_mem hmem
  rw [hp] at hentry
  obtain ⟨i, hi, hsome⟩ := List.mem_mapIdx.mp hentry
  apply h.entry?_eq
  rw [Knows, ← hsome]
  rfl

end Universe

namespace Foundry

variable {σ : Type} {u : Universe} {t template : TypeId} {arguments : List TypeId}

/-- Whatever the backend, a template that is made was not known before. -/
theorem not_knows_of_castTemplate {b : Backend σ} {n : Naming} {names : List String}
    {isMutable : Bool} {parent : Option TypeId} {f : Foundry σ}
    (h : (castTemplate b n names isMutable parent f u).1 = .ok t) : ¬ u.Knows t := by
  unfold castTemplate at h
  dsimp only at h
  rcases hcheck : u.checkDefinition (properParent parent) names with e | _
  · rw [hcheck] at h
    exact absurd h nofun
  · rw [hcheck] at h
    exact Universe.not_knows_of_cast h

/-- A template is named by its index and the number of its properties. -/
theorem name_castTemplate {n : Naming} {names : List String} {isMutable : Bool}
    {parent : Option TypeId} {f : Foundry Unit}
    (h : (castTemplate directBackend n names isMutable parent f u).1 = .ok t) :
    let out := castTemplate directBackend n names isMutable parent f u
    out.2.2.name t = n.typeName f.nextIndex names.length ∧
      out.2.2.fullName t = n.typeName f.nextIndex names.length := by
  unfold castTemplate at h ⊢
  dsimp only at h ⊢
  rcases hcheck : u.checkDefinition (properParent parent) names with e | _
  · rw [hcheck] at h
    exact absurd h nofun
  · rw [hcheck] at h
    change (u.cast (Direct.define u _)).1 = .ok t at h
    show (u.cast (Direct.define u _)).2.name t = _ ∧ (u.cast (Direct.define u _)).2.fullName t = _
    rw [Direct.define_eq u (List.length_map _)] at h ⊢
    exact Universe.name_of_cast rfl h

/-- A template has its type parameters declared before it. -/
theorem hasParameters_castTemplate {n : Naming} {names : List String} {isMutable : Bool}
    {parent : Option TypeId} {f : Foundry Unit}
    (h : (castTemplate directBackend n names isMutable parent f u).1 = .ok t) :
    (castTemplate directBackend n names isMutable parent f u).2.2.HasParameters t n names := by
  unfold castTemplate at h ⊢
  dsimp only at h ⊢
  rcases hcheck : u.checkDefinition (properParent parent) names with e | _
  · rw [hcheck] at h
    exact absurd h nofun
  · rw [hcheck] at h
    change (u.cast (Direct.define u _)).1 = .ok t at h
    show (u.cast (Direct.define u _)).2.HasParameters t n names
    rw [Direct.define_eq u (List.length_map _)] at h ⊢
    rw [Universe.cast_of_outcome u rfl] at h ⊢
    obtain rfl := Except.ok.inj h
    exact Universe.hasParameters_add_next n names rfl

/-- A closed type bears the name of its template; its full name lists what it is closed over. -/
theorem name_castClosed {f : Foundry Unit}
    (h : (castClosed directBackend template arguments f u).1 = .ok t) :
    let out := castClosed directBackend template arguments f u
    out.2.2.name t = u.name template ∧
      out.2.2.fullName t = u.name template ++ u.closedSuffix arguments := by
  unfold castClosed at h ⊢
  rcases hcheck : u.checkClosing template arguments with e | _
  · rw [hcheck] at h
    exact absurd h nofun
  · rw [hcheck] at h
    change (u.cast (Direct.close u template arguments)).1 = .ok t at h
    show (u.cast (Direct.close u template arguments)).2.name t = _ ∧
      (u.cast (Direct.close u template arguments)).2.fullName t = _
    obtain ⟨l, hl, harity⟩ := Universe.exists_layout?_of_checkClosing hcheck
    rw [Direct.close_eq u hl harity] at h ⊢
    obtain ⟨hname, hfullName⟩ := Universe.name_of_cast rfl h
    refine ⟨hname, hfullName.trans ?_⟩
    show u.name template ++ "[" ++ _ ++ "]" = _
    rw [Universe.closedSuffix, String.append_assoc, String.append_assoc]
    rfl

end Foundry

namespace Registry

variable {r : Registry Unit} {u : Universe}

/-- A template that was not stored is new, named by the next index, and has type parameters. -/
theorem templateFor_new (hr : r.memo.Sound) {names : List String} {options : Options}
    {template : Template} (hget : r.memo.get? (templateSignature names options) = none)
    (h : (templateFor directBackend r u names options).1 = .ok template) :
    let out := templateFor directBackend r u names options
    let name := r.naming.typeName r.foundry.nextIndex names.length
    ¬ u.Knows template.type ∧
    (out.2.2.name template.type = name ∧ out.2.2.fullName template.type = name) ∧
    out.2.2.HasParameters template.type r.naming names := by
  rcases hr.resolve_cases (templateSignature names options)
    (templateBuild directBackend r.naming names options) (r.foundry, u) with
    ⟨t, hsome, -⟩ | ⟨t, state, -, hbuild, hres⟩ | ⟨e, state, -, -, hres⟩
  · rw [hget] at hsome
    exact absurd hsome nofun
  · rw [templateFor_eq, hres] at h ⊢
    obtain rfl : template = ⟨t⟩ := (asTemplate_eq_ok_iff.mp h).2
    have hcast : (r.foundry.castTemplate directBackend r.naming names options.isMutable
        (properParent options.parent) u) = (.ok t, state) := hbuild
    have hname := Foundry.name_castTemplate (congrArg Prod.fst hcast)
    have hparameters := Foundry.hasParameters_castTemplate (congrArg Prod.fst hcast)
    rw [hcast] at hname hparameters
    exact ⟨Foundry.not_knows_of_castTemplate (congrArg Prod.fst hcast), hname, hparameters⟩
  · rw [templateFor_eq, hres] at h
    exact absurd h nofun

/-- A closed type that was not stored bears the name of its template; its full name lists what it is
closed over. -/
theorem close_new (hr : r.memo.Sound) {template : Template} {arguments : List TypeId} {t : TypeId}
    (hget : r.memo.get? (.closed template.type arguments) = none)
    (h : (close directBackend r u template arguments).1 = .ok t) :
    let out := close directBackend r u template arguments
    out.2.2.name t = u.name template.type ∧
      out.2.2.fullName t = u.name template.type ++ u.closedSuffix arguments := by
  rcases hr.resolve_cases (.closed template.type arguments)
    (closedBuild directBackend template arguments) (r.foundry, u) with
    ⟨t, hsome, -⟩ | ⟨t', state, -, hbuild, hres⟩ | ⟨e, state, -, -, hres⟩
  · rw [hget] at hsome
    exact absurd hsome nofun
  · rw [close_eq, hres] at h ⊢
    obtain rfl : t' = t := Except.ok.inj h
    have hcast : r.foundry.castClosed directBackend template.type arguments u = (.ok t', state) :=
      hbuild
    have hname := Foundry.name_castClosed (congrArg Prod.fst hcast)
    rw [hcast] at hname
    exact hname
  · rw [close_eq, hres] at h
    exact absurd h nofun

end Registry

end RecordTypes
