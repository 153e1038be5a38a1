import RecordTypes.Proofs.Registry.Run
import RecordTypes.Proofs.Universe.Record
import RecordTypes.Proofs.World.Requests

/-!
# Values bound by name

An object of a given type is made from values that are bound to the properties by name.  The values
must be for these names and no others, and each must fit its property (`World.Binds`).  Where they
are not, the fault is the first of these three that there is: a value for no property, in the order
of the values, a property without a value, in the order of the properties, and a value that does not
fit, in the order of the properties again.

The order of the values counts for the first fault only.  What is made depends on nothing but which
value has which name (`World.Binds.createNamed_eq`), and the registry is not changed by any of it.
-/

namespace RecordTypes

namespace Fields

variable {f f' : Fields Value} {name : String}

/-- The value of a name; null, if there is none. -/
def given (f : Fields Value) (name : String) : Value := (f.get? name).getD .null

theorem get?_eq_given (h : name ∈ f.names) : f.get? name = some (f.given name) := by
  have hne : f.get? name ≠ none := fun hnone => get?_eq_none_iff.mp hnone h
  obtain ⟨v, hv⟩ := Option.ne_none_iff_exists'.mp hne
  rw [given, hv, Option.getD_some]

theorem given_of_get? {v : Value} (h : f.get? name = some v) : f.given name = v := by
  rw [given, h, Option.getD_some]

theorem mem_names_of_get? {v : Value} (h : f.get? name = some v) : name ∈ f.names := by
  by_contra hname
  rw [get?_eq_none_iff.mpr hname] at h
  exact absurd h nofun

/-- A look-up does not depend on the order of the entries. -/
theorem get?_eq_of_perm (h : f'.entries.Perm f.entries) (name : String) :
    f'.get? name = f.get? name := by
  apply Option.ext
  intro v
  rw [get?_eq_some_iff, get?_eq_some_iff, h.mem_iff]

theorem given_eq_of_perm (h : f'.entries.Perm f.entries) (name : String) :
    f'.given name = f.given name := by
  rw [given, given, get?_eq_of_perm h]

theorem mem_names_of_perm (h : f'.entries.Perm f.entries) :
    name ∈ f'.names ↔ name ∈ f.names := (h.map _).mem_iff

end Fields

/-! ### The constructor of a layout -/

namespace Layout

variable {l : Layout}

/-- What holds of the names and types of all properties holds of those of all parameters. -/
theorem forall_constructor_iff {P : String × TypeId → Prop} :
    (∀ q ∈ l.constructor, P (q.name, q.type)) ↔ ∀ p ∈ l.properties, P (p.name, p.type) := by
  have hmap := List.forall_mem_map (f := fun q : Parameter => (q.name, q.type))
    (l := l.constructor) (P := P)
  rw [← hmap, map_constructor, List.forall_mem_map]

/-- The first property of its sort has the first parameter of that sort. -/
theorem exists_find?_constructor {P : String × TypeId → Bool} {p : Property}
    (h : l.properties.find? (fun p => P (p.name, p.type)) = some p) :
    ∃ q, l.constructor.find? (fun q => P (q.name, q.type)) = some q ∧ q.name = p.name ∧
      q.type = p.type := by
  have hfound : (l.properties.map fun p => (p.name, p.type)).find? P = some (p.name, p.type) := by
    rw [List.find?_map, show l.properties.find? (P ∘ fun p => (p.name, p.type)) = some p from h,
      Option.map_some]
  rw [← map_constructor, List.find?_map] at hfound
  obtain ⟨q, hq, hsame⟩ := Option.map_eq_some_iff.mp hfound
  obtain ⟨hname, htype⟩ := Prod.mk.inj hsame
  exact ⟨q, hq, hname, htype⟩

theorem map_name_constructor (f : String → Value) (l : Layout) :
    (l.constructor.map fun q => f q.name) = l.properties.map fun p => f p.name := by
  have hmap := congrArg (List.map fun q : String × TypeId => f q.1) l.map_constructor
  rw [List.map_map, List.map_map] at hmap
  exact hmap

end Layout

namespace World

variable {w : World} {t : TypeId} {l : Layout} {values values' : Fields Value} {p : Property}
  {name : String}

/-! ### Arguments -/

theorem argumentsFor_eq_ok {ps : List Parameter} (h : ∀ q ∈ ps, q.name ∈ values.names) :
    argumentsFor values ps = .ok (ps.map fun q => values.given q.name) := by
  induction ps with
  | nil => rfl
  | cons q qs ih =>
    obtain ⟨hq, hqs⟩ := List.forall_mem_cons.mp h
    rw [argumentsFor, Fields.get?_eq_given hq]
    dsimp only
    rw [ih hqs]
    rfl

/-- The first parameter without a value is what is complained of. -/
theorem argumentsFor_eq_error {ps : List Parameter} {q : Parameter}
    (h : ps.find? (fun q => q.name ∉ values.names) = some q) :
    argumentsFor values ps = .error (.missingArgument q.name) := by
  induction ps with
  | nil => exact absurd h nofun
  | cons q' qs ih =>
    by_cases hq' : q'.name ∈ values.names
    · rw [List.find?_cons_of_neg (by simpa using hq')] at h
      rw [argumentsFor, Fields.get?_eq_given hq']
      dsimp only
      rw [ih h]
      rfl
    · rw [List.find?_cons_of_pos (by simpa using hq')] at h
      obtain rfl := Option.some.inj h
      rw [argumentsFor, Fields.get?_eq_none_iff.mpr hq']

/-- The first argument that does not fit its parameter is what is complained of. -/
theorem checkArguments_eq_error {ps : List Parameter} {f : Parameter → Value} {q : Parameter}
    (h : ps.find? (fun q => !w.fits q.type (f q)) = some q) :
    w.checkArguments ps (ps.map f) =
      .error (.unfit q.name (w.types.fullName q.type) (w.typeName (f q))) := by
  induction ps with
  | nil => exact absurd h nofun
  | cons q' qs ih =>
    rw [List.map_cons, checkArguments]
    cases hfits : w.fits q'.type (f q') with
    | true =>
      rw [List.find?_cons_of_neg (by simp [hfits])] at h
      rw [(w.checkFits_eq_ok_iff q'.name _ _).mpr hfits, ih h]
      rfl
    | false =>
      rw [List.find?_cons_of_pos (by simp [hfits])] at h
      obtain rfl := Option.some.inj h
      rw [checkFits, if_neg (by simp [hfits])]
      rfl

/-! ### Making an instance by name -/

/-- The values are for the properties of a layout and for nothing else, and each fits its
property. -/
structure Binds (w : World) (l : Layout) (values : Fields Value) : Prop where
  names : ∀ name, name ∈ values.names ↔ name ∈ l.properties.map (·.name)
  fits : ∀ p ∈ l.properties, ∀ v, values.get? p.name = some v → w.fits p.type v = true

theorem Binds.congr (h : w.Binds l values) (hget : ∀ name, values'.get? name = values.get? name)
    (hnames : ∀ name, name ∈ values'.names ↔ name ∈ values.names) : w.Binds l values' where
  names name := (hnames name).trans (h.names name)
  fits p hp v hv := h.fits p hp v (by rw [← hget, hv])

theorem binds_iff_of_perm (h : values'.entries.Perm values.entries) :
    w.Binds l values' ↔ w.Binds l values where
  mp hbinds := hbinds.congr (fun name => (Fields.get?_eq_of_perm h name).symm)
    fun _ => (Fields.mem_names_of_perm h).symm
  mpr hbinds := hbinds.congr (Fields.get?_eq_of_perm h) fun _ => Fields.mem_names_of_perm h

theorem create_eq_error {arguments : List Value} {e : Fault} (hl : w.types.layout? t = some l)
    (hshape : l.shape.isTemplate = false) (hlength : arguments.length = l.constructor.length)
    (hcheck : w.checkArguments l.constructor arguments = .error e) :
    w.create t arguments = (.error e, w.heap) := by
  unfold create
  rw [hl]
  dsimp only
  rw [hshape, hcheck]
  simp [hlength]

section CreateNamed

variable (hl : w.types.layout? t = some l) (hshape : l.shape.isTemplate = false)
include hl hshape

/-- The first value for no property is what is complained of. -/
theorem createNamed_of_unknown
    (h : values.names.find? (fun name => name ∉ l.properties.map (·.name)) = some name) :
    w.createNamed t values = (.error (.unknownProperty (w.types.fullName t) name), w.heap) := by
  have hfind : values.names.find? (fun name => (l.index? name).isNone) = some name := by
    rw [← h]
    congr 1
    funext name
    rw [Bool.eq_iff_iff, Option.isNone_iff_eq_none, Layout.index?_eq_none_iff, decide_eq_true_iff]
  unfold createNamed
  rw [hl]
  dsimp only
  rw [hshape, hfind]
  rfl

/-- Without a value for no property, arguments are looked for and an instance is made of them. -/
theorem createNamed_of_known (h : ∀ name ∈ values.names, name ∈ l.properties.map (·.name)) :
    w.createNamed t values = match argumentsFor values l.constructor with
      | .error e => (.error e, w.heap)
      | .ok arguments => w.create t arguments := by
  have hfind : values.names.find? (fun name => (l.index? name).isNone) = none := by
    rw [List.find?_eq_none]
    intro name hname hnone
    exact Layout.index?_eq_none_iff.mp (Option.isNone_iff_eq_none.mp hnone) (h name hname)
  unfold createNamed
  rw [hl]
  dsimp only
  rw [hshape, hfind]
  rfl

/-- The first property without a value is what is complained of next. -/
theorem createNamed_of_missing (h : ∀ name ∈ values.names, name ∈ l.properties.map (·.name))
    (hp : l.properties.find? (fun p => p.name ∉ values.names) = some p) :
    w.createNamed t values = (.error (.missingArgument p.name), w.heap) := by
  obtain ⟨q, hq, hname, -⟩ := Layout.exists_find?_constructor
    (P := fun q => q.1 ∉ values.names) hp
  have hknown := createNamed_of_known hl hshape h
  rw [argumentsFor_eq_error hq, hname] at hknown
  exact hknown

theorem createNamed_of_names (h : ∀ name, name ∈ values.names ↔ name ∈ l.properties.map (·.name)) :
    w.createNamed t values = w.create t (l.properties.map fun p => values.given p.name) := by
  have harguments : ∀ q ∈ l.constructor, q.name ∈ values.names :=
    Layout.forall_constructor_iff (P := fun q => q.1 ∈ values.names).mpr fun p hp =>
      (h p.name).mpr (List.mem_map_of_mem hp)
  have hknown := createNamed_of_known hl hshape fun name hname => (h name).mp hname
  rw [argumentsFor_eq_ok harguments, Layout.map_name_constructor] at hknown
  exact hknown

/-- The first value that does not fit its property is what is complained of last. -/
theorem createNamed_of_unfit (h : ∀ name, name ∈ values.names ↔ name ∈ l.properties.map (·.name))
    (hp : l.properties.find? (fun p => !w.fits p.type (values.given p.name)) = some p) :
    w.createNamed t values = (.error (.unfit p.name (w.types.fullName p.type)
      (w.typeName (values.given p.name))), w.heap) := by
  obtain ⟨q, hq, hname, htype⟩ := Layout.exists_find?_constructor
    (P := fun q => !w.fits q.2 (values.given q.1)) hp
  have hcheck := checkArguments_eq_error (f := fun q => values.given q.name) hq
  rw [Layout.map_name_constructor, hname, htype] at hcheck
  rw [createNamed_of_names hl hshape h]
  exact create_eq_error hl hshape (by rw [List.length_map, l.length_constructor]) hcheck

/-- Values that are bound make an instance that holds them in the order of the properties. -/
theorem Binds.createNamed_eq (h : w.Binds l values) :
    w.createNamed t values = (.ok w.heap.next,
      (w.heap.allocate t (l.properties.map fun p => values.given p.name) l.inherited).2) := by
  have hlength : (l.properties.map fun p => values.given p.name).length =
      l.constructor.length := by rw [List.length_map, l.length_constructor]
  have hfits : ∀ p ∈ l.properties, w.fits p.type (values.given p.name) = true := fun p hp =>
    h.fits p hp _ (Fields.get?_eq_given ((h.names _).mpr (List.mem_map_of_mem hp)))
  have hconstructor : List.Forall₂ (fun q v => w.fits q.type v = true) l.constructor
      (l.constructor.map fun q => values.given q.name) :=
    List.forall₂_map_right_iff.mpr (List.forall₂_same.mpr
      (Layout.forall_constructor_iff (P := fun q => w.fits q.2 (values.given q.1) = true).mpr
        hfits))
  rw [Layout.map_name_constructor] at hconstructor
  rw [createNamed_of_names hl hshape h.names]
  exact create_eq_ok_iff.mpr
    ⟨l, hl, hshape, hlength, (checkArguments_eq_ok_iff hlength).mpr hconstructor, rfl⟩

/-- Values that are not bound make no instance. -/
theorem exists_createNamed_eq_error (h : ¬ w.Binds l values) :
    ∃ e, w.createNamed t values = (.error e, w.heap) := by
  rcases hunknown : values.names.find? (fun name => name ∉ l.properties.map (·.name)) with _ | name
  · have hknown : ∀ name ∈ values.names, name ∈ l.properties.map (·.name) := by
      simpa using List.find?_eq_none.mp hunknown
    rcases hmissing : l.properties.find? (fun p => p.name ∉ values.names) with _ | p
    · have hnames : ∀ name, name ∈ values.names ↔ name ∈ l.properties.map (·.name) := by
        refine fun name => ⟨hknown name, fun hname => ?_⟩
        obtain ⟨p, hp, rfl⟩ := List.mem_map.mp hname
        simpa using List.find?_eq_none.mp hmissing p hp
      rcases hunfit : l.properties.find? (fun p => !w.fits p.type (values.given p.name)) with _ | p
      · -- Nothing is left that could be wrong with the values.
        refine absurd ⟨hnames, fun p hp v hv => ?_⟩ h
        rw [← Fields.given_of_get? hv]
        simpa using List.find?_eq_none.mp hunfit p hp
      · exact ⟨_, createNamed_of_unfit hl hshape hnames hunfit⟩
    · exact ⟨_, createNamed_of_missing hl hshape hknown hmissing⟩
  · exact ⟨_, createNamed_of_unknown hl hshape hunknown⟩

end CreateNamed

/-- What is read from the new instance under a name is the value of the name. -/
theorem Binds.read_eq (h : w.Binds l values) (hl : w.types.layout? t = some l) {v : Value}
    (hv : values.get? name = some v) :
    let out := w.heap.allocate t (l.properties.map fun p => values.given p.name) l.inherited
    World.read { w with heap := out.2 } out.1 name = .ok v := by
  intro out
  have hcell : out.2.cell out.1 = ⟨t, l.properties.map fun p => values.given p.name,
      (Heap.initials w.heap.objects l.inherited).1⟩ := Heap.cell_allocate_next _ _ _ _
  have hlayout : World.layoutOf? { w with heap := out.2 } out.1 = some l := by
    rw [layoutOf?, hcell]
    exact hl
  have hname : name ∈ l.properties.map (·.name) :=
    (h.names name).mp (Fields.mem_names_of_get? hv)
  have hindex : l.index? name ≠ none := fun hnone => Layout.index?_eq_none_iff.mp hnone hname
  obtain ⟨i, hi⟩ := Option.ne_none_iff_exists'.mp hindex
  -- The slot at the place of the name was filled with the value of the name at that place.
  have hslot : (l.properties.map fun p => values.given p.name)[i]? = some v := by
    have hplace := Layout.getElem?_name_of_index? hi
    rw [List.getElem?_map] at hplace ⊢
    obtain ⟨p, hp, rfl⟩ := Option.map_eq_some_iff.mp hplace
    rw [hp, Option.map_some, Fields.given_of_get? hv]
  rw [read, slot?, hlayout, Option.bind_some, hi, hcell]
  simp only [hslot]

end World

namespace Registry

variable {σ : Type}

/-! ### Objects of a given type -/

section

variable {b : Backend σ} {r : Registry σ} {w : World} {t : TypeId} {l : Layout}
  {values values' : Fields Value}

theorem object_of_createNamed {result : Except Fault InstanceId} {heap : Heap}
    (h : w.createNamed t values = (result, heap)) :
    object b r w values (some t) = (result, r, { w with heap }) := by
  unfold object
  dsimp only
  rw [h]

variable (hl : w.types.layout? t = some l) (hshape : l.shape.isTemplate = false)
include hl hshape

/-- Of values that are bound an object is made, and nothing else happens. -/
theorem object_of_binds (h : w.Binds l values) :
    object b r w values (some t) = (.ok w.heap.next, r, { w with
      heap := (w.heap.allocate t (l.properties.map fun p => values.given p.name)
        l.inherited).2 }) :=
  object_of_createNamed (h.createNamed_eq hl hshape)

/-- Of values that are not bound nothing is made. -/
theorem object_of_not_binds (h : ¬ w.Binds l values) :
    ∃ e, object b r w values (some t) = (.error e, r, w) := by
  obtain ⟨e, he⟩ := World.exists_createNamed_eq_error hl hshape h
  exact ⟨e, object_of_createNamed he⟩

theorem exists_object_iff_binds :
    (∃ made, (object b r w values (some t)).1 = .ok made) ↔ w.Binds l values := by
  constructor
  · rintro ⟨made, h⟩
    by_contra hbinds
    obtain ⟨e, he⟩ := object_of_not_binds (b := b) (r := r) hl hshape hbinds
    rw [he] at h
    exact absurd h nofun
  · intro h
    exact ⟨_, congrArg Prod.fst (object_of_binds hl hshape h)⟩

/-- Of the same values in another order the same object is made. -/
theorem object_eq_of_perm (hperm : values'.entries.Perm values.entries) (h : w.Binds l values) :
    object b r w values' (some t) = object b r w values (some t) := by
  rw [object_of_binds hl hshape h,
    object_of_binds hl hshape ((World.binds_iff_of_perm hperm).mpr h)]
  simp only [Fields.given_eq_of_perm hperm]

end

/-- An object of a closed type is made exactly from values that are bound to the properties of the
type.  It is of that type, each of its properties has the value of its name, and the order of the
values does not matter.  Else the fault is the first value for no property, or else the first
property without a value, or else the first property with a value that does not fit it.  Neither the
registry nor the types are changed in any case, and nothing at all is if there is a fault. -/
theorem object_of_closed (b : Backend σ) (r : Registry σ) {w : World} {t : TypeId} {l : Layout}
    (hl : w.types.layout? t = some l) (hshape : l.shape.isTemplate = false)
    (values : Fields Value) :
    let out := object b r w values (some t)
    ((∃ made, out.1 = .ok made) ↔ w.Binds l values) ∧
    (∀ made, out.1 = .ok made →
      ¬ w.heap.Holds (.ref made) ∧ w.heap.Extends out.2.2.heap ∧
      (out.2.2.heap.cell made).type = t ∧
      ∀ name v, values.get? name = some v → out.2.2.read made name = .ok v) ∧
    (∀ values' : Fields Value, values'.entries.Perm values.entries →
      let out' := object b r w values' (some t)
      ((∃ made, out'.1 = .ok made) ↔ ∃ made, out.1 = .ok made) ∧
      ∀ made, out.1 = .ok made → out' = out) ∧
    (∀ name, values.names.find? (fun name => name ∉ l.properties.map (·.name)) = some name →
      out.1 = .error (.unknownProperty (w.types.fullName t) name)) ∧
    ((∀ name ∈ values.names, name ∈ l.properties.map (·.name)) →
      ∀ p, l.properties.find? (fun p => p.name ∉ values.names) = some p →
        out.1 = .error (.missingArgument p.name)) ∧
    ((∀ name, name ∈ values.names ↔ name ∈ l.properties.map (·.name)) →
      ∀ p, l.properties.find? (fun p => !w.fits p.type (values.given p.name)) = some p →
        out.1 = .error (.unfit p.name (w.types.fullName p.type)
          (w.typeName (values.given p.name)))) ∧
    out.2.1 = r ∧ out.2.2.types = w.types ∧ ∀ e, out.1 = .error e → out.2.2 = w := by
  intro out
  have hverdict : (∃ made, out.1 = .ok made) ↔ w.Binds l values := exists_object_iff_binds hl hshape
  refine ⟨hverdict, fun made h => ?_, fun values' hperm => ?_, fun name h => ?_,
    fun hknown p h => ?_, fun hnames p h => ?_, (object_some_eq b r w values t).1,
    (object_some_eq b r w values t).2, fun e h => ?_⟩
  · have hbinds : w.Binds l values := hverdict.mp ⟨made, h⟩
    have hout : out = _ := object_of_binds hl hshape hbinds
    rw [hout] at h ⊢
    obtain rfl := Except.ok.inj h
    refine ⟨fun hheld => Heap.ne_next_of_holds hheld rfl, Heap.extends_allocate, ?_,
      fun name v hv => hbinds.read_eq hl hv⟩
    exact congrArg Cell.type (Heap.cell_allocate_next _ _ _ _)
  · refine ⟨?_, fun made h => object_eq_of_perm hl hshape hperm (hverdict.mp ⟨made, h⟩)⟩
    rw [hverdict, exists_object_iff_binds hl hshape, World.binds_iff_of_perm hperm]
  · exact congrArg Prod.fst (object_of_createNamed (World.createNamed_of_unknown hl hshape h))
  · exact congrArg Prod.fst
      (object_of_createNamed (World.createNamed_of_missing hl hshape hknown h))
  · exact congrArg Prod.fst (object_of_createNamed (World.createNamed_of_unfit hl hshape hnames h))
  · show World.mk w.types (w.createNamed t values).2 = w
    rw [World.heap_createNamed_of_error h]

/-- A type with a number and a text. -/
def pairType : Layout where
  properties := [{ name := "a", type := .builtin .int32, position := 0, canWrite := false },
    { name := "b", type := .builtin .string, position := 1, canWrite := false }]
  parent := none
  inherited := []
  isMutable := false
  shape := .closed .object [.builtin .int32, .builtin .string]

/-- A pair is made from its values in either order.  Of values with three faults the one for no
property is complained of first, then the missing one, and then the one that does not fit. -/
theorem object_of_closed_pair :
    let w : World := { types := Universe.add {} ⟨"Pair", .record pairType⟩ }
    let make (entries : List (String × Value)) :=
      object directBackend (new .standard ()) w (.ofList entries) (some (.declared 0))
    let one : Value := .scalar (.int32 1)
    let text : Value := .scalar (.string "x")
    (∃ made, (make [("b", text), ("a", one)]).1 = .ok made ∧
      (make [("b", text), ("a", one)]).2.2.read made "b" = .ok text ∧
      make [("a", one), ("b", text)] = make [("b", text), ("a", one)]) ∧
    (make [("b", one), ("c", one)]).1 =
      .error (.unknownProperty "Pair[System.Int32,System.String]" "c") ∧
    (make [("b", one)]).1 = .error (.missingArgument "a") ∧
    (make [("b", one), ("a", one)]).1 = .error (.unfit "b" "System.String" "System.Int32") := by
  intro w make one text
  have hspec := fun entries => object_of_closed directBackend (new .standard ())
    (w := w) (t := .declared 0) (l := pairType) rfl rfl (.ofList entries)
  have hmade : (make [("b", text), ("a", one)]).1 = .ok ⟨0⟩ := by decide +kernel
  refine ⟨⟨⟨0⟩, hmade, ?_, ?_⟩, ?_, ?_, ?_⟩
  · obtain ⟨-, hmaking, -⟩ := hspec [("b", text), ("a", one)]
    exact (hmaking _ hmade).2.2.2 "b" text (by decide +kernel)
  · obtain ⟨-, -, hperm, -⟩ := hspec [("b", text), ("a", one)]
    exact (hperm (.ofList [("a", one), ("b", text)]) (.swap _ _ _)).2 _ hmade
  · obtain ⟨-, -, -, hunknown, -⟩ := hspec [("b", one), ("c", one)]
    have hname : w.types.fullName (.declared 0) = "Pair[System.Int32,System.String]" := by
      decide +kernel
    rw [← hname]
    exact hunknown "c" (by decide +kernel)
  · obtain ⟨-, -, -, -, hmissing, -⟩ := hspec [("b", one)]
    exact hmissing (by decide +kernel) _ rfl
  · obtain ⟨-, -, -, -, -, hunfit, -⟩ := hspec [("b", one), ("a", one)]
    refine hunfit (fun name => ?_) _ rfl
    show name ∈ ["b", "a"] ↔ name ∈ ["a", "b"]
    simp [or_comm]

end Registry

end RecordTypes
