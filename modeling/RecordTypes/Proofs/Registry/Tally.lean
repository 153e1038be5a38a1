import Mathlib.Data.Finset.Card
import RecordTypes.Proofs.Registry.Demands

/-!
# The tally of a registry

A registry looks up a template for every request, and then the template closed over the types of the
fields if a record type is asked for.  `Tally` is what is known of a registry from the look-ups so
far, each of which is one of a demand or was refused: a type is stored for every demand that was
looked up, every number that the memo keeps and the index of the next template are counts of them.
Over types that exist beforehand the checks grant and refuse the same demands at any time, so
every call adds a look-up that can be told in advance (`Tally.templateFor`, `Tally.close`).
-/

namespace RecordTypes

/-! ### Checks of what exists -/

namespace Universe

variable {u v : Universe} {t p : TypeId} {arguments : List TypeId}

theorem Grows.checkParent_eq (h : Grows u v) (hp : u.Knows p) :
    v.checkParent p = u.checkParent p := by
  unfold checkParent
  rw [h.kind?_eq hp, h.fullName_eq hp]

/-- What is to be said of a request for a template over a class that exists never changes. -/
theorem Grows.checkDefinition_eq (h : Grows u v) {parent : Option TypeId}
    (hparent : ∀ p ∈ parent, u.Knows p) (names : List String) :
    v.checkDefinition parent names = u.checkDefinition parent names := by
  cases parent with
  | none => rfl
  | some p =>
    unfold checkDefinition checkParent?
    dsimp only
    rw [h.checkParent_eq (hparent p rfl)]

/-- A template is not closed over types of which one is open. -/
theorem checkClosing_of_isOpen (ht : u.isTemplate t = true)
    (hlength : arguments.length = (u.properties t).length)
    (hopen : ∃ a ∈ arguments, u.isOpen a = true) : ∃ a, u.checkClosing t arguments =
      .error (.misuse (.openArgument (u.fullName a) (u.fullName t))) := by
  rw [checkClosing, checkTemplate, if_pos ht]
  change ∃ a, u.checkArguments t arguments = _
  rw [checkArguments]
  rw [if_neg (not_not.mpr hlength)]
  rcases hfind : arguments.find? u.isOpen with _ | a
  · obtain ⟨a, ha, hopen⟩ := hopen
    exact absurd hopen (by simpa using List.find?_eq_none.mp hfind a ha)
  · exact ⟨a, rfl⟩

end Universe

namespace Registry

open Universe (Grows)

variable {m : Memo} {d : Demand} {t : TypeId}

/-- The checks let a demand pass. -/
structure Demand.Granted (d : Demand) (u : Universe) : Prop where
  definition : u.checkDefinition d.parent d.names = .ok ()
  parent : ∀ p ∈ d.parent, u.Knows p
  arguments : ∀ arguments, d.arguments = some arguments →
    arguments.length = d.names.length ∧ ∀ a ∈ arguments, u.Knows a ∧ u.isOpen a = false

/-! ### Counting look-ups -/

/-- The demands among look-ups; a look-up that was refused is none. -/
def demands (looked : List (Option Demand)) : Finset Demand := (looked.filterMap id).toFinset

variable {looked : List (Option Demand)}

theorem mem_demands : d ∈ demands looked ↔ some d ∈ looked := by
  simp [demands]

theorem demands_append_none (looked : List (Option Demand)) :
    demands (looked ++ [none]) = demands looked := by
  simp [demands]

theorem demands_append_some (looked : List (Option Demand)) (d : Demand) :
    demands (looked ++ [some d]) = insert d (demands looked) := by
  ext d'
  simp only [mem_demands, List.mem_append, List.mem_singleton, Option.some.injEq, Finset.mem_insert,
    or_comm]

theorem card_demands_append_some (hnew : d ∉ demands looked) :
    (demands (looked ++ [some d])).card = (demands looked).card + 1 := by
  rw [demands_append_some, Finset.card_insert_of_notMem hnew]

/-- The number of templates among the demands. -/
def templateCount (looked : List (Option Demand)) : Nat :=
  ((demands looked).filter (·.arguments = none)).card

theorem templateCount_append_some (hnew : d ∉ demands looked) :
    templateCount (looked ++ [some d]) =
      templateCount looked + if d.arguments = none then 1 else 0 := by
  unfold templateCount
  rw [demands_append_some, Finset.filter_insert]
  split
  · rw [Finset.card_insert_of_notMem fun hmem => hnew (Finset.mem_filter.mp hmem).1]
  · rfl

theorem demands_perm {looked' : List (Option Demand)} (h : looked.Perm looked') :
    demands looked = demands looked' :=
  List.toFinset_eq_of_perm _ _ (h.filterMap id)

/-! ### The tally -/

/-- What is known of a registry from the look-ups so far, over a universe that existed
beforehand. -/
structure Tally (n : Naming) (u₀ : Universe) (looked : List (Option Demand)) (r : Registry Unit)
    (u : Universe) : Prop where
  naming : r.naming = n
  faithful : Faithful r u
  grows : Grows u₀ u
  /-- A type is stored for what was demanded, and for nothing else. -/
  stored : ∀ d, (∃ t, find? r.memo d = some t) ↔ d ∈ demands looked
  granted : ∀ d ∈ demands looked, d.Granted u₀
  named : ∀ d t, find? r.memo d = some t → d.Names n u₀ u t
  length : r.memo.length = (demands looked).card
  misses : r.memo.misses = (demands looked).card
  failures : r.memo.failures = looked.count none
  /-- Every look-up was counted once. -/
  calls : r.memo.hits + r.memo.misses + r.memo.failures = looked.length
  nextIndex : r.foundry.nextIndex = templateCount looked

variable {n : Naming} {u₀ u v : Universe} {r : Registry Unit}

theorem tally_new (n : Naming) (hu : u₀.WellFormed) : Tally n u₀ [] (new n ()) u₀ where
  naming := rfl
  faithful := ⟨hu, Memo.sound_empty, nofun, nofun⟩
  grows := .refl
  stored _ := ⟨fun h => absurd h nofun, nofun⟩
  granted := nofun
  named _ _ ht := absurd ht nofun
  length := rfl
  misses := rfl
  failures := rfl
  calls := rfl
  nextIndex := rfl

/-- A look-up that stores nothing and demands nothing new is counted, and that is all. -/
theorem Tally.count (h : Tally n u₀ looked r u) {x : Option Demand} {m : Memo}
    (hdemands : demands (looked ++ [x]) = demands looked)
    (hentries : m.entries = r.memo.entries) (hmisses : m.misses = r.memo.misses)
    (hfailures : m.failures = (looked ++ [x]).count none)
    (hcalls : m.hits + m.failures = r.memo.hits + r.memo.failures + 1) :
    Tally n u₀ (looked ++ [x]) { r with memo := m } u := by
  have hget (s : Signature) : m.get? s = r.memo.get? s := by
    rw [Memo.get?, Memo.get?, Memo.entry?, Memo.entry?, hentries]
  have hfind (d : Demand) : find? m d = find? r.memo d := by
    simp only [find?, hget]
  have hsound : m.Sound := by
    obtain ⟨hkeyed, hnodup⟩ := h.faithful.sound
    rw [← hentries] at hkeyed hnodup
    exact ⟨hkeyed, hnodup⟩
  have hlength : m.length = r.memo.length := congrArg List.length hentries
  have htemplates : templateCount (looked ++ [x]) = templateCount looked := by
    rw [templateCount, hdemands, templateCount]
  have hstored (d : Demand) : (∃ t, find? m d = some t) ↔ d ∈ demands (looked ++ [x]) := by
    rw [hfind, hdemands]
    exact h.stored d
  have hall : m.hits + m.misses + m.failures = (looked ++ [x]).length := by
    rw [List.length_append, List.length_singleton, ← h.calls]
    omega
  exact {
    naming := h.naming
    faithful := h.faithful.congr hsound hget
    grows := h.grows
    stored := hstored
    granted := hdemands ▸ h.granted
    named := fun d t ht => h.named d t ((hfind d).symm.trans ht)
    length := by rw [hlength, hdemands, h.length]
    misses := by rw [hmisses, hdemands, h.misses]
    failures := hfailures
    calls := hall
    nextIndex := by rw [htemplates, ← h.nextIndex] }

/-- A look-up that is answered from store is one of a demand that was looked up before. -/
theorem Tally.hit (h : Tally n u₀ looked r u) (hd : find? r.memo d = some t) :
    Tally n u₀ (looked ++ [some d]) { r with memo := r.memo.hit } u := by
  have hdemands : demands (looked ++ [some d]) = demands looked := by
    rw [demands_append_some, Finset.insert_eq_of_mem ((h.stored d).mp ⟨t, hd⟩)]
  have hfailures : r.memo.failures = (looked ++ [some d]).count none := by
    simpa using h.failures
  exact h.count hdemands rfl rfl hfailures (Nat.add_right_comm _ _ _)

/-- A look-up that is refused changes nothing but the number of failures. -/
theorem Tally.fail (h : Tally n u₀ looked r u) :
    Tally n u₀ (looked ++ [none]) { r with memo := r.memo.fail } u := by
  have hfailures : r.memo.failures + 1 = (looked ++ [none]).count none := by
    simpa using h.failures
  exact h.count (demands_append_none looked) rfl rfl hfailures (Nat.add_assoc _ _ _).symm

/-- A type that is stored for a new demand. -/
theorem Tally.store (h : Tally n u₀ looked r u) {s : Signature} {f : Foundry Unit}
    (hnone : find? r.memo d = none)
    (hfind : ∀ d', find? (r.memo.store s t) d' = if d' = d then some t else find? r.memo d')
    (hfaithful : Faithful { r with memo := r.memo.store s t, foundry := f } v) (hgrows : Grows u v)
    (hgranted : d.Granted u₀) (hnamed : d.Names n u₀ v t)
    (hindex : f.nextIndex = r.foundry.nextIndex + if d.arguments = none then 1 else 0) :
    Tally n u₀ (looked ++ [some d]) { r with memo := r.memo.store s t, foundry := f } v := by
  have hdemands := demands_append_some looked d
  have hnew : d ∉ demands looked := by
    intro hmem
    obtain ⟨t', ht'⟩ := (h.stored d).mpr hmem
    exact absurd (hnone.symm.trans ht') nofun
  have hstored (d' : Demand) : (∃ t', find? (r.memo.store s t) d' = some t') ↔
      d' ∈ demands (looked ++ [some d]) := by
    rw [hfind, hdemands, Finset.mem_insert, ← h.stored d']
    by_cases hd : d' = d
    · simp [hd]
    · simp [hd]
  have hgranted' : ∀ d' ∈ demands (looked ++ [some d]), d'.Granted u₀ := by
    rw [hdemands]
    exact (Finset.forall_mem_insert _ _ _).mpr ⟨hgranted, h.granted⟩
  have hnamed' (d' : Demand) (t' : TypeId) (ht' : find? (r.memo.store s t) d' = some t') :
      d'.Names n u₀ v t' := by
    rw [hfind] at ht'
    split at ht'
    · next hd =>
      obtain rfl := Option.some.inj ht'
      exact hd ▸ hnamed
    · exact (h.named d' t' ht').grows hgrows (h.faithful.meets_of_find? ht').knows
  have hcard := card_demands_append_some hnew
  have hlength : r.memo.length + 1 = (demands (looked ++ [some d])).card := by
    rw [hcard, h.length]
  have hmisses : r.memo.misses + 1 = (demands (looked ++ [some d])).card := by
    rw [hcard, h.misses]
  have hfailures : r.memo.failures = (looked ++ [some d]).count none := by
    simpa using h.failures
  have hcalls : r.memo.hits + (r.memo.misses + 1) + r.memo.failures =
      (looked ++ [some d]).length := by
    rw [List.length_append, List.length_singleton, ← h.calls]
    omega
  exact {
    naming := h.naming
    faithful := hfaithful
    grows := h.grows.trans hgrows
    stored := hstored
    granted := hgranted'
    named := hnamed'
    length := hlength
    misses := hmisses
    failures := hfailures
    calls := hcalls
    nextIndex := by rw [templateCount_append_some hnew, ← h.nextIndex, ← hindex] }

/-! ### Templates -/

section Templates

variable {names : List String} {options : Options}

/-- A call for a template that the checks grant hands out the one that is stored from then on. -/
theorem Tally.templateFor (h : Tally n u₀ looked r u)
    (hparent : ∀ p ∈ properParent options.parent, u₀.Knows p)
    (hcheck : u₀.checkDefinition (properParent options.parent) names = .ok ()) :
    ∃ template r' v, Registry.templateFor directBackend r u names options = (.ok template, r', v) ∧
      Tally n u₀ (looked ++ [some (.template names options)]) r' v ∧
      find? r'.memo (.template names options) = some template.type := by
  have hfind (m : Memo) : find? m (.template names options) =
      m.get? (templateSignature names options) := find?_of_arguments_eq_none rfl
  rcases h.faithful.templateFor_cases names options with
    ⟨t, hget, hout⟩ | ⟨e, -, herror, -⟩ | ⟨t, v, hget, -, hgrows, -, hout⟩
  · have hstored : find? r.memo (.template names options) = some t := (hfind _).trans hget
    exact ⟨⟨t⟩, _, u, hout, h.hit hstored, hstored⟩
  · rw [h.grows.checkDefinition_eq hparent, hcheck] at herror
    exact absurd herror nofun
  · have hfaithful := (h.faithful.templateFor names options).1
    have hmade := templateFor_new h.faithful.sound hget (congrArg Prod.fst hout)
    rw [hout] at hfaithful hmade
    obtain ⟨hnew, hname, hparameters⟩ := hmade
    rw [h.naming] at hname hparameters
    -- Nothing was closed over a type that was not known.
    have hunused (arguments : List TypeId) : r.memo.get? (.closed t arguments) = none := by
      rcases hclosed : r.memo.get? (.closed t arguments) with _ | c
      · rfl
      · obtain ⟨l, hl, -⟩ := h.faithful.closed t arguments c hclosed
        exact absurd (Universe.knows_of_kind? (Universe.layout?_eq_some_iff.mp hl)) hnew
    have hgranted : (Demand.template names options).Granted u₀ := ⟨hcheck, hparent, nofun⟩
    have hnamed : (Demand.template names options).Names n u₀ v t :=
      ⟨⟨_, hname.1, hname.2.trans String.append_empty.symm⟩, fun _ => hparameters⟩
    have htally := h.store ((hfind _).trans hget) (find?_store_template hunused hget) hfaithful
      hgrows hgranted hnamed rfl
    refine ⟨⟨t⟩, _, v, hout, htally, ?_⟩
    rw [hfind, Memo.get?_store_self]

/-- A call for a template that the checks refuse is refused whatever was called before. -/
theorem Tally.templateFor_error (h : Tally n u₀ looked r u)
    (hparent : ∀ p ∈ properParent options.parent, u₀.Knows p) {e : Fault}
    (hcheck : u₀.checkDefinition (properParent options.parent) names = .error e) :
    Registry.templateFor directBackend r u names options =
      (.error e, { r with memo := r.memo.fail }, u) := by
  rcases h.faithful.templateFor_cases names options with
    ⟨t, hget, -⟩ | ⟨e', -, herror, hout⟩ | ⟨t, v, -, hok, -⟩
  · -- A template that is stored was granted.
    have hstored : find? r.memo (.template names options) = some t :=
      (find?_of_arguments_eq_none rfl).trans hget
    have hgranted := h.granted _ ((h.stored _).mp ⟨t, hstored⟩)
    exact absurd (hgranted.definition.symm.trans hcheck) nofun
  · rw [h.grows.checkDefinition_eq hparent, hcheck] at herror
    obtain rfl := Except.error.inj herror
    exact hout
  · rw [h.grows.checkDefinition_eq hparent, hcheck] at hok
    exact absurd hok nofun

end Templates

/-! ### Closed types -/

section ClosedTypes

variable {template : Template} {arguments : List TypeId}

/-- A template is closed over types that are not open, and the closed type is stored from then
on. -/
theorem Tally.close (h : Tally n u₀ looked r u)
    (htemplate : find? r.memo d.open = some template.type) (hd : d.arguments = some arguments)
    (hgranted : d.Granted u₀) :
    ∃ t r' v, Registry.close directBackend r u template arguments = (.ok t, r', v) ∧
      Tally n u₀ (looked ++ [some d]) r' v ∧ find? r'.memo d = some t := by
  rw [find?_open] at htemplate
  have hfind : find? r.memo d = r.memo.get? (.closed template.type arguments) :=
    find?_of_arguments_eq_some hd htemplate
  have hhas := h.faithful.template _ _ _ _ htemplate
  obtain ⟨hlength, harguments⟩ := hgranted.arguments arguments hd
  rcases h.faithful.close_cases template arguments with
    ⟨t, hget, hout⟩ | ⟨e, -, herror, -⟩ | ⟨t, v, hget, -, hgrows, -, hout⟩
  · have hstored : find? r.memo d = some t := hfind.trans hget
    exact ⟨t, _, u, hout, h.hit hstored, hstored⟩
  · have hopen (a : TypeId) (ha : a ∈ arguments) : u.isOpen a = false := by
      rw [h.grows.isOpen_eq (harguments a ha).1]
      exact (harguments a ha).2
    have hok := (Universe.checkClosing_eq_ok_iff template.type arguments).mpr
      ⟨hhas.isTemplate, hlength.trans hhas.length_properties.symm, hopen⟩
    exact absurd (hok.symm.trans herror) nofun
  · have hfaithful := (h.faithful.close template arguments).1
    have hname := close_new h.faithful.sound hget (congrArg Prod.fst hout)
    rw [hout] at hfaithful hname
    -- The closed type is called what its template is called.
    have hnamed : d.Names n u₀ v t := by
      obtain ⟨i, hi, -⟩ := (h.named d.open template.type ((find?_open _ d).trans htemplate)).name
      have hsuffix : u.closedSuffix arguments = d.suffix u₀ := by
        have hnames : arguments.map u.fullName = arguments.map u₀.fullName :=
          List.map_congr_left fun a ha => h.grows.fullName_eq (harguments a ha).1
        rw [Demand.suffix, hd, Universe.closedSuffix, hnames]
        rfl
      have hfullName : v.fullName t = n.typeName i d.names.length ++ d.suffix u₀ := by
        rw [hname.2, hi, hsuffix]
        rfl
      exact ⟨⟨i, hname.1.trans hi, hfullName⟩,
        fun hnone => absurd (hd.symm.trans hnone) (Option.some_ne_none _)⟩
    have hunique (names : List String) (isMutable : Bool) (parent : Option TypeId)
        (hget' : r.memo.get? (.template names isMutable parent) = some template.type) :
        names = d.names ∧ isMutable = d.isMutable ∧ parent = d.parent :=
      (h.faithful.template _ _ _ _ hget').unique hhas
    have hindex : r.foundry.nextIndex =
        r.foundry.nextIndex + if d.arguments = none then 1 else 0 := by
      rw [hd, if_neg (Option.some_ne_none _), Nat.add_zero]
    have htally := h.store (hfind.trans hget)
      (find?_store_closed hd htemplate hunique) hfaithful hgrows hgranted hnamed hindex
    refine ⟨t, _, v, hout, htally, ?_⟩
    rw [find?_store_closed hd htemplate hunique, if_pos rfl]

/-- A template is not closed over types of which one is open, whatever was called before. -/
theorem Tally.close_error (h : Tally n u₀ looked r u)
    (htemplate : find? r.memo d.open = some template.type) (hd : d.arguments = some arguments)
    (hlength : arguments.length = d.names.length) (hknown : ∀ a ∈ arguments, u₀.Knows a)
    (hopen : ∃ a ∈ arguments, u₀.isOpen a = true) :
    ∃ a, Registry.close directBackend r u template arguments =
      (.error (.misuse (.openArgument (u.fullName a) (u.fullName template.type))),
        { r with memo := r.memo.fail }, u) := by
  rw [find?_open] at htemplate
  have hhas := h.faithful.template _ _ _ _ htemplate
  obtain ⟨a, ha, hopen⟩ := hopen
  have hopen' : u.isOpen a = true := (h.grows.isOpen_eq (hknown a ha)).trans hopen
  obtain ⟨a', hcheck⟩ := Universe.checkClosing_of_isOpen hhas.isTemplate
    (hlength.trans hhas.length_properties.symm) ⟨a, ha, hopen'⟩
  rcases h.faithful.close_cases template arguments with
    ⟨t, hget, -⟩ | ⟨e, -, herror, hout⟩ | ⟨t, v, -, hok, -⟩
  · -- A closed type that is stored was granted.
    have hstored : find? r.memo d = some t :=
      (find?_of_arguments_eq_some hd htemplate).trans hget
    have hgranted := h.granted _ ((h.stored _).mp ⟨t, hstored⟩)
    have hclosed := ((hgranted.arguments arguments hd).2 a ha).2
    exact absurd (hclosed.symm.trans hopen) nofun
  · obtain rfl := Except.error.inj (herror.symm.trans hcheck)
    exact ⟨a', hout⟩
  · exact absurd (hok.symm.trans hcheck) nofun

end ClosedTypes

end Registry

end RecordTypes
