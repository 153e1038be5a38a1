import RecordTypes.Proofs.Fields.Lookup
import RecordTypes.Proofs.Foundry.Direct
import RecordTypes.Proofs.Registry.Run
import RecordTypes.Proofs.World.Requests

/-!
# A registry over the direct backend

Over the direct backend a registry is `Faithful`: every type in its memo is what its signature says,
a template for the names, the mutability and the parent, or a template closed over the arguments.
A call for a template has three outcomes, as has a call to close one (`templateFor_cases`,
`close_cases`): the type is stored already, or the checks refuse the request, or the type is made
and stored.  All of them keep the registry faithful, and so does whatever makes the universe grow
(`Run.faithful`).  A call for a record type goes through for fields of any types that are not open
(`Faithful.recordType_eq_ok`).
-/

namespace RecordTypes

@[simp] theorem properParent_properParent (parent : Option TypeId) :
    properParent (properParent parent) = properParent parent := by
  unfold properParent
  rw [Option.filter_filter]
  simp

namespace Registry

open Universe (Grows)

/-- Every stored type is what its signature says. -/
structure Faithful (r : Registry Unit) (u : Universe) : Prop where
  wellFormed : u.WellFormed
  sound : r.memo.Sound
  template : ∀ names isMutable parent t,
    r.memo.get? (.template names isMutable parent) = some t → u.HasTemplate t names isMutable parent
  closed : ∀ template arguments t,
    r.memo.get? (.closed template arguments) = some t → u.HasClosed t template arguments

variable {r : Registry Unit} {u v : Universe}

theorem faithful_new (naming : Naming) : Faithful (new naming ()) {} := by
  refine ⟨Universe.wellFormed_empty, Memo.sound_empty, fun _ _ _ t h => ?_, fun _ _ t h => ?_⟩ <;>
    exact absurd h nofun

/-- Types that are declared elsewhere change nothing for those that are stored. -/
theorem Faithful.grows (h : Faithful r u) (hg : Grows u v) : Faithful r v :=
  ⟨hg.wellFormed h.wellFormed, h.sound,
    fun names isMutable parent t ht =>
      hg.hasTemplate h.wellFormed (h.template names isMutable parent t ht),
    fun template arguments t ht => hg.hasClosed h.wellFormed (h.closed template arguments t ht)⟩

theorem asTemplate_of_isTemplate {t : TypeId} (h : u.isTemplate t = true) :
    u.asTemplate t = .ok ⟨t⟩ :=
  asTemplate_eq_ok_iff.mpr ⟨h, rfl⟩

/-! ### Calls -/

/-- A call for a template is answered from store, refused by the checks, or answered with a template
that is made and stored. -/
theorem Faithful.templateFor_cases (h : Faithful r u) (names : List String) (options : Options) :
    let s := templateSignature names options
    let check := u.checkDefinition (properParent options.parent) names
    let out := templateFor directBackend r u names options
    (∃ t, r.memo.get? s = some t ∧ out = (.ok ⟨t⟩, { r with memo := r.memo.hit }, u)) ∨
    (∃ e, r.memo.get? s = none ∧ check = .error e ∧
      out = (.error e, { r with memo := r.memo.fail }, u)) ∨
    (∃ t v, r.memo.get? s = none ∧ check = .ok () ∧ Grows u v ∧
      v.HasTemplate t names options.isMutable (properParent options.parent) ∧
      out = (.ok ⟨t⟩,
        { r with memo := r.memo.store s t, foundry := ⟨r.foundry.nextIndex + 1, ()⟩ }, v)) := by
  intro s check out
  have hout : out = templateFor directBackend r u names options := rfl
  rw [templateFor_eq] at hout
  have hbuild : ∀ m, templateBuild directBackend r.naming names options m (r.foundry, u) =
      r.foundry.castTemplate directBackend r.naming names options.isMutable
        (properParent options.parent) u := fun _ => rfl
  rcases hget : r.memo.get? s with _ | t
  · right
    rw [h.sound.resolve_of_get?_eq_none hget, hbuild] at hout
    -- The foundry asks for the proper parent once more, of a parent that is proper already.
    rcases Foundry.castTemplate_cases h.wellFormed r.naming names options.isMutable
      (properParent options.parent) r.foundry with
      ⟨e, hcheck, hcast⟩ | ⟨hcheck, t, v, hcast, hgrows, ht⟩
    · rw [properParent_properParent] at hcheck
      rw [hcast] at hout
      exact .inl ⟨e, rfl, hcheck, hout⟩
    · rw [properParent_properParent] at hcheck ht
      rw [hcast] at hout
      refine .inr ⟨t, v, rfl, hcheck, hgrows, ht, ?_⟩
      rw [hout]
      dsimp only [Except.bind]
      rw [asTemplate_of_isTemplate ht.isTemplate]
  · have ht := h.template names options.isMutable (properParent options.parent) t hget
    rw [h.sound.resolve_of_get?_eq_some hget] at hout
    refine .inl ⟨t, rfl, ?_⟩
    rw [hout]
    dsimp only [Except.bind]
    rw [asTemplate_of_isTemplate ht.isTemplate]

/-- A call to close a template is answered from store, refused by the checks, or answered with a
type that is made and stored. -/
theorem Faithful.close_cases (h : Faithful r u) (template : Template) (arguments : List TypeId) :
    let s := Signature.closed template.type arguments
    let check := u.checkClosing template.type arguments
    let out := close directBackend r u template arguments
    (∃ t, r.memo.get? s = some t ∧ out = (.ok t, { r with memo := r.memo.hit }, u)) ∨
    (∃ e, r.memo.get? s = none ∧ check = .error e ∧
      out = (.error e, { r with memo := r.memo.fail }, u)) ∨
    (∃ t v, r.memo.get? s = none ∧ check = .ok () ∧ Grows u v ∧
      v.HasClosed t template.type arguments ∧
      out = (.ok t, { r with memo := r.memo.store s t }, v)) := by
  intro s check out
  have hout : out = close directBackend r u template arguments := rfl
  rw [close_eq] at hout
  have hbuild : ∀ m, closedBuild directBackend template arguments m (r.foundry, u) =
      r.foundry.castClosed directBackend template.type arguments u := fun _ => rfl
  rcases hget : r.memo.get? s with _ | t
  · right
    rw [h.sound.resolve_of_get?_eq_none hget, hbuild] at hout
    rcases Foundry.castClosed_cases h.wellFormed template.type arguments r.foundry with
      ⟨e, hcheck, hcast⟩ | ⟨hcheck, t, v, hcast, hgrows, ht⟩
    · rw [hcast] at hout
      exact .inl ⟨e, rfl, hcheck, hout⟩
    · rw [hcast] at hout
      exact .inr ⟨t, v, rfl, hcheck, hgrows, ht, hout⟩
  · rw [h.sound.resolve_of_get?_eq_some hget] at hout
    exact .inl ⟨t, rfl, hout⟩

/-! ### Calls keep a registry faithful -/

/-- Only what the memo stores counts. -/
theorem Faithful.congr (h : Faithful r u) {r' : Registry Unit} (hsound : r'.memo.Sound)
    (hget : ∀ s, r'.memo.get? s = r.memo.get? s) : Faithful r' u := by
  refine ⟨h.wellFormed, hsound, fun names isMutable parent t ht => ?_,
    fun template arguments t ht => ?_⟩
  · rw [hget] at ht
    exact h.template names isMutable parent t ht
  · rw [hget] at ht
    exact h.closed template arguments t ht

/-- A type may be stored for a new signature if it is what the signature says. -/
theorem Faithful.store (h : Faithful r u) {s : Signature} {t : TypeId} (f : Foundry Unit)
    (hget : r.memo.get? s = none)
    (htemplate : ∀ names isMutable parent, s = .template names isMutable parent →
      u.HasTemplate t names isMutable parent)
    (hclosed : ∀ template arguments, s = .closed template arguments →
      u.HasClosed t template arguments) :
    Faithful { r with memo := r.memo.store s t, foundry := f } u := by
  refine ⟨h.wellFormed, h.sound.store hget t, fun names isMutable parent t' ht' => ?_,
    fun template arguments t' ht' => ?_⟩
  · rw [Memo.get?_store] at ht'
    split at ht'
    · -- A look-up that finds the new type was made for the new signature.
      next hs => exact Option.some.inj ht' ▸ htemplate names isMutable parent hs
    · exact h.template names isMutable parent t' ht'
  · rw [Memo.get?_store] at ht'
    split at ht'
    · next hs => exact Option.some.inj ht' ▸ hclosed template arguments hs
    · exact h.closed template arguments t' ht'

theorem Faithful.templateFor (h : Faithful r u) (names : List String) (options : Options) :
    let out := templateFor directBackend r u names options
    Faithful out.2.1 out.2.2 ∧ Grows u out.2.2 := by
  intro out
  rcases h.templateFor_cases names options with
    ⟨t, -, hout⟩ | ⟨e, -, -, hout⟩ | ⟨t, v, hget, -, hgrows, ht, hout⟩
  · rw [show out = _ from hout]
    exact ⟨h.congr h.sound.hit fun _ => rfl, .refl⟩
  · rw [show out = _ from hout]
    exact ⟨h.congr h.sound.fail fun _ => rfl, .refl⟩
  · rw [show out = _ from hout]
    refine ⟨(h.grows hgrows).store _ hget ?_ nofun, hgrows⟩
    intro names' isMutable' parent' hs
    obtain ⟨rfl, rfl, rfl⟩ := Signature.template.inj hs
    exact ht

theorem Faithful.close (h : Faithful r u) (template : Template) (arguments : List TypeId) :
    let out := close directBackend r u template arguments
    Faithful out.2.1 out.2.2 ∧ Grows u out.2.2 := by
  intro out
  rcases h.close_cases template arguments with
    ⟨t, -, hout⟩ | ⟨e, -, -, hout⟩ | ⟨t, v, hget, -, hgrows, ht, hout⟩
  · rw [show out = _ from hout]
    exact ⟨h.congr h.sound.hit fun _ => rfl, .refl⟩
  · rw [show out = _ from hout]
    exact ⟨h.congr h.sound.fail fun _ => rfl, .refl⟩
  · rw [show out = _ from hout]
    refine ⟨(h.grows hgrows).store _ hget nofun ?_, hgrows⟩
    intro template' arguments' hs
    obtain ⟨rfl, rfl⟩ := Signature.closed.inj hs
    exact ht

/-- Whatever is called, a faithful registry stays faithful, and the universe grows. -/
theorem kept_faithful (u₀ : Universe) :
    Kept directBackend fun r u => Faithful r u ∧ Grows u₀ u where
  templateFor r u names options h :=
    ⟨(h.1.templateFor names options).1, h.2.trans (h.1.templateFor names options).2⟩
  close r u template arguments h :=
    ⟨(h.1.close template arguments).1, h.2.trans (h.1.close template arguments).2⟩
  rename r u naming _ h := ⟨h.1.congr h.1.sound fun _ => rfl, h.2⟩
  castTemplate r u names isMutable parent h := by
    -- What is made past the memo is not stored in it.
    have hgrows := Foundry.grows_castTemplate h.1.wellFormed r.naming names isMutable parent
      r.foundry
    exact ⟨(h.1.grows hgrows).congr h.1.sound fun _ => rfl, h.2.trans hgrows⟩
  castClosed r u template arguments h := by
    have hgrows := Foundry.grows_castClosed h.1.wellFormed template arguments r.foundry
    exact ⟨(h.1.grows hgrows).congr h.1.sound fun _ => rfl, h.2.trans hgrows⟩

/-! ### Calls that go through -/

/-- A template is handed out for names that are not repeated, over a class that may be derived
from. -/
theorem Faithful.templateFor_eq_ok (h : Faithful r u) {names : List String} {options : Options}
    (hparent : ∀ p ∈ properParent options.parent, u.CanDerive p) (hnames : names.Nodup) :
    ∃ template r' u',
      Registry.templateFor directBackend r u names options = (.ok template, r', u') ∧
      u'.HasTemplate template.type names options.isMutable (properParent options.parent) := by
  rcases h.templateFor_cases names options with
    ⟨t, hget, hout⟩ | ⟨e, -, hcheck, -⟩ | ⟨t, v, -, -, -, ht, hout⟩
  · exact ⟨⟨t⟩, _, u, hout, h.template _ _ _ _ hget⟩
  · rw [(h.wellFormed.checkDefinition_eq_ok_iff _ _).mpr ⟨hparent, hnames⟩] at hcheck
    exact absurd hcheck nofun
  · exact ⟨⟨t⟩, _, v, hout, ht⟩

/-- A template is closed over one type for each of its names, if none of them is open. -/
theorem Faithful.close_eq_ok (h : Faithful r u) {template : Template} {names : List String}
    {isMutable : Bool} {parent : Option TypeId} {arguments : List TypeId}
    (htemplate : u.HasTemplate template.type names isMutable parent)
    (hlength : arguments.length = names.length) (hopen : ∀ a ∈ arguments, u.isOpen a = false) :
    ∃ t r' u', Registry.close directBackend r u template arguments = (.ok t, r', u') := by
  rcases h.close_cases template arguments with
    ⟨t, -, hout⟩ | ⟨e, -, hcheck, -⟩ | ⟨t, v, -, -, -, -, hout⟩
  · exact ⟨t, _, u, hout⟩
  · have hok := (Universe.checkClosing_eq_ok_iff template.type arguments).mpr
      ⟨htemplate.isTemplate, by rw [hlength, htemplate.length_properties], hopen⟩
    rw [hok] at hcheck
    exact absurd hcheck nofun
  · exact ⟨t, _, v, hout⟩

/-- A record type is handed out for fields of any types that are not open, and remembered. -/
theorem Faithful.recordType_eq_ok (h : Faithful r u) {fields : Fields TypeId} {options : Options}
    (hparent : ∀ p ∈ properParent options.parent, u.CanDerive p)
    (htypes : ∀ t ∈ fields.values, u.Knows t ∧ u.isOpen t = false) :
    ∃ t r' u', recordType directBackend r u fields options = (.ok t, r', u') ∧
      Faithful r' u' ∧ Grows u u' ∧
      Exchange.StoredIn ⟨.recordType fields options, .type (.ok t)⟩ r'.memo := by
  obtain ⟨template, r₁, u₁, htemplateFor, htemplate⟩ :=
    h.templateFor_eq_ok hparent fields.nodup
  change Registry.templateFor directBackend r u fields.names options = _ at htemplateFor
  obtain ⟨hr₁, hgrows₁⟩ := h.templateFor fields.names options
  rw [htemplateFor] at hr₁ hgrows₁
  -- The template may be new, but a type that was known does not become open by that.
  have hopen : ∀ t ∈ fields.values, u₁.isOpen t = false := fun t ht => by
    rw [hgrows₁.isOpen_eq (htypes t ht).1, (htypes t ht).2]
  obtain ⟨t, r', u', hclose⟩ := hr₁.close_eq_ok htemplate fields.length_values hopen
  have hout : recordType directBackend r u fields options = (.ok t, r', u') := by
    rw [recordType, htemplateFor]
    exact hclose
  have hkept := (kept_faithful u).recordType ⟨h, .refl⟩ fields options
  have hstored := storedIn_recordType (b := directBackend) (u := u) h.sound fields options
  rw [hout] at hkept hstored
  exact ⟨t, r', u', hout, hkept.1, hkept.2, hstored⟩

/-! ### Runs -/

/-- Between two calls, types may be declared and instances may be made and written. -/
def TypesGrow (w w' : World) : Prop := Grows w.types w'.types

/-- A class may be declared. -/
theorem typesGrow_declareClass {w : World} {name : String} {c : ClassInfo} {t : TypeId}
    (h : w.declareClass name c = .ok (t, u)) : TypesGrow w { w with types := u } := by
  obtain ⟨rfl, hbase, -⟩ := World.declareClass_cases h
  exact Grows.refl.add _ hbase

/-- Another registry may be called. -/
theorem Faithful.typesGrow_perform {w : World} (h : Faithful r w.types) (c : Call) :
    TypesGrow w (perform directBackend r w c).2.2 :=
  ((kept_faithful w.types).perform ⟨h, .refl⟩ c).2

/-- A registry is faithful after every run. -/
theorem Run.faithful {history : List Exchange} {w : World}
    (h : Run TypesGrow directBackend history r w) : Faithful r w.types := by
  have hkept : Faithful r w.types ∧ Grows {} w.types :=
    h.kept (kept_faithful {}) (fun naming _ => ⟨faithful_new naming, .refl⟩)
      fun r w w' hw hr => ⟨hr.1.grows hw, hr.2.trans hw⟩
  exact hkept.1

end Registry

end RecordTypes
