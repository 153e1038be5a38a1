import RecordTypes.Backend.Scripted
import RecordTypes.Proofs.Registry.Run
import RecordTypes.Proofs.Universe.Growth

/-!
# When a backend is asked

A registry asks its backend for a type only if none is stored for the request.  Nothing is assumed
of the backend here: it may fail at any time, now and then or for good, and it may answer with types
that were not asked for.

A record type that was handed out once is handed out again whenever the same is requested
(`Run.recordType_again`).  Both look-ups are hits, and the backend has no part in it.  A request for
a template that fails leaves nothing behind, so that the backend is asked again, unless it answered
with a type that is not a template: that type is stored before it is looked at, and stays
(`Run.template_refused`).
-/

namespace RecordTypes

/-- Whatever a casting asks for, the types there are stay what they are. -/
theorem Universe.extends_cast (u : Universe) (c : Casting) : u.Extends (u.cast c).2 := by
  unfold Universe.cast
  rcases c.outcome with reason | d
  · exact extends_addAll u c.auxiliary
  · exact (extends_addAll u c.auxiliary).trans (extends_add _ d)

namespace Foundry

variable {σ : Type} {u : Universe}

theorem extends_castTemplate (b : Backend σ) (n : Naming) (names : List String)
    (isMutable : Bool) (parent : Option TypeId) (f : Foundry σ) :
    u.Extends (castTemplate b n names isMutable parent f u).2.2 := by
  unfold castTemplate
  dsimp only
  rcases u.checkDefinition (properParent parent) names with e | _
  · exact .refl u
  · exact u.extends_cast _

theorem extends_castClosed (b : Backend σ) (template : TypeId) (arguments : List TypeId)
    (f : Foundry σ) : u.Extends (castClosed b template arguments f u).2.2 := by
  unfold castClosed
  rcases u.checkClosing template arguments with e | _
  · exact .refl u
  · exact u.extends_cast _

end Foundry

namespace Registry

variable {σ : Type} {b : Backend σ} {r r' : Registry σ} {u u' : Universe} {w : World}
  {history : List Exchange} {fields fields' : Fields TypeId} {options options' : Options}
  {t : TypeId}

/-- Whatever is called, the types of the universe `u` stay what they are. -/
theorem kept_types (b : Backend σ) (u : Universe) : Kept b fun _ v => u.Extends v :=
  kept_of_casts
    (fun _ _ _ _ _ _ h => h.trans (Foundry.extends_castTemplate _ _ _ _ _ _))
    (fun _ _ _ _ h => h.trans (Foundry.extends_castClosed _ _ _ _))

/-! ### Requests that are stored -/

/-- What it takes to hand out a record type without asking for anything to be made: the template is
stored, and is one, and the type is stored as what closes it over the types of the fields. -/
def Stocks (r : Registry σ) (u : Universe) (fields : Fields TypeId) (options : Options)
    (t : TypeId) : Prop :=
  ∃ template, r.memo.get? (templateSignature fields.names options) = some template ∧
    u.isTemplate template = true ∧ r.memo.get? (.closed template fields.values) = some t

theorem Stocks.mono (h : Stocks r u fields options t) (hmemo : r.memo.Extends r'.memo)
    (hu : u.Extends u') : Stocks r' u' fields options t := by
  obtain ⟨template, htemplate, hopen, hclosed⟩ := h
  exact ⟨template, hmemo _ _ htemplate, hu.isTemplate hopen, hmemo _ _ hclosed⟩

/-- Only the names, the types, the mutability and the proper parent of a request count. -/
theorem Stocks.congr (h : Stocks r u fields options t) (hnames : fields'.names = fields.names)
    (htypes : fields'.values = fields.values) (hmutable : options'.isMutable = options.isMutable)
    (hparent : properParent options'.parent = properParent options.parent) :
    Stocks r u fields' options' t := by
  unfold Stocks templateSignature
  rw [hnames, htypes, hmutable, hparent]
  exact h

/-- What is stored for a template is handed out if it is one, and counted as a hit. -/
theorem templateFor_of_get? (b : Backend σ) (hr : r.memo.Sound) (u : Universe)
    {names : List String} (hget : r.memo.get? (templateSignature names options) = some t) :
    templateFor b r u names options = (u.asTemplate t, { r with memo := r.memo.hit }, u) := by
  rw [templateFor_eq, hr.resolve_of_get?_eq_some hget]
  rfl

/-- What is stored for a closed type is handed out, and counted as a hit. -/
theorem close_of_get? (b : Backend σ) (hr : r.memo.Sound) {template : Template}
    {arguments : List TypeId} (hget : r.memo.get? (.closed template.type arguments) = some t) :
    close b r u template arguments = (.ok t, { r with memo := r.memo.hit }, u) := by
  rw [close_eq, hr.resolve_of_get?_eq_some hget]

/-- A record type that is in stock is handed out at the price of two hits. -/
theorem Stocks.recordType_eq (h : Stocks r u fields options t) (hr : r.memo.Sound)
    (b : Backend σ) :
    recordType b r u fields options = (.ok t, { r with memo := r.memo.hit.hit }, u) := by
  obtain ⟨template, htemplate, hopen, hclosed⟩ := h
  have hasTemplate : u.asTemplate template = .ok ⟨template⟩ :=
    asTemplate_eq_ok_iff.mpr ⟨hopen, rfl⟩
  rw [recordType, templateFor_of_get? b hr u htemplate, hasTemplate]
  exact close_of_get? b hr.hit hclosed

/-- What is handed out as a template is one. -/
theorem isTemplate_of_templateFor {names : List String} {template : Template}
    (h : templateFor b r u names options = (.ok template, r', u')) :
    u'.isTemplate template.type = true := by
  rw [templateFor_eq] at h
  generalize r.memo.resolve (templateSignature names options)
    (templateBuild b r.naming names options) (r.foundry, u) = out at h
  rcases out with ⟨e | t, m, f, v⟩
  · exact absurd (congrArg Prod.fst h) nofun
  · obtain ⟨hresult, hstates⟩ := Prod.mk.inj h
    obtain rfl : v = u' := congrArg Prod.snd hstates
    obtain ⟨hopen, htype⟩ := asTemplate_eq_ok_iff.mp hresult
    rw [htype]
    exact hopen

/-- A record type that is handed out is in stock from then on. -/
theorem stocks_recordType (hr : r.memo.Sound)
    (h : recordType b r u fields options = (.ok t, r', u')) : Stocks r' u' fields options t := by
  have hget : ∀ template, (templateFor b r u fields.names options).1 = .ok template →
      (templateFor b r u fields.names options).2.1.memo.get?
        (templateSignature fields.names options) = some template.type :=
    fun _ => get?_templateFor hr
  have hsound := ((kept_extends b r.memo).templateFor r u fields.names options ⟨hr, .refl _⟩).1
  rcases htemplateFor : templateFor b r u fields.names options with ⟨e | template, r₁, u₁⟩
  · rw [recordType, htemplateFor] at h
    exact absurd (congrArg Prod.fst h) nofun
  · rw [htemplateFor] at hget hsound
    rw [recordType, htemplateFor] at h
    change close b r₁ u₁ template fields.values = (.ok t, r', u') at h
    -- Closing the template leaves it in the memo and in the universe.
    have hmemo := ((kept_extends b r₁.memo).close r₁ u₁ template fields.values
      ⟨hsound, .refl _⟩).2
    have htypes := (kept_types b u₁).close r₁ u₁ template fields.values (.refl u₁)
    have hclosed : (close b r₁ u₁ template fields.values).2.1.memo.get?
        (.closed template.type fields.values) = some t := get?_close hsound (by rw [h])
    rw [h] at hmemo htypes hclosed
    exact ⟨template.type, hmemo _ _ (hget template rfl),
      htypes.isTemplate (isTemplate_of_templateFor htemplateFor), hclosed⟩

/-! ### Runs -/

/-- Between two calls types may be declared, and those there are stay what they are. -/
def TypesStay (w w' : World) : Prop := w.types.Extends w'.types

/-- Whatever was called since, a record type that was handed out is in stock. -/
theorem Run.stocks (h : Run TypesStay b history r w)
    (he : ⟨.recordType fields options, .type (.ok t)⟩ ∈ history) :
    Stocks r w.types fields options t := by
  induction h with
  | start naming backend => exact absurd he (by simp)
  | @call history r w c h ih =>
    have hsound : r.memo.Sound := h.remembers.1
    rcases List.mem_cons.mp he with hnew | hold
    · obtain ⟨hc, hanswer⟩ := Exchange.mk.inj hnew
      subst hc
      have hout : recordType b r w.types fields options =
          (.ok t, (recordType b r w.types fields options).2) :=
        Prod.ext (Answer.type.inj hanswer).symm rfl
      exact stocks_recordType hsound hout
    · have hmemo := ((kept_extends b r.memo).perform (w := w) ⟨hsound, .refl _⟩ c).2
      have htypes := (kept_types b w.types).perform (r := r) (.refl w.types) c
      exact (ih hold).mono hmemo htypes
  | elsewhere _ hw ih => exact (ih he).mono (.refl _) hw

/-- A record type that was handed out once is handed out for every later request with the same
names, types, mutability and parent, where `Object` is no parent.  Whatever was called in between
and however the backend behaved, nothing changes then but the number of hits, which grows by two;
and as this is so with any backend `b'` in the place of the one there is, none is asked. -/
theorem Run.recordType_again (h : Run TypesStay b history r w)
    (he : ⟨.recordType fields options, .type (.ok t)⟩ ∈ history)
    (hnames : fields'.names = fields.names) (htypes : fields'.values = fields.values)
    (hmutable : options'.isMutable = options.isMutable)
    (hparent : properParent options'.parent = properParent options.parent) (b' : Backend σ) :
    perform b' r w (.recordType fields' options') =
      (.type (.ok t), { r with memo := { r.memo with hits := r.memo.hits + 2 } }, w) := by
  have hstocks := (h.stocks he).congr hnames htypes hmutable hparent
  have hout := hstocks.recordType_eq h.remembers.1 b'
  unfold perform
  dsimp only
  rw [hout]
  rfl

/-- A backend that is busy at first, then answers, and then is down for good: what it answered in
between goes on being handed out. -/
theorem Run.recordType_again_while_down :
    let fields : Fields TypeId := ⟨[("a", .builtin .int32)], by decide⟩
    let other : Fields TypeId := ⟨[("b", .builtin .string)], by decide⟩
    let script : Script := { define := [.fail "busy", .regular, .fail "down"] }
    let calls : List Call := [.recordType other {}, .rename ⟨"R", "P"⟩,
      .recordType fields { parent := some .object }, .recordType fields {}]
    let answers : List Answer := [.type (.error (.backend "down")), .done,
      .type (.ok (.declared 2)), .type (.error (.backend "busy"))]
    let down : Backend Script :=
      ⟨fun s _ _ => (.fail "down", s), fun s _ _ _ => (.fail "down", s)⟩
    ∃ r w, Run TypesStay scriptedBackend (calls.zipWith Exchange.mk answers) r w ∧
      r.foundry.backend.log.length = script.define.length + 1 ∧
      perform down r w (.recordType fields {}) =
        (.type (.ok (.declared 2)), { r with memo := { r.memo with hits := r.memo.hits + 2 } }, w)
    := by
  intro fields other script calls answers down
  have hanswers : (play scriptedBackend .standard script calls).1 = answers := by decide +kernel
  have hlog : (play scriptedBackend .standard script calls).2.1.foundry.backend.log.length =
      script.define.length + 1 := by decide +kernel
  have h := run_play TypesStay scriptedBackend .standard script calls
  rw [hanswers] at h
  generalize play scriptedBackend .standard script calls = out at h hlog
  have he : ⟨.recordType fields { parent := some .object }, .type (.ok (.declared 2))⟩ ∈
      calls.zipWith Exchange.mk answers := .tail _ (.tail _ (.head _))
  exact ⟨_, _, h, hlog, Run.recordType_again h he rfl rfl rfl rfl down⟩

/-! ### Templates that are refused -/

section Refused

variable {between : World → World → Prop} {names : List String} {e : Fault}

/-- A request for a template is answered from store, or the foundry fails to make it, or what the
foundry makes is stored.  Whether it is a template is looked at in the end. -/
theorem templateFor_cases (b : Backend σ) (hr : r.memo.Sound) (u : Universe) (names : List String)
    (options : Options) :
    let s := templateSignature names options
    let cast := r.foundry.castTemplate b r.naming names options.isMutable
      (properParent options.parent) u
    let out := templateFor b r u names options
    (∃ t, r.memo.get? s = some t ∧ out = (u.asTemplate t, { r with memo := r.memo.hit }, u)) ∨
    (∃ e, r.memo.get? s = none ∧ cast.1 = .error e ∧
      out = (.error e, { r with memo := r.memo.fail, foundry := cast.2.1 }, cast.2.2)) ∨
    (∃ t, r.memo.get? s = none ∧ cast.1 = .ok t ∧
      out = (cast.2.2.asTemplate t, { r with memo := r.memo.store s t, foundry := cast.2.1 },
        cast.2.2)) := by
  intro s cast out
  have hout : out = templateFor b r u names options := rfl
  rw [templateFor_eq] at hout
  rcases hr.resolve_cases s (templateBuild b r.naming names options) (r.foundry, u) with
    ⟨t, hget, hres⟩ | ⟨t, state, hget, hbuild, hres⟩ | ⟨e, state, hget, hbuild, hres⟩
  · rw [hres] at hout
    exact .inl ⟨t, hget, hout⟩
  · rw [hres] at hout
    obtain ⟨hcast, rfl⟩ := Prod.mk.inj hbuild
    exact .inr (.inr ⟨t, hget, hcast, hout⟩)
  · rw [hres] at hout
    obtain ⟨hcast, rfl⟩ := Prod.mk.inj hbuild
    exact .inr (.inl ⟨e, hget, hcast, hout⟩)

theorem asTemplate_eq_error (h : u.asTemplate t = .error e) :
    u.isTemplate t = false ∧ e = .misuse (.notTemplate (u.fullName t)) := by
  unfold Universe.asTemplate Universe.checkTemplate at h
  by_cases ht : u.isTemplate t = true
  · rw [if_pos ht] at h
    exact absurd h nofun
  · rw [if_neg ht] at h
    exact ⟨by simpa using ht, (Except.error.inj h).symm⟩

/-- A request for a template is passed on: it comes to what the foundry makes of it, if that is a
template, and the backend and the types are what the foundry leaves behind. -/
def PassesOn (b : Backend σ) (r : Registry σ) (u : Universe) (names : List String)
    (options : Options) : Prop :=
  let cast := r.foundry.castTemplate b r.naming names options.isMutable
    (properParent options.parent) u
  let out := template b r u names options
  out.1 = cast.1.bind cast.2.2.asTemplate ∧ out.2.1.foundry = cast.2.1 ∧ out.2.2 = cast.2.2

/-- A request for distinct names that nothing is stored for is passed on. -/
theorem passesOn_of_get?_eq_none (b : Backend σ) (hr : r.memo.Sound) (u : Universe)
    (hnames : checkNames names = .ok ())
    (hget : r.memo.get? (templateSignature names options) = none) :
    PassesOn b r u names options := by
  unfold PassesOn template
  rw [hnames]
  dsimp only
  rcases templateFor_cases b hr u names options with
    ⟨t, hstored, -⟩ | ⟨e, -, hcast, hout⟩ | ⟨t, -, hcast, hout⟩
  · exact absurd (hget.symm.trans hstored) (Option.some_ne_none t).symm
  · rw [hout, hcast]
    exact ⟨rfl, rfl, rfl⟩
  · rw [hout, hcast]
    exact ⟨rfl, rfl, rfl⟩

/-- A request for a template that fails leaves the memo as it was, and if nothing was stored for it,
the next request of that kind is passed on to the backend there is by then.  There is one case in
which it does not: the backend answered with a type that is not a template.  That type is stored by
the time it is looked at, and every later request of that kind finds it there and fails for the same
reason, without asking a backend. -/
theorem Run.template_refused (h : Run between b history r w)
    (he : template b r w.types names options = (.error e, r', u')) :
    let s := templateSignature names options
    let cast := r.foundry.castTemplate b r.naming names options.isMutable
      (properParent options.parent) w.types
    (r'.memo.length = r.memo.length ∧ (∀ s', r'.memo.state s' = r.memo.state s') ∧
      (checkNames names = .ok () → r.memo.get? s = none →
        ∀ (b' : Backend σ) (v : Universe), PassesOn b' r' v names options)) ∨
    ∃ t, r.memo.get? s = none ∧ cast.1 = .ok t ∧ cast.2.2.isTemplate t = false ∧
      r'.memo = r.memo.store s t ∧ e = .misuse (.notTemplate (u'.fullName t)) ∧
      ∀ b' : Backend σ,
        template b' r' u' names options = (.error e, { r' with memo := r'.memo.hit }, u') := by
  intro s cast
  have hr : r.memo.Sound := h.remembers.1
  unfold template at he ⊢
  rcases hnames : checkNames names with fault | _
  · rw [hnames] at he
    obtain ⟨-, hstates⟩ := Prod.mk.inj he
    obtain rfl : r = r' := congrArg Prod.fst hstates
    exact .inl ⟨rfl, fun _ => rfl, nofun⟩
  · rw [hnames] at he
    dsimp only at he ⊢
    rcases templateFor_cases b hr w.types names options with
      ⟨t, hstored, hout⟩ | ⟨fault, -, -, hout⟩ | ⟨t, hget, hcast, hout⟩
    · rw [hout] at he
      obtain rfl : { r with memo := r.memo.hit } = r' := congrArg (·.2.1) he
      refine .inl ⟨rfl, fun _ => rfl, fun _ hget => ?_⟩
      exact absurd (hget.symm.trans hstored) (Option.some_ne_none t).symm
    · rw [hout] at he
      obtain rfl := congrArg (·.2.1) he
      exact .inl ⟨rfl, fun _ => rfl, fun _ hget b' v =>
        passesOn_of_get?_eq_none b' hr.fail v hnames hget⟩
    · rw [hout] at he
      obtain ⟨hresult, hstates⟩ := Prod.mk.inj he
      obtain ⟨rfl, rfl⟩ := Prod.mk.inj hstates
      obtain ⟨hopen, hfault⟩ := asTemplate_eq_error hresult
      refine .inr ⟨t, hget, hcast, hopen, rfl, hfault, fun b' => ?_⟩
      -- The next request is a hit, and what it finds is refused once more.
      have hstored : (r.memo.store s t).get? s = some t := Memo.get?_store_self r.memo s t
      rw [templateFor_of_get? b' (hr.store hget t) _ hstored, hresult]

/-- A request is not without traces for having failed: the type parameter that the backend defined
for a template is stored, the failure is repeated, and the backend is not asked a second time. -/
theorem template_refused_is_stored :
    let s : Signature := .template ["a"] false none
    let start : Registry Script := new .standard { define := [.parameter] }
    let first := template scriptedBackend start {} ["a"] {}
    let second := template scriptedBackend first.2.1 first.2.2 ["a"] {}
    first.1 = .error (.misuse (.notTemplate "<>f__LatticeUtilsAnonymousType0`1")) ∧
    start.memo.length = 0 ∧ start.memo.state s = .absent ∧
    first.2.1.memo.length = 1 ∧ first.2.1.memo.state s = .present ∧
    second.1 = first.1 ∧ second.2.1.foundry.backend.log.length = 1 := by
  decide +kernel

/-- The type parameter is found for every later request, whatever backend is there by then. -/
theorem Run.template_refused_for_good :
    let s : Signature := .template ["a"] false none
    let start : Registry Script := new .standard { define := [.parameter] }
    let fault : Fault := .misuse (.notTemplate "<>f__LatticeUtilsAnonymousType0`1")
    ∃ r' u', Run TypesStay scriptedBackend [] start {} ∧
      template scriptedBackend start {} ["a"] {} = (.error fault, r', u') ∧
      r'.memo = start.memo.store s (.declared 0) ∧
      ∀ b' : Backend Script,
        template b' r' u' ["a"] {} = (.error fault, { r' with memo := r'.memo.hit }, u') := by
  intro s start fault
  have h : Run TypesStay scriptedBackend [] start {} := .start .standard _
  have hresult : (template scriptedBackend start {} ["a"] {}).1 = .error fault := by
    decide +kernel
  have hlength : (template scriptedBackend start {} ["a"] {}).2.1.memo.length = 1 := by
    decide +kernel
  obtain ⟨⟨result, r', u'⟩, hout⟩ :
      ∃ out, template scriptedBackend start {} ["a"] {} = out := ⟨_, rfl⟩
  rw [hout] at hresult hlength
  obtain rfl : result = .error fault := hresult
  rcases Run.template_refused h hout with ⟨hkept, -⟩ | ⟨t, -, hcast, -, hmemo, -, hagain⟩
  · exact absurd (hlength.symm.trans hkept) (by decide)
  · obtain rfl : .declared 0 = t := Except.ok.inj (Eq.trans (by decide +kernel) hcast)
    exact ⟨r', u', h, hout, hmemo, hagain⟩

end Refused

end Registry

end RecordTypes
