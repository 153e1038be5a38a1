import RecordTypes.Proofs.Registry.Session

/-!
# What a registry lets through

A request that is answered from store passes no check.  All the same, whether a request goes through
does not depend on what was requested before (`Course.verdicts`), because nothing is stored that the
checks would refuse (`Checked`): the checks let it through when it was made, and what they ask for,
names that are not repeated, a class to derive from, types that are not open, stays true.

A `Course` is a session in which only types that exist are handed over.  A type that does not exist
yet could turn out to be a type parameter later on.
-/

namespace RecordTypes

open Universe (Grows)

/-! ### Refusals -/

theorem checkNames_eq_error {names : List String} {e : Fault} (h : checkNames names = .error e) :
    ∃ cause, e = .misuse cause := by
  unfold checkNames at h
  split at h
  · exact ⟨_, (Except.error.inj h).symm⟩
  · exact absurd h nofun

namespace Universe

variable {u v : Universe} {t : TypeId} {parent : Option TypeId} {names : List String}
  {arguments : List TypeId} {e : Fault}

theorem checkParent_eq_error {p : TypeId} (h : u.checkParent p = .error e) :
    ∃ cause, e = .misuse cause := by
  unfold checkParent at h
  dsimp only at h
  split at h
  · exact absurd h nofun
  · split_ifs at h
    · exact ⟨_, (Except.error.inj h).symm⟩
    · exact ⟨_, (Except.error.inj h).symm⟩
  all_goals exact ⟨_, (Except.error.inj h).symm⟩

/-- What is wrong with a request for a template is that it makes no sense. -/
theorem checkDefinition_eq_error (h : u.checkDefinition parent names = .error e) :
    ∃ cause, e = .misuse cause := by
  unfold checkDefinition at h
  rcases hparent : u.checkParent? parent with e' | _
  · rw [hparent] at h
    obtain rfl : e' = e := Except.error.inj h
    cases parent with
    | none => exact absurd hparent nofun
    | some p => exact checkParent_eq_error hparent
  · rw [hparent] at h
    exact checkNames_eq_error h

/-- The number of types is looked at before the types are. -/
theorem checkClosing_of_length_ne (ht : u.isTemplate t = true)
    (hlength : arguments.length ≠ (u.properties t).length) :
    u.checkClosing t arguments = .error
      (.argumentCount (u.fullName t) (u.properties t).length arguments.length) := by
  rw [checkClosing, checkTemplate, if_pos ht]
  change u.checkArguments t arguments = _
  rw [checkArguments]
  exact if_pos hlength

theorem checkClosing_eq_error (hlength : arguments.length = (u.properties t).length)
    (h : u.checkClosing t arguments = .error e) : ∃ cause, e = .misuse cause := by
  unfold checkClosing checkTemplate at h
  by_cases ht : u.isTemplate t = true
  · rw [if_pos ht] at h
    change u.checkArguments t arguments = .error e at h
    rw [checkArguments] at h
    rw [if_neg (not_not.mpr hlength)] at h
    split at h
    · exact ⟨_, (Except.error.inj h).symm⟩
    · exact absurd h nofun
  · rw [if_neg ht] at h
    exact ⟨_, (Except.error.inj h).symm⟩

/-! ### Requests without fault -/

/-- No parent is asked for, or a class that may be derived from. -/
def AcceptsParent (u : Universe) (options : Options) : Prop :=
  ∀ p ∈ properParent options.parent, u.CanDerive p

/-- There is nothing to be said against the request that a signature stands for. -/
def Approves (u : Universe) : Signature → Prop
  | .template names _ parent => (∀ p ∈ parent, u.CanDerive p) ∧ names.Nodup
  | .closed _ arguments => ∀ a ∈ arguments, u.Knows a ∧ u.isOpen a = false

theorem Grows.approves (h : Grows u v) {s : Signature} (hs : u.Approves s) : v.Approves s := by
  cases s with
  | template names isMutable parent => exact ⟨fun p hp => h.canDerive (hs.1 p hp), hs.2⟩
  | closed template arguments =>
    intro a ha
    obtain ⟨hknows, hopen⟩ := hs a ha
    exact ⟨h.knows hknows, by rw [h.isOpen_eq hknows, hopen]⟩

end Universe

namespace Registry

variable {r r' : Registry Unit} {u v : Universe} {w : World} {history : List Exchange} {c : Call}

/-! ### What is stored was let through -/

/-- A faithful registry that stores nothing that the checks would refuse. -/
structure Checked (r : Registry Unit) (u : Universe) : Prop where
  faithful : Faithful r u
  approved : ∀ s t, r.memo.get? s = some t → u.Approves s

theorem checked_new (naming : Naming) : Checked (new naming ()) {} :=
  ⟨faithful_new naming, fun _ _ h => absurd h nofun⟩

/-- Only what the memo stores counts, and types may be declared. -/
theorem Checked.congr (h : Checked r u) (hg : Grows u v) (hsound : r'.memo.Sound)
    (hget : ∀ s, r'.memo.get? s = r.memo.get? s) : Checked r' v := by
  refine ⟨(h.faithful.grows hg).congr hsound hget, fun s t ht => ?_⟩
  rw [hget] at ht
  exact hg.approves (h.approved s t ht)

/-- A type may be stored for a request that there is nothing to be said against. -/
theorem Checked.store (h : Checked r u) {s : Signature} {t : TypeId} {f : Foundry Unit}
    (hfaithful : Faithful { r with memo := r.memo.store s t, foundry := f } u)
    (hs : u.Approves s) : Checked { r with memo := r.memo.store s t, foundry := f } u := by
  refine ⟨hfaithful, fun s' t' ht' => ?_⟩
  rw [Memo.get?_store] at ht'
  split at ht'
  · next heq => exact heq ▸ hs
  · exact h.approved s' t' ht'

theorem Checked.grows (h : Checked r u) (hg : Grows u v) : Checked r v :=
  h.congr hg h.faithful.sound fun _ => rfl

theorem Checked.templateFor (h : Checked r u) (names : List String) (options : Options) :
    Checked (templateFor directBackend r u names options).2.1
      (templateFor directBackend r u names options).2.2 := by
  have hfaithful := (h.faithful.templateFor names options).1
  rcases h.faithful.templateFor_cases names options with
    ⟨t, -, hout⟩ | ⟨e, -, -, hout⟩ | ⟨t, v, -, hcheck, hgrows, -, hout⟩
  · rw [hout]
    exact h.congr .refl h.faithful.sound.hit fun _ => rfl
  · rw [hout]
    exact h.congr .refl h.faithful.sound.fail fun _ => rfl
  · rw [hout] at hfaithful ⊢
    refine (h.grows hgrows).store hfaithful (hgrows.approves ?_)
    exact (h.faithful.wellFormed.checkDefinition_eq_ok_iff _ _).mp hcheck

theorem Checked.close (h : Checked r u) (template : Template) {arguments : List TypeId}
    (hknows : ∀ a ∈ arguments, u.Knows a) :
    Checked (close directBackend r u template arguments).2.1
      (close directBackend r u template arguments).2.2 := by
  have hfaithful := (h.faithful.close template arguments).1
  rcases h.faithful.close_cases template arguments with
    ⟨t, -, hout⟩ | ⟨e, -, -, hout⟩ | ⟨t, v, -, hcheck, hgrows, -, hout⟩
  · rw [hout]
    exact h.congr .refl h.faithful.sound.hit fun _ => rfl
  · rw [hout]
    exact h.congr .refl h.faithful.sound.fail fun _ => rfl
  · rw [hout] at hfaithful ⊢
    refine (h.grows hgrows).store hfaithful (hgrows.approves fun a ha => ⟨hknows a ha, ?_⟩)
    exact ((Universe.checkClosing_eq_ok_iff _ _).mp hcheck).2.2 a ha

theorem Checked.recordType (h : Checked r u) {fields : Fields TypeId} (options : Options)
    (hknows : ∀ t ∈ fields.values, u.Knows t) :
    Checked (recordType directBackend r u fields options).2.1
      (recordType directBackend r u fields options).2.2 := by
  have htemplate := h.templateFor fields.names options
  have hgrows := (h.faithful.templateFor fields.names options).2
  unfold Registry.recordType
  generalize Registry.templateFor directBackend r u fields.names options = out at htemplate hgrows ⊢
  rcases out with ⟨e | template, r₁, u₁⟩
  · exact htemplate
  · exact htemplate.close template fun t ht => hgrows.knows (hknows t ht)

/-! ### Verdicts -/

variable {names : List String} {options : Options} {template : Template} {e : Fault}
  {arguments : List TypeId} {fields : Fields TypeId}

/-- A call for a template, without the check of its names: it goes through if there is nothing to be
said against the request, and the template may be new.  Otherwise nothing is stored. -/
theorem Checked.templateFor_verdict (h : Checked r u) (names : List String) (options : Options) :
    (u.AcceptsParent options ∧ names.Nodup ∧
      ∃ template r' u', Registry.templateFor directBackend r u names options =
          (.ok template, r', u') ∧
        u'.HasTemplate template.type names options.isMutable (properParent options.parent) ∧
        (r'.memo.entries = r.memo.entries ∨
          r.memo.get? (templateSignature names options) = none ∧
          r'.memo.entries = ⟨(templateSignature names options).key,
            templateSignature names options, template.type⟩ :: r.memo.entries)) ∨
    (¬ (u.AcceptsParent options ∧ names.Nodup) ∧
      ∃ cause r', Registry.templateFor directBackend r u names options =
          (.error (.misuse cause), r', u) ∧
        r'.memo.entries = r.memo.entries) := by
  have hcheck_iff := h.faithful.wellFormed.checkDefinition_eq_ok_iff options.parent names
  rcases h.faithful.templateFor_cases names options with
    ⟨t, hget, hout⟩ | ⟨e, -, hcheck, hout⟩ | ⟨t, v, hget, hcheck, -, ht, hout⟩
  · -- What is stored was approved, and still is.
    obtain ⟨hparent, hnames⟩ := h.approved _ _ hget
    exact .inl ⟨hparent, hnames, ⟨t⟩, _, u, hout, h.faithful.template _ _ _ _ hget, .inl rfl⟩
  · obtain ⟨cause, rfl⟩ := Universe.checkDefinition_eq_error hcheck
    refine .inr ⟨fun hok => ?_, cause, _, hout, rfl⟩
    rw [hcheck_iff.mpr hok] at hcheck
    exact absurd hcheck nofun
  · obtain ⟨hparent, hnames⟩ := hcheck_iff.mp hcheck
    exact .inl ⟨hparent, hnames, ⟨t⟩, _, v, hout, ht, .inr ⟨hget, rfl⟩⟩

/-- A call to close a template goes through for one type per property, none of them open.  Otherwise
nothing is stored, and a wrong number of types is told from other mistakes. -/
theorem Checked.close_verdict (h : Checked r u) (ht : u.isTemplate template.type = true)
    (arguments : List TypeId) :
    let arity := (u.properties template.type).length
    (arguments.length = arity ∧ (∀ a ∈ arguments, u.isOpen a = false) ∧
      ∃ t r' u', Registry.close directBackend r u template arguments = (.ok t, r', u')) ∨
    (¬ (arguments.length = arity ∧ ∀ a ∈ arguments, u.isOpen a = false) ∧
      ∃ e r', Registry.close directBackend r u template arguments = (.error e, r', u) ∧
        r'.memo.entries = r.memo.entries ∧
        (arguments.length ≠ arity →
          e = .argumentCount (u.fullName template.type) arity arguments.length) ∧
        (arguments.length = arity → ∃ cause, e = .misuse cause)) := by
  intro arity
  have hcheck_iff := Universe.checkClosing_eq_ok_iff (u := u) template.type arguments
  rcases h.faithful.close_cases template arguments with
    ⟨t, hget, hout⟩ | ⟨e, -, hcheck, hout⟩ | ⟨t, v, -, hcheck, -, -, hout⟩
  · obtain ⟨l, hl, harity, -⟩ := h.faithful.closed _ _ _ hget
    have hlength : arguments.length = arity := by
      rw [← harity]
      exact congrArg List.length (Universe.properties_of_layout? hl).symm
    exact .inl ⟨hlength, fun a ha => (h.approved _ _ hget a ha).2, t, _, u, hout⟩
  · refine .inr ⟨fun hok => ?_, e, _, hout, rfl, fun hlength => ?_, fun hlength => ?_⟩
    · rw [hcheck_iff.mpr ⟨ht, hok⟩] at hcheck
      exact absurd hcheck nofun
    · rw [Universe.checkClosing_of_length_ne ht hlength] at hcheck
      exact (Except.error.inj hcheck).symm
    · exact Universe.checkClosing_eq_error hlength hcheck
  · obtain ⟨-, hlength, hopen⟩ := hcheck_iff.mp hcheck
    exact .inl ⟨hlength, hopen, t, _, v, hout⟩

/-- A call for a record type goes through for fields of types that are not open, over no parent or
one that may be derived from.  Otherwise at most the template is stored, and if the parent is to
blame, nothing is. -/
theorem Checked.recordType_verdict (h : Checked r u) (options : Options)
    (hknows : ∀ t ∈ fields.values, u.Knows t) :
    (u.AcceptsParent options ∧ (∀ t ∈ fields.values, u.isOpen t = false) ∧
      ∃ t r' u', Registry.recordType directBackend r u fields options = (.ok t, r', u')) ∨
    (¬ (u.AcceptsParent options ∧ ∀ t ∈ fields.values, u.isOpen t = false) ∧
      ∃ cause r' u', Registry.recordType directBackend r u fields options =
          (.error (.misuse cause), r', u') ∧
        (r'.memo.entries = r.memo.entries ∨
          u.AcceptsParent options ∧
          r.memo.get? (templateSignature fields.names options) = none ∧
          ∃ t, u'.HasTemplate t fields.names options.isMutable (properParent options.parent) ∧
            r'.memo.entries = ⟨(templateSignature fields.names options).key,
              templateSignature fields.names options, t⟩ :: r.memo.entries)) := by
  have hchecked := h.templateFor fields.names options
  have hgrows := (h.faithful.templateFor fields.names options).2
  rcases h.templateFor_verdict fields.names options with
    ⟨hparent, -, template, r₁, u₁, hout, htemplate, hentries⟩ |
    ⟨hrefused, cause, r₁, hout, hentries⟩
  · rw [hout] at hchecked hgrows
    have hclose : Registry.recordType directBackend r u fields options =
        Registry.close directBackend r₁ u₁ template fields.values := by
      rw [Registry.recordType, hout]
    -- The template has as many properties as there are fields.
    have hlength : fields.values.length = (u₁.properties template.type).length := by
      rw [fields.length_values, htemplate.length_properties]
    have hopen_iff : (∀ t ∈ fields.values, u₁.isOpen t = false) ↔
        ∀ t ∈ fields.values, u.isOpen t = false :=
      forall₂_congr fun t ht => by rw [hgrows.isOpen_eq (hknows t ht)]
    rw [hclose]
    rcases hchecked.close_verdict htemplate.isTemplate fields.values with
      ⟨-, hopen, hresult⟩ | ⟨hrefused, e, r', hresult, hentries', -, hmisuse⟩
    · exact .inl ⟨hparent, hopen_iff.mp hopen, hresult⟩
    · obtain ⟨cause, rfl⟩ := hmisuse hlength
      refine .inr ⟨fun hok => hrefused ⟨hlength, hopen_iff.mpr hok.2⟩, cause, r', u₁, hresult, ?_⟩
      rw [hentries']
      rcases hentries with hsame | ⟨hget, hnew⟩
      · exact .inl hsame
      · exact .inr ⟨hparent, hget, template.type, htemplate, hnew⟩
  · refine .inr ⟨fun hok => hrefused ⟨hok.1, fields.nodup⟩, cause, r₁, u, ?_, .inl hentries⟩
    rw [Registry.recordType, hout]

/-- A call for a template goes through for names that are not repeated, over no parent or one that
may be derived from.  Otherwise nothing is stored. -/
theorem Checked.template_verdict (h : Checked r u) (names : List String) (options : Options) :
    (names.Nodup ∧ u.AcceptsParent options ∧
      ∃ template r' u', Registry.template directBackend r u names options =
        (.ok template, r', u')) ∨
    (¬ (names.Nodup ∧ u.AcceptsParent options) ∧
      ∃ cause r', Registry.template directBackend r u names options =
        (.error (.misuse cause), r', u) ∧ r'.memo.entries = r.memo.entries) := by
  unfold Registry.template
  rcases hnames : checkNames names with e | _
  · have hrepeated : ¬ names.Nodup := by
      rw [← checkNames_eq_ok_iff, hnames]
      exact nofun
    obtain ⟨cause, rfl⟩ := checkNames_eq_error hnames
    exact .inr ⟨fun hok => hrepeated hok.1, cause, r, rfl, rfl⟩
  · dsimp only
    rcases h.templateFor_verdict names options with
      ⟨hparent, hnodup, template, r', u', hout, -⟩ | ⟨hrefused, cause, r', hout, hentries⟩
    · exact .inl ⟨hnodup, hparent, template, r', u', hout⟩
    · exact .inr ⟨fun hok => hrefused hok.symm, cause, r', hout, hentries⟩

/-! ### Courses -/

/-- The types that a call hands over for fields exist. -/
def Call.TypesExist (u : Universe) : Call → Prop
  | .recordType fields _ => ∀ t ∈ fields.values, u.Knows t
  | .close _ arguments => ∀ t ∈ arguments, u.Knows t
  | _ => True

/-- A session in which no type is handed over that does not exist yet. -/
inductive Course : List Exchange → Registry Unit → World → Prop
  | start (naming : Naming) : Course [] (new naming ()) {}
  | call {history : List Exchange} {r : Registry Unit} {w : World} (c : Call)
      (h : Course history r w) (hheld : c.ValuesExist w.heap) (htypes : c.TypesExist w.types) :
      Course (⟨c, (perform directBackend r w c).1⟩ :: history) (perform directBackend r w c).2.1
        (perform directBackend r w c).2.2
  | step {history : List Exchange} {r : Registry Unit} {w w' : World}
      (h : Course history r w) (hw : World.Step w w') : Course history r w'

theorem Course.session (h : Course history r w) : Session history r w := by
  induction h with
  | start naming => exact .start naming
  | call c _ hheld _ ih => exact ih.call c hheld
  | step _ hw ih => exact ih.step hw

/-- No call makes a registry store what the checks would refuse. -/
theorem Checked.perform (h : Checked r w.types) (hw : w.Sound) (hheld : c.ValuesExist w.heap)
    (htypes : c.TypesExist w.types) :
    Checked (perform directBackend r w c).2.1 (perform directBackend r w c).2.2.types := by
  have hgrows : Grows w.types (Registry.perform directBackend r w c).2.2.types :=
    h.faithful.typesGrow_perform c
  cases c with
  | recordType fields options => exact h.recordType options htypes
  | template names options =>
    show Checked (Registry.template directBackend r w.types names options).2.1
      (Registry.template directBackend r w.types names options).2.2
    unfold Registry.template
    rcases checkNames names with e | _
    · exact h
    · exact h.templateFor names options
  | close template arguments => exact h.close template htypes
  | object values type =>
    cases type with
    | none =>
      obtain ⟨hregistry, hmade⟩ := make_eq_recordType directBackend r w values
      show Checked (make directBackend r w values).2.1 (make directBackend r w values).2.2.types
      rw [hregistry, hmade]
      -- The types requested are those of values, which exist.
      refine h.recordType {} ?_
      rw [Fields.values_map, List.forall_mem_map]
      exact fun v hv => (isOpen_slotType hw (hheld v hv)).1
    | some t =>
      obtain ⟨hregistry, hmade⟩ := object_some_eq directBackend r w values t
      show Checked (Registry.object directBackend r w values (some t)).2.1
        (Registry.object directBackend r w values (some t)).2.2.types
      rw [hregistry, hmade]
      exact h
  | rename naming => exact h.congr .refl h.faithful.sound fun _ => rfl
  | castTemplate names isMutable parent =>
    exact h.congr hgrows h.faithful.sound fun _ => rfl
  | castClosed template arguments => exact h.congr hgrows h.faithful.sound fun _ => rfl

theorem Course.checked (h : Course history r w) : Checked r w.types := by
  induction h with
  | start naming => exact checked_new naming
  | call c h hheld htypes ih => exact ih.perform h.session.sound hheld htypes
  | step _ hw ih => exact ih.grows hw.evolves.grows

/-- After every course, the verdict on a request is that of the checks, whatever was requested
before.  A request that is refused leaves nothing behind in the memo, but for the template of a
record type of which only the types are to blame. -/
theorem Course.verdicts (h : Course history r w) :
    (∀ fields options, (∀ t ∈ fields.values, w.types.Knows t) →
      let s := templateSignature fields.names options
      let out := recordType directBackend r w.types fields options
      ((∃ t, out.1 = .ok t) ↔
        w.types.AcceptsParent options ∧ ∀ t ∈ fields.values, w.types.isOpen t = false) ∧
      ∀ e, out.1 = .error e → (∃ cause, e = .misuse cause) ∧
        (out.2.1.memo.entries = r.memo.entries ∨
          w.types.AcceptsParent options ∧ r.memo.get? s = none ∧
          ∃ t, out.2.2.HasTemplate t fields.names options.isMutable
              (properParent options.parent) ∧
            out.2.1.memo.entries = ⟨s.key, s, t⟩ :: r.memo.entries)) ∧
    (∀ names options,
      let out := Registry.template directBackend r w.types names options
      ((∃ template, out.1 = .ok template) ↔ names.Nodup ∧ w.types.AcceptsParent options) ∧
      ∀ e, out.1 = .error e →
        (∃ cause, e = .misuse cause) ∧ out.2.1.memo.entries = r.memo.entries) ∧
    (∀ template arguments, w.types.isTemplate template.type = true →
      let arity := (w.types.properties template.type).length
      let out := close directBackend r w.types template arguments
      ((∃ t, out.1 = .ok t) ↔
        arguments.length = arity ∧ ∀ t ∈ arguments, w.types.isOpen t = false) ∧
      ∀ e, out.1 = .error e → out.2.1.memo.entries = r.memo.entries ∧
        (arguments.length ≠ arity →
          e = .argumentCount (w.types.fullName template.type) arity arguments.length) ∧
        (arguments.length = arity → ∃ cause, e = .misuse cause)) := by
  have hchecked := h.checked
  refine ⟨fun fields options hknows => ?_, fun names options => ?_,
    fun template arguments ht => ?_⟩
  · rcases hchecked.recordType_verdict options hknows with
      ⟨hparent, hopen, t, r', u', hout⟩ | ⟨hrefused, cause, r', u', hout, hentries⟩
    · rw [hout]
      exact ⟨⟨fun _ => ⟨hparent, hopen⟩, fun _ => ⟨t, rfl⟩⟩, nofun⟩
    · rw [hout]
      refine ⟨⟨nofun, fun hok => absurd hok hrefused⟩, fun e he => ?_⟩
      exact ⟨⟨cause, (Except.error.inj he).symm⟩, hentries⟩
  · rcases hchecked.template_verdict names options with
      ⟨hnames, hparent, template, r', u', hout⟩ | ⟨hrefused, cause, r', hout, hentries⟩
    · rw [hout]
      exact ⟨⟨fun _ => ⟨hnames, hparent⟩, fun _ => ⟨template, rfl⟩⟩, nofun⟩
    · rw [hout]
      refine ⟨⟨nofun, fun hok => absurd hok hrefused⟩, fun e he => ?_⟩
      exact ⟨⟨cause, (Except.error.inj he).symm⟩, hentries⟩
  · rcases hchecked.close_verdict ht arguments with
      ⟨hlength, hopen, t, r', u', hout⟩ | ⟨hrefused, e, r', hout, hentries, hcount, hmisuse⟩
    · rw [hout]
      exact ⟨⟨fun _ => ⟨hlength, hopen⟩, fun _ => ⟨t, rfl⟩⟩, nofun⟩
    · rw [hout]
      refine ⟨⟨nofun, fun hok => absurd hok hrefused⟩, fun e' he' => ?_⟩
      obtain rfl := Except.error.inj he'
      exact ⟨hentries, hcount, hmisuse⟩

/-- After a record type was made over a class, the type is still to be had, a type over its
parameter is not, and its template cannot be closed over nothing. -/
theorem Course.verdicts_over_class :
    let base : ClassInfo := { members := [⟨"id", .builtin .int32, .scalar (.int32 0), true⟩] }
    let fields : Fields TypeId := ⟨[("a", .builtin .string)], by decide⟩
    let overParameter : Fields TypeId := ⟨[("b", .declared 1)], by decide⟩
    let options : Options := { isMutable := true, parent := some (.declared 0) }
    ∃ r w, Course [⟨.recordType fields options, .type (.ok (.declared 3))⟩] r w ∧
      w.types.class? (.declared 0) = some base ∧
      w.types.isTemplate (.declared 2) = true ∧ w.types.parameters (.declared 2) = [.declared 1] ∧
      (∃ t, (recordType directBackend r w.types fields options).1 = .ok t) ∧
      (∃ cause, (recordType directBackend r w.types overParameter options).1 =
        .error (.misuse cause)) ∧
      (close directBackend r w.types ⟨.declared 2⟩ []).1 =
        .error (.argumentCount (w.types.fullName (.declared 2)) 1 0) := by
  intro base fields overParameter options
  let u : Universe := Universe.add {} ⟨"Base", .nominal base⟩
  have hdeclared : ({} : World).declareClass "Base" base = .ok (.declared 0, u) := rfl
  have hheld : ∀ m ∈ base.members, ({} : World).heap.Holds m.initial := by
    simp [base, Heap.Holds]
  have hclass : Course [] (new .standard ()) { types := u } :=
    (Course.start .standard).step (.declareClass hheld hdeclared)
  have htypes : (Call.recordType fields options).TypesExist u := by
    rintro t (_ | ⟨_, ⟨⟩⟩)
    rfl
  have hcourse := hclass.call (.recordType fields options) trivial htypes
  generalize hout : perform directBackend (new .standard ()) { types := u }
    (.recordType fields options) = out at hcourse
  have hanswer : out.1 = .type (.ok (.declared 3)) := hout ▸ by decide +kernel
  have hbase : out.2.2.types.class? (.declared 0) = some base := hout ▸ by decide +kernel
  have hkind : out.2.2.types.kind? (.declared 1) = some (.parameter 0) := hout ▸ by decide +kernel
  have hopen : out.2.2.types.isOpen (.declared 1) = true := hout ▸ by decide +kernel
  have ht : out.2.2.types.isTemplate (.declared 2) = true := hout ▸ by decide +kernel
  have hparameters : out.2.2.types.parameters (.declared 2) = [.declared 1] :=
    hout ▸ by decide +kernel
  have harity : (out.2.2.types.properties (.declared 2)).length = 1 := hout ▸ by decide +kernel
  rw [hanswer] at hcourse
  obtain ⟨hrecords, -, hcloses⟩ := Course.verdicts hcourse
  have haccepts : out.2.2.types.AcceptsParent options := by
    rintro p ⟨⟩
    exact ⟨base, hbase, rfl, rfl⟩
  refine ⟨_, _, hcourse, hbase, ht, hparameters, ?_, ?_, ?_⟩
  · have hfields : ∀ t ∈ fields.values,
        out.2.2.types.Knows t ∧ out.2.2.types.isOpen t = false := by
      rintro t (_ | ⟨_, ⟨⟩⟩)
      exact ⟨rfl, rfl⟩
    exact (hrecords fields options fun t ht => (hfields t ht).1).1.mpr
      ⟨haccepts, fun t ht => (hfields t ht).2⟩
  · have hknows : ∀ t ∈ overParameter.values, out.2.2.types.Knows t := by
      rintro t (_ | ⟨_, ⟨⟩⟩)
      exact Universe.knows_of_kind? hkind
    obtain ⟨hverdict, hrefused⟩ := hrecords overParameter options hknows
    rcases hresult : (recordType directBackend out.2.1 out.2.2.types overParameter options).1
      with e | t
    · obtain ⟨⟨cause, rfl⟩, -⟩ := hrefused e hresult
      exact ⟨cause, rfl⟩
    · have hclosed := (hverdict.mp ⟨t, hresult⟩).2 (.declared 1) (.head _)
      exact absurd (hopen.symm.trans hclosed) (by decide)
  · obtain ⟨hverdict, hrefused⟩ := hcloses ⟨.declared 2⟩ [] ht
    rw [harity] at hverdict hrefused
    rcases hresult : (close directBackend out.2.1 out.2.2.types ⟨.declared 2⟩ []).1 with e | t
    · obtain ⟨-, hcount, -⟩ := hrefused e hresult
      rw [hcount (by decide)]
      rfl
    · exact absurd (hverdict.mp ⟨t, hresult⟩).1 (by decide)

end Registry

end RecordTypes
