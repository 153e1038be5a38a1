import RecordTypes.Registry
import RecordTypes.Proofs.Memo.Basic

/-!
# Runs of a registry

A `Run` of a registry begins with a new one and makes calls one after another.  Calls may fail, may
be made to the foundry directly, past the memo, and between any two of them anything may happen
elsewhere that `between` allows: classes are declared, other registries make types, instances are
written.  The history lists every call with its answer, the newest first.  A `NamedRun` is a run in
which types are named in allowed ways only.

However the backend behaves, a registry never forgets an answer (`Run.remembers`): every template
and every closed type that it handed out is stored in its memo for the request that it answered.  So
the templates that are its own are told by its memo and the history (`IsOwn`).
-/

namespace RecordTypes.Registry

/-- A call of a registry. -/
inductive Call where
  | recordType (fields : Fields TypeId) (options : Options)
  | template (names : List String) (options : Options)
  | close (template : Template) (arguments : List TypeId)
  | object (values : Fields Value) (type : Option TypeId)
  | rename (naming : Naming)
  -- The last two go to the foundry, past the memo.
  | castTemplate (names : List String) (isMutable : Bool) (parent : Option TypeId)
  | castClosed (template : TypeId) (arguments : List TypeId)

/-- What a call came to. -/
inductive Answer where
  | type (result : Except Fault TypeId)
  | template (result : Except Fault Template)
  | object (result : Except Fault InstanceId)
  | done
  deriving DecidableEq

/-- A call with its answer. -/
structure Exchange where
  call : Call
  answer : Answer

section

variable {σ : Type}

/-- Makes a call. -/
def perform (b : Backend σ) (r : Registry σ) (w : World) : Call → Answer × Registry σ × World
  | .recordType fields options =>
    let (result, r, types) := recordType b r w.types fields options
    (.type result, r, { w with types })
  | .template names options =>
    let (result, r, types) := template b r w.types names options
    (.template result, r, { w with types })
  | .close template arguments =>
    let (result, r, types) := close b r w.types template arguments
    (.type result, r, { w with types })
  | .object values type =>
    let (result, r, w) := object b r w values type
    (.object result, r, w)
  | .rename naming => (.done, r.rename naming, w)
  | .castTemplate names isMutable parent =>
    let (result, foundry, types) :=
      r.foundry.castTemplate b r.naming names isMutable parent w.types
    (.type result, { r with foundry }, { w with types })
  | .castClosed template arguments =>
    let (result, foundry, types) := r.foundry.castClosed b template arguments w.types
    (.type result, { r with foundry }, { w with types })

/-- Calls made one after another, beginning with a new registry. -/
inductive Run (between : World → World → Prop) (b : Backend σ) :
    List Exchange → Registry σ → World → Prop
  | start (naming : Naming) (backend : σ) : Run between b [] (new naming backend) {}
  | call {history : List Exchange} {r : Registry σ} {w : World} (c : Call)
      (h : Run between b history r w) :
      Run between b (⟨c, (perform b r w c).1⟩ :: history) (perform b r w c).2.1
        (perform b r w c).2.2
  | elsewhere {history : List Exchange} {r : Registry σ} {w w' : World}
      (h : Run between b history r w) (hw : between w w') : Run between b history r w'

/-- Makes calls with a new registry, the last of the list first, while nothing happens elsewhere. -/
def play (b : Backend σ) (naming : Naming) (backend : σ) :
    List Call → List Answer × Registry σ × World
  | [] => ([], new naming backend, {})
  | c :: earlier =>
    let (answers, r, w) := play b naming backend earlier
    let (answer, r, w) := perform b r w c
    (answer :: answers, r, w)

theorem run_play (between : World → World → Prop) (b : Backend σ) (naming : Naming) (backend : σ)
    (calls : List Call) :
    Run between b (calls.zipWith Exchange.mk (play b naming backend calls).1)
      (play b naming backend calls).2.1 (play b naming backend calls).2.2 := by
  induction calls with
  | nil => exact .start naming backend
  | cons c earlier ih => exact ih.call c

/-! ### What all calls keep -/

/-- A property of a registry and a universe that is kept by the parts that calls are made of, if
types are named anew in one of the ways allowed. -/
structure KeptUnder (allowed : Naming → Prop) (b : Backend σ)
    (P : Registry σ → Universe → Prop) : Prop where
  templateFor : ∀ r u names options, P r u →
    P (templateFor b r u names options).2.1 (templateFor b r u names options).2.2
  close : ∀ r u template arguments, P r u →
    P (close b r u template arguments).2.1 (close b r u template arguments).2.2
  rename : ∀ r u naming, allowed naming → P r u → P (rename r naming) u
  castTemplate : ∀ r u names isMutable parent, P r u →
    let out := r.foundry.castTemplate b r.naming names isMutable parent u
    P { r with foundry := out.2.1 } out.2.2
  castClosed : ∀ r u template arguments, P r u →
    let out := r.foundry.castClosed b template arguments u
    P { r with foundry := out.2.1 } out.2.2

/-- A property that is kept in this way however types are named anew. -/
abbrev Kept (b : Backend σ) (P : Registry σ → Universe → Prop) : Prop :=
  KeptUnder (fun _ => True) b P

/-- A call that names types anew does so in a way that is allowed. -/
def Call.IsAllowed (allowed : Naming → Prop) (c : Call) : Prop :=
  ∀ naming, c = .rename naming → allowed naming

variable {allowed : Naming → Prop} {b : Backend σ} {P : Registry σ → Universe → Prop}
  {r : Registry σ} {u : Universe} {w : World}

theorem KeptUnder.recordType (hP : KeptUnder allowed b P) (h : P r u) (fields : Fields TypeId)
    (options : Options) :
    P (recordType b r u fields options).2.1 (recordType b r u fields options).2.2 := by
  have htemplate := hP.templateFor r u fields.names options h
  unfold Registry.recordType
  generalize Registry.templateFor b r u fields.names options = out at htemplate ⊢
  rcases out with ⟨e | T, r', u'⟩
  · exact htemplate
  · exact hP.close r' u' T fields.values htemplate

theorem KeptUnder.template (hP : KeptUnder allowed b P) (h : P r u) (names : List String)
    (options : Options) :
    P (template b r u names options).2.1 (template b r u names options).2.2 := by
  unfold Registry.template
  rcases checkNames names with e | _
  · exact h
  · exact hP.templateFor r u names options h

/-- Making an object changes the registry and the types as the call for its type does. -/
theorem make_eq_recordType (b : Backend σ) (r : Registry σ) (w : World) (values : Fields Value) :
    (make b r w values).2.1 = (recordType b r w.types (values.map (slotType w.heap)) {}).2.1 ∧
    (make b r w values).2.2.types =
      (recordType b r w.types (values.map (slotType w.heap)) {}).2.2 := by
  unfold make
  rcases recordType b r w.types (values.map (slotType w.heap)) {} with ⟨e | t, r', u'⟩ <;>
    exact ⟨rfl, rfl⟩

/-- Making an object of a given type changes the heap only. -/
theorem object_some_eq (b : Backend σ) (r : Registry σ) (w : World) (values : Fields Value)
    (t : TypeId) :
    (object b r w values (some t)).2.1 = r ∧
    (object b r w values (some t)).2.2.types = w.types := ⟨rfl, rfl⟩

theorem KeptUnder.object (hP : KeptUnder allowed b P) (h : P r w.types) (values : Fields Value)
    (type : Option TypeId) :
    P (object b r w values type).2.1 (object b r w values type).2.2.types := by
  rcases type with _ | t
  · obtain ⟨hregistry, htypes⟩ := make_eq_recordType b r w values
    show P (make b r w values).2.1 (make b r w values).2.2.types
    rw [hregistry, htypes]
    exact hP.recordType h _ {}
  · obtain ⟨hregistry, htypes⟩ := object_some_eq b r w values t
    rw [hregistry, htypes]
    exact h

theorem KeptUnder.perform (hP : KeptUnder allowed b P) (h : P r w.types) (c : Call)
    (hc : c.IsAllowed allowed) : P (perform b r w c).2.1 (perform b r w c).2.2.types := by
  cases c with
  | recordType fields options => exact hP.recordType h fields options
  | template names options => exact hP.template h names options
  | close template arguments => exact hP.close r w.types template arguments h
  | object values type => exact hP.object h values type
  | rename naming => exact hP.rename r w.types naming (hc naming rfl) h
  | castTemplate names isMutable parent =>
    exact hP.castTemplate r w.types names isMutable parent h
  | castClosed template arguments => exact hP.castClosed r w.types template arguments h

theorem Kept.perform (hP : Kept b P) (h : P r w.types) (c : Call) :
    P (perform b r w c).2.1 (perform b r w c).2.2.types :=
  KeptUnder.perform hP h c fun _ _ => trivial

/-- What a new registry has, and what every call and everything elsewhere keeps, holds after every
run. -/
theorem Run.kept {between : World → World → Prop} {history : List Exchange} (hP : Kept b P)
    (hstart : ∀ naming backend, P (new naming backend) {})
    (hbetween : ∀ r w w', between w w' → P r w.types → P r w'.types)
    (h : Run between b history r w) : P r w.types := by
  induction h with
  | start naming backend => exact hstart naming backend
  | call c _ ih => exact hP.perform ih c
  | elsewhere _ hw ih => exact hbetween _ _ _ hw ih

/-! ### Runs under given names -/

/-- Calls made one after another, beginning with a new registry, where types are named in allowed
ways only. -/
inductive NamedRun (allowed : Naming → Prop) (between : World → World → Prop) (b : Backend σ) :
    List Exchange → Registry σ → World → Prop
  | start {naming : Naming} (backend : σ) (hn : allowed naming) :
      NamedRun allowed between b [] (new naming backend) {}
  | call {history : List Exchange} {r : Registry σ} {w : World} {c : Call}
      (h : NamedRun allowed between b history r w) (hc : c.IsAllowed allowed) :
      NamedRun allowed between b (⟨c, (perform b r w c).1⟩ :: history) (perform b r w c).2.1
        (perform b r w c).2.2
  | elsewhere {history : List Exchange} {r : Registry σ} {w w' : World}
      (h : NamedRun allowed between b history r w) (hw : between w w') :
      NamedRun allowed between b history r w'

section Named

variable {between : World → World → Prop} {history : List Exchange}

theorem NamedRun.run (h : NamedRun allowed between b history r w) :
    Run between b history r w := by
  induction h with
  | start backend _ => exact .start _ backend
  | call _ _ ih => exact ih.call _
  | elsewhere _ hw ih => exact ih.elsewhere hw

/-- In any run types are named somehow. -/
theorem Run.named (h : Run between b history r w) :
    NamedRun (fun _ => True) between b history r w := by
  induction h with
  | start _ backend => exact .start backend trivial
  | call _ _ ih => exact ih.call fun _ _ => trivial
  | elsewhere _ hw ih => exact ih.elsewhere hw

/-- Calls that are played one after another make up a run under the names allowed. -/
theorem namedRun_play (between : World → World → Prop) (b : Backend σ) (naming : Naming)
    (backend : σ) {calls : List Call} (hcalls : ∀ c ∈ calls, c.IsAllowed allowed)
    (hn : allowed naming) :
    NamedRun allowed between b (calls.zipWith Exchange.mk (play b naming backend calls).1)
      (play b naming backend calls).2.1 (play b naming backend calls).2.2 := by
  induction calls with
  | nil => exact .start backend hn
  | cons c earlier ih =>
    obtain ⟨hc, hearlier⟩ := List.forall_mem_cons.mp hcalls
    exact (ih hearlier).call hc

end Named

/-! ### What the memo remembers -/

/-- The signature of the template that names and options call for. -/
def templateSignature (names : List String) (options : Options) : Signature :=
  .template names options.isMutable (properParent options.parent)

/-- The build behind a template. -/
def templateBuild (b : Backend σ) (n : Naming) (names : List String) (options : Options) :
    Memo → Foundry σ × Universe → Except Fault TypeId × Foundry σ × Universe :=
  fun _ s => s.1.castTemplate b n names options.isMutable (properParent options.parent) s.2

/-- The build behind a closed type. -/
def closedBuild (b : Backend σ) (template : Template) (arguments : List TypeId) :
    Memo → Foundry σ × Universe → Except Fault TypeId × Foundry σ × Universe :=
  fun _ s => s.1.castClosed b template.type arguments s.2

theorem templateFor_eq (b : Backend σ) (r : Registry σ) (u : Universe) (names : List String)
    (options : Options) :
    templateFor b r u names options =
      let out := r.memo.resolve (templateSignature names options)
        (templateBuild b r.naming names options) (r.foundry, u)
      (out.1.bind out.2.2.2.asTemplate, { r with memo := out.2.1, foundry := out.2.2.1 },
        out.2.2.2) := rfl

theorem close_eq (b : Backend σ) (r : Registry σ) (u : Universe) (template : Template)
    (arguments : List TypeId) :
    close b r u template arguments =
      let out := r.memo.resolve (.closed template.type arguments)
        (closedBuild b template arguments) (r.foundry, u)
      (out.1, { r with memo := out.2.1, foundry := out.2.2.1 }, out.2.2.2) := rfl

/-- What the foundry keeps of itself and of a universe under the names allowed, a registry keeps. -/
theorem keptUnder_of_foundry {Q : Foundry σ → Universe → Prop}
    (htemplate : ∀ f n names isMutable parent u, allowed n → Q f u →
      let out := f.castTemplate b n names isMutable parent u
      Q out.2.1 out.2.2)
    (hclosed : ∀ f template arguments u, Q f u →
      let out := f.castClosed b template arguments u
      Q out.2.1 out.2.2) : KeptUnder allowed b fun r u => allowed r.naming ∧ Q r.foundry u where
  templateFor r u names options h := by
    rw [templateFor_eq]
    exact ⟨h.1, Memo.resolve_state r.memo _ (P := fun s : Foundry σ × Universe => Q s.1 s.2) h.2
      fun _ => htemplate _ _ _ _ _ _ h.1 h.2⟩
  close r u template arguments h := by
    rw [close_eq]
    exact ⟨h.1, Memo.resolve_state r.memo _ (P := fun s : Foundry σ × Universe => Q s.1 s.2) h.2
      fun _ => hclosed _ _ _ _ h.2⟩
  rename _ _ _ hn h := ⟨hn, h.2⟩
  castTemplate _ _ _ _ _ h := ⟨h.1, htemplate _ _ _ _ _ _ h.1 h.2⟩
  castClosed _ _ _ _ h := ⟨h.1, hclosed _ _ _ _ h.2⟩

/-- What the foundry keeps of itself and of a universe, a registry keeps. -/
theorem kept_of_foundry {Q : Foundry σ → Universe → Prop}
    (htemplate : ∀ f n names isMutable parent u, Q f u →
      let out := f.castTemplate b n names isMutable parent u
      Q out.2.1 out.2.2)
    (hclosed : ∀ f template arguments u, Q f u →
      let out := f.castClosed b template arguments u
      Q out.2.1 out.2.2) : Kept b fun r u => Q r.foundry u := by
  have hunder : KeptUnder (fun _ => True) b fun r u => True ∧ Q r.foundry u :=
    keptUnder_of_foundry
      (fun f n names isMutable parent u _ => htemplate f n names isMutable parent u) hclosed
  simp only [true_and] at hunder
  exact hunder

/-- What the foundry keeps of a universe, a registry keeps. -/
theorem kept_of_casts {Q : Universe → Prop}
    (htemplate : ∀ (f : Foundry σ) n names isMutable parent u, Q u →
      Q (f.castTemplate b n names isMutable parent u).2.2)
    (hclosed : ∀ (f : Foundry σ) template arguments u, Q u →
      Q (f.castClosed b template arguments u).2.2) : Kept b fun _ u => Q u :=
  kept_of_foundry (Q := fun _ u => Q u) htemplate hclosed

theorem asTemplate_eq_ok_iff {t : TypeId} {template : Template} :
    u.asTemplate t = .ok template ↔ u.isTemplate t = true ∧ template = ⟨t⟩ := by
  unfold Universe.asTemplate Universe.checkTemplate
  by_cases ht : u.isTemplate t = true
  · rw [if_pos ht]
    exact ⟨fun h => ⟨ht, (Except.ok.inj h).symm⟩, fun h => h.2 ▸ rfl⟩
  · rw [if_neg ht]
    exact ⟨nofun, fun h => absurd h.1 ht⟩

/-- The template handed out is the one stored for the request from then on. -/
theorem get?_templateFor (hr : r.memo.Sound) {names : List String} {options : Options}
    {template : Template} (h : (templateFor b r u names options).1 = .ok template) :
    (templateFor b r u names options).2.1.memo.get? (templateSignature names options) =
      some template.type := by
  rw [templateFor_eq] at h ⊢
  apply hr.get?_resolve
  dsimp only at h
  generalize r.memo.resolve (templateSignature names options)
    (templateBuild b r.naming names options) (r.foundry, u) = out at h ⊢
  rcases out with ⟨e | t, m', s'⟩
  · exact absurd h nofun
  · rw [(asTemplate_eq_ok_iff.mp h).2]

/-- The closed type handed out is the one stored for the request from then on. -/
theorem get?_close (hr : r.memo.Sound) {template : Template} {arguments : List TypeId}
    {t : TypeId} (h : (close b r u template arguments).1 = .ok t) :
    (close b r u template arguments).2.1.memo.get? (.closed template.type arguments) = some t := by
  rw [close_eq] at h ⊢
  exact hr.get?_resolve h

/-- Whatever is called, a memo stays sound and goes on storing what the memo `m` stores. -/
theorem kept_extends (b : Backend σ) (m : Memo) :
    Kept b fun r _ => r.memo.Sound ∧ m.Extends r.memo := by
  refine ⟨fun r u names options h => ?_, fun r u template arguments h => ?_, fun _ _ _ _ h => h,
    fun _ _ _ _ _ h => h, fun _ _ _ _ h => h⟩
  · rw [templateFor_eq]
    obtain ⟨hsound, hextends⟩ := h.1.resolve (templateSignature names options)
      (templateBuild b r.naming names options) (r.foundry, u)
    exact ⟨hsound, h.2.trans hextends⟩
  · rw [close_eq]
    obtain ⟨hsound, hextends⟩ := h.1.resolve (.closed template.type arguments)
      (closedBuild b template arguments) (r.foundry, u)
    exact ⟨hsound, h.2.trans hextends⟩

/-- A memo stores the types that an exchange handed out, for the request that was made. -/
def Exchange.StoredIn (e : Exchange) (m : Memo) : Prop :=
  match e with
  | ⟨.recordType fields options, .type (.ok t)⟩ =>
    ∃ template, m.get? (templateSignature fields.names options) = some template ∧
      m.get? (.closed template fields.values) = some t
  | ⟨.template names options, .template (.ok template)⟩ =>
    m.get? (templateSignature names options) = some template.type
  | ⟨.close template arguments, .type (.ok t)⟩ =>
    m.get? (.closed template.type arguments) = some t
  | _ => True

theorem Exchange.StoredIn.mono {e : Exchange} {m m' : Memo} (h : e.StoredIn m)
    (hm : m.Extends m') : e.StoredIn m' := by
  unfold StoredIn at h ⊢
  split
  · obtain ⟨template, htemplate, ht⟩ := h
    exact ⟨template, hm _ _ htemplate, hm _ _ ht⟩
  · exact hm _ _ h
  · exact hm _ _ h
  · trivial

/-- A call for a record type leaves behind both the template and the closed type. -/
theorem storedIn_recordType (hr : r.memo.Sound) (fields : Fields TypeId) (options : Options) :
    Exchange.StoredIn
      ⟨.recordType fields options, .type (recordType b r u fields options).1⟩
      (recordType b r u fields options).2.1.memo := by
  have htemplate : ∀ template, (templateFor b r u fields.names options).1 = .ok template →
      (templateFor b r u fields.names options).2.1.memo.get?
        (templateSignature fields.names options) = some template.type :=
    fun _ => get?_templateFor hr
  have hsound := (kept_extends b r.memo).templateFor r u fields.names options ⟨hr, .refl _⟩
  unfold recordType
  generalize templateFor b r u fields.names options = out at htemplate hsound ⊢
  rcases out with ⟨e | template, r', u'⟩
  · trivial
  · dsimp only at hsound ⊢
    rcases hclose : (close b r' u' template fields.values).1 with e | t
    · trivial
    · -- The template was stored first, and closing it does not remove it.
      have hextends := ((kept_extends b r'.memo).close r' u' template fields.values
        ⟨hsound.1, .refl _⟩).2
      exact ⟨template.type, hextends _ _ (htemplate template rfl), get?_close hsound.1 hclose⟩

/-- Every call leaves behind what it handed out. -/
theorem storedIn_perform (hr : r.memo.Sound) (c : Call) :
    Exchange.StoredIn ⟨c, (perform b r w c).1⟩ (perform b r w c).2.1.memo := by
  cases c with
  | recordType fields options => exact storedIn_recordType hr fields options
  | template names options =>
    show Exchange.StoredIn ⟨_, .template (Registry.template b r w.types names options).1⟩
      (Registry.template b r w.types names options).2.1.memo
    unfold Registry.template
    rcases checkNames names with e | _
    · trivial
    · dsimp only
      rcases h : (templateFor b r w.types names options).1 with e | template
      · trivial
      · exact get?_templateFor hr h
  | close template arguments =>
    show Exchange.StoredIn ⟨_, .type (Registry.close b r w.types template arguments).1⟩
      (Registry.close b r w.types template arguments).2.1.memo
    rcases h : (Registry.close b r w.types template arguments).1 with e | t
    · trivial
    · exact get?_close hr h
  | object values type => trivial
  | rename naming => trivial
  | castTemplate names isMutable parent => trivial
  | castClosed template arguments => trivial

/-- A registry remembers every answer. -/
theorem Run.remembers {between : World → World → Prop} {history : List Exchange}
    (h : Run between b history r w) :
    r.memo.Sound ∧ ∀ e ∈ history, e.StoredIn r.memo := by
  induction h with
  | start naming backend => exact ⟨Memo.sound_empty, by simp⟩
  | @call history r w c _ ih =>
    obtain ⟨hsound, hextends⟩ := (kept_extends b r.memo).perform (w := w) ⟨ih.1, .refl _⟩ c
    refine ⟨hsound, fun e he => ?_⟩
    -- What was handed out earlier was stored before this call, and stays stored.
    rcases List.mem_cons.mp he with rfl | he
    · exact storedIn_perform ih.1 c
    · exact (ih.2 e he).mono hextends
  | elsewhere _ _ ih => exact ih

/-- A template that a registry made: it is stored for names, or was made past the memo. -/
inductive IsOwn (history : List Exchange) (r : Registry σ) (template : TypeId) : Prop
  | stored {names : List String} {isMutable : Bool} {parent : Option TypeId}
      (h : r.memo.get? (.template names isMutable parent) = some template)
  | past {names : List String} {isMutable : Bool} {parent : Option TypeId}
      (he : ⟨.castTemplate names isMutable parent, .type (.ok template)⟩ ∈ history)

end

end RecordTypes.Registry
