import RecordTypes.Backend.Scripted
import RecordTypes.Proofs.Registry.Run
import Mathlib.Data.List.Basic

/-!
# What an index counts

`Backend.recorded` is a backend that works as another one does and keeps a record besides: what
requests for templates reached it, and what it answered.  A `Recording` is a run with it that begins
without any record.  A registry does not notice the difference (`perform_forget`), so that the runs
with a backend are the recordings with their records forgotten (`NamedRun.exists_recording`,
`Recording.namedRun_forget`).

The record tells what the index of a foundry counts: the requests that passed the checks, answered
or not.  It is the number of templates that were made only as long as no request failed at the
backend (`Run.nextIndex_eq`).
-/

namespace RecordTypes

variable {σ : Type}

/-! ### Recorded backends -/

/-- A request for a template that reached a backend, and the answer. -/
structure Asked where
  request : TemplateRequest
  casting : Casting

/-- Whether a template was made. -/
def Asked.isMade (a : Asked) : Bool := a.casting.outcome.isOk

/-- A backend that works as another one does and keeps a record, the newest request first. -/
def Backend.recorded (b : Backend σ) : Backend (σ × List Asked) where
  define s u request :=
    let (casting, state) := b.define s.1 u request
    (casting, state, ⟨request, casting⟩ :: s.2)
  close s u template arguments :=
    let (casting, state) := b.close s.1 u template arguments
    (casting, state, s.2)

namespace Foundry

variable (b : Backend σ) (n : Naming) (names : List String) (isMutable : Bool)
  (parent : Option TypeId) (template : TypeId) (arguments : List TypeId)
  (f : Foundry (σ × List Asked)) (u : Universe)

/-- The requests that reached the backend of a foundry, the newest first. -/
def record (f : Foundry (σ × List Asked)) : List Asked := f.backend.2

/-- A foundry without the record of its backend. -/
def forget (f : Foundry (σ × List Asked)) : Foundry σ := ⟨f.nextIndex, f.backend.1⟩

theorem castTemplate_forget :
    f.forget.castTemplate b n names isMutable parent u =
      let out := f.castTemplate b.recorded n names isMutable parent u
      (out.1, out.2.1.forget, out.2.2) := by
  unfold castTemplate
  dsimp only
  rcases u.checkDefinition (properParent parent) names with e | _ <;> rfl

theorem castClosed_forget :
    f.forget.castClosed b template arguments u =
      let out := f.castClosed b.recorded template arguments u
      (out.1, out.2.1.forget, out.2.2) := by
  unfold castClosed
  rcases u.checkClosing template arguments with e | _ <;> rfl

end Foundry

/-! ### Forgetting the record -/

/-- What is built with may be seen through any function, if the build does not tell the
difference. -/
theorem Memo.resolve_map {τ : Type} (g : σ → τ) (build : Memo → σ → Except Fault TypeId × σ)
    {build' : Memo → τ → Except Fault TypeId × τ}
    (h : ∀ m s, build' m (g s) = ((build m s).1, g (build m s).2)) (m : Memo) (s : Signature)
    (state : σ) :
    m.resolve s build' (g state) =
      let out := m.resolve s build state
      (out.1, out.2.1, g out.2.2) := by
  unfold Memo.resolve
  rcases m.peek s with e | _ | t
  · rfl
  · dsimp only
    rw [h]
    rcases build (m.mark s) state with ⟨e | t, state'⟩ <;> rfl
  · rfl

namespace Registry

variable (b : Backend σ) (r : Registry (σ × List Asked)) (u : Universe) (w : World)

/-- A registry without the record of its backend. -/
def forget (r : Registry (σ × List Asked)) : Registry σ where
  naming := r.naming
  memo := r.memo
  foundry := r.foundry.forget

theorem templateFor_forget (names : List String) (options : Options) :
    templateFor b r.forget u names options =
      let out := templateFor b.recorded r u names options
      (out.1, out.2.1.forget, out.2.2) := by
  rw [templateFor_eq, templateFor_eq]
  dsimp only
  rw [show (r.forget.foundry, u) = Prod.map Foundry.forget id (r.foundry, u) from rfl,
    Memo.resolve_map (Prod.map Foundry.forget id)
      (templateBuild b.recorded r.naming names options)
      fun _ s => Foundry.castTemplate_forget b r.naming names _ _ s.1 s.2]
  rfl

theorem close_forget (template : Template) (arguments : List TypeId) :
    close b r.forget u template arguments =
      let out := close b.recorded r u template arguments
      (out.1, out.2.1.forget, out.2.2) := by
  rw [close_eq, close_eq]
  dsimp only
  rw [show (r.forget.foundry, u) = Prod.map Foundry.forget id (r.foundry, u) from rfl,
    Memo.resolve_map (Prod.map Foundry.forget id)
      (closedBuild b.recorded template arguments)
      fun _ s => Foundry.castClosed_forget b _ arguments s.1 s.2]
  rfl

theorem recordType_forget (fields : Fields TypeId) (options : Options) :
    recordType b r.forget u fields options =
      let out := recordType b.recorded r u fields options
      (out.1, out.2.1.forget, out.2.2) := by
  unfold recordType
  rw [templateFor_forget]
  rcases templateFor b.recorded r u fields.names options with ⟨e | template, r', u'⟩
  · rfl
  · exact close_forget b r' u' template fields.values

theorem template_forget (names : List String) (options : Options) :
    template b r.forget u names options =
      let out := template b.recorded r u names options
      (out.1, out.2.1.forget, out.2.2) := by
  unfold template
  rcases checkNames names with e | _
  · rfl
  · exact templateFor_forget b r u names options

theorem object_forget (values : Fields Value) (type : Option TypeId) :
    object b r.forget w values type =
      let out := object b.recorded r w values type
      (out.1, out.2.1.forget, out.2.2) := by
  cases type with
  | none =>
    show make b r.forget w values = _
    unfold object make
    rw [recordType_forget]
    rcases recordType b.recorded r w.types (values.map (slotType w.heap)) {} with
      ⟨e | t, r', u'⟩ <;> rfl
  | some t => rfl

/-- A registry does not notice that its backend keeps a record. -/
theorem perform_forget (c : Call) :
    perform b r.forget w c =
      let out := perform b.recorded r w c
      (out.1, out.2.1.forget, out.2.2) := by
  cases c with
  | recordType fields options =>
    dsimp only [perform]
    rw [recordType_forget]
  | template names options =>
    dsimp only [perform]
    rw [template_forget]
  | close template arguments =>
    dsimp only [perform]
    rw [close_forget]
  | object values type =>
    dsimp only [perform]
    rw [object_forget]
  | rename naming => rfl
  | castTemplate names isMutable parent =>
    dsimp only [perform]
    rw [show r.forget.foundry = r.foundry.forget from rfl, Foundry.castTemplate_forget]
    rfl
  | castClosed template arguments =>
    dsimp only [perform]
    rw [show r.forget.foundry = r.foundry.forget from rfl, Foundry.castClosed_forget]
    rfl

/-! ### Recordings -/

/-- Calls made one after another with a backend that keeps a record, beginning with a new registry
and nothing on record, where types are named in allowed ways only. -/
inductive Recording (allowed : Naming → Prop) (between : World → World → Prop) (b : Backend σ) :
    List Exchange → Registry (σ × List Asked) → World → Prop
  | start {naming : Naming} (backend : σ) (hn : allowed naming) :
      Recording allowed between b [] (new naming (backend, [])) {}
  | call {history : List Exchange} {r : Registry (σ × List Asked)} {w : World} {c : Call}
      (h : Recording allowed between b history r w) (hc : c.IsAllowed allowed) :
      Recording allowed between b (⟨c, (perform b.recorded r w c).1⟩ :: history)
        (perform b.recorded r w c).2.1 (perform b.recorded r w c).2.2
  | elsewhere {history : List Exchange} {r : Registry (σ × List Asked)} {w w' : World}
      (h : Recording allowed between b history r w) (hw : between w w') :
      Recording allowed between b history r w'

section Recording

variable {allowed : Naming → Prop} {between : World → World → Prop} {b : Backend σ}
  {history : List Exchange} {r : Registry σ} {r' : Registry (σ × List Asked)} {w : World}

/-- Of every run a record could have been kept. -/
theorem NamedRun.exists_recording (h : NamedRun allowed between b history r w) :
    ∃ r', Recording allowed between b history r' w ∧ r'.forget = r := by
  induction h with
  | start backend hn => exact ⟨_, .start backend hn, rfl⟩
  | @call history r w c _ hc ih =>
    obtain ⟨r', hr', rfl⟩ := ih
    rw [perform_forget]
    exact ⟨_, hr'.call hc, rfl⟩
  | elsewhere _ hw ih =>
    obtain ⟨r', hr', hforget⟩ := ih
    exact ⟨r', hr'.elsewhere hw, hforget⟩

/-- Without its record, a recording is a run. -/
theorem Recording.namedRun_forget (h : Recording allowed between b history r' w) :
    NamedRun allowed between b history r'.forget w := by
  induction h with
  | start backend hn => exact .start backend hn
  | @call history r' w c _ hc ih =>
    have hcall := ih.call hc
    rw [perform_forget] at hcall
    exact hcall
  | elsewhere _ hw ih => exact ih.elsewhere hw

/-- What holds without any record and is kept by every call holds of every recording. -/
theorem Recording.kept {P : Registry (σ × List Asked) → Prop}
    (hP : KeptUnder allowed b.recorded fun r _ => P r)
    (hstart : ∀ naming backend, allowed naming → P (new naming (backend, [])))
    (h : Recording allowed between b history r' w) : P r' := by
  induction h with
  | start backend hn => exact hstart _ backend hn
  | @call history r' w c _ hc ih => exact hP.perform (w := w) ih c hc
  | elsewhere _ _ ih => exact ih

end Recording

/-! ### What the record tells -/

/-- The requests of a record are numbered in the order in which they came, and the answers are those
of a backend. -/
def Numbered (b : Backend σ) (record : List Asked) : Prop :=
  ∀ a earlier, a :: earlier <:+ record →
    (∃ (n : Naming) (names : List String) (isMutable : Bool) (parent : Option TypeId),
      a.request = n.request earlier.length names isMutable parent) ∧
    ∃ s u, a.casting = (b.define s u a.request).1

variable {b}

theorem Numbered.nil : Numbered b [] :=
  fun _ _ h => absurd (List.eq_nil_of_suffix_nil h) (List.cons_ne_nil _ _)

theorem Numbered.cons {record : List Asked} (h : Numbered b record) (n : Naming)
    (names : List String) (isMutable : Bool) (parent : Option TypeId) (s : σ) (u : Universe) :
    let request := n.request record.length names isMutable parent
    Numbered b (⟨request, (b.define s u request).1⟩ :: record) := by
  intro request a earlier hsuffix
  rcases List.suffix_cons_iff.mp hsuffix with heq | hsuffix
  · obtain ⟨rfl, rfl⟩ := List.cons.inj heq
    exact ⟨⟨n, names, isMutable, parent, rfl⟩, s, u, rfl⟩
  · exact h a earlier hsuffix

variable (b) in
/-- Whatever is called, the index is the number of requests that reached the backend, and numbers
them. -/
theorem kept_record :
    Kept b.recorded fun r _ =>
      r.foundry.nextIndex = r.foundry.record.length ∧ Numbered b r.foundry.record := by
  apply kept_of_foundry
    (Q := fun f _ => f.nextIndex = f.record.length ∧ Numbered b f.record)
  · rintro f n names isMutable parent u ⟨hindex, hnumbered⟩
    unfold Foundry.castTemplate
    dsimp only
    rcases u.checkDefinition (properParent parent) names with e | _
    · exact ⟨hindex, hnumbered⟩
    · -- The request takes the index before it is known whether the backend can answer it.
      rw [hindex]
      exact ⟨rfl, hnumbered.cons n names isMutable (properParent parent) f.backend.1 u⟩
  · rintro f template arguments u h
    unfold Foundry.castClosed
    rcases u.checkClosing template arguments with e | _ <;> exact h

variable {w} {between : World → World → Prop} {history : List Exchange} {r : Registry σ}

/-- Of every run there is a recording.  On record, the requests for templates that reached the
backend are numbered in the order in which they came, and the index of the foundry counts them.  The
templates that were made it counts only if the backend answered all of these requests. -/
theorem Run.nextIndex_eq (h : Run between b history r w) :
    (∃ r', Recording (fun _ => True) between b history r' w ∧ r'.forget = r) ∧
    ∀ r', Recording (fun _ => True) between b history r' w → r'.forget = r →
      Numbered b r'.foundry.record ∧
      r.foundry.nextIndex = r'.foundry.record.length ∧
      (r.foundry.nextIndex = r'.foundry.record.countP Asked.isMade ↔
        ∀ a ∈ r'.foundry.record, a.isMade = true) := by
  refine ⟨h.named.exists_recording, ?_⟩
  rintro r' hrecording rfl
  obtain ⟨hindex, hnumbered⟩ := hrecording.kept (kept_record b) fun _ _ _ => ⟨rfl, .nil⟩
  have hforget : r'.forget.foundry.nextIndex = r'.foundry.record.length := hindex
  refine ⟨hnumbered, hforget, ?_⟩
  rw [hforget, eq_comm]
  exact List.countP_eq_length

/-- A backend that is busy once: the index is 1 when no template was made yet, and the only template
that was made is called by the index 1. -/
theorem nextIndex_after_failure :
    let start : Registry (Script × List Asked) := new .standard ({ define := [.fail "busy"] }, [])
    let call := Call.template ["a"] {}
    let (answer, first, w) := perform scriptedBackend.recorded start {} call
    let (answer', second, w') := perform scriptedBackend.recorded first w call
    (answer = .template (.error (.backend "busy")) ∧
      first.foundry.record.countP Asked.isMade = 0 ∧ first.foundry.nextIndex = 1) ∧
    answer' = .template (.ok ⟨.declared 1⟩) ∧
    w'.types.name (.declared 1) = "<>f__LatticeUtilsAnonymousType1`1" ∧
    second.foundry.record.countP Asked.isMade = 1 ∧ second.foundry.nextIndex = 2 := by
  decide +kernel

/-- The same as a run, of which the record holds both requests. -/
theorem nextIndex_busy_once :
    let calls := [Call.template ["a"] {}, .template ["a"] {}]
    let (answers, r, w) := play scriptedBackend .standard { define := [.fail "busy"] } calls
    ∃ r', Recording (fun _ => True) (fun _ _ => False) scriptedBackend
        (calls.zipWith Exchange.mk answers) r' w ∧
      r'.forget = r ∧ Numbered scriptedBackend r'.foundry.record ∧
      r'.foundry.record.length = 2 ∧
      (2 = r'.foundry.record.countP Asked.isMade ↔
        ∀ a ∈ r'.foundry.record, a.isMade = true) := by
  intro calls
  have hrun := run_play (fun _ _ => False) scriptedBackend .standard
    { define := [.fail "busy"] } calls
  have hindex : (play scriptedBackend .standard { define := [.fail "busy"] }
      calls).2.1.foundry.nextIndex = 2 := by decide +kernel
  obtain ⟨⟨r', hrecording, hforget⟩, hrecorded⟩ := Run.nextIndex_eq hrun
  obtain ⟨hnumbered, hlength, hmade⟩ := hrecorded r' hrecording hforget
  rw [hindex] at hlength hmade
  exact ⟨r', hrecording, hforget, hnumbered, hlength.symm, hmade⟩

end Registry

end RecordTypes
