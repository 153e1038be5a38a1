import RecordTypes.Proofs.Naming.Unnamed
import RecordTypes.Proofs.Registry.Run

/-!
# Calls under two namings

Two registries are alike if they have the same memo and the same index, whatever they name types by.
A call is answered in the same way by both, but for names, and leaves them alike
(`Registry.Alike.perform`).
-/

namespace RecordTypes

variable {u u' : Universe} {w w' : World}

/-- A build may be replaced by one that gives the same result but for names. -/
theorem Memo.resolve_alike {σ : Type} {R : σ → σ → Prop} (m : Memo) (s : Signature)
    {build build' : Memo → σ → Except Fault TypeId × σ} {state state' : σ} (hR : R state state')
    (hbuild : ∀ m, unnamed (build' m state').1 = unnamed (build m state).1 ∧
      R (build m state).2 (build' m state').2) :
    let out := m.resolve s build state
    let out' := m.resolve s build' state'
    unnamed out'.1 = unnamed out.1 ∧ out'.2.1 = out.2.1 ∧ R out.2.2 out'.2.2 := by
  unfold Memo.resolve
  rcases m.peek s with e | _ | t
  · exact ⟨rfl, rfl, hR⟩
  · dsimp only
    obtain ⟨hresult, hstate⟩ := hbuild (m.mark s)
    rcases hout : build (m.mark s) state with ⟨result, after⟩
    rcases hout' : build' (m.mark s) state' with ⟨result', after'⟩
    rw [hout, hout'] at hresult hstate
    rcases cases_of_unnamed_eq hresult with ⟨t, rfl, rfl⟩ | ⟨e, e', rfl, rfl, he⟩
    · exact ⟨rfl, rfl, hstate⟩
    · exact ⟨unnamed_error he, rfl, hstate⟩
  · exact ⟨rfl, rfl, hR⟩

theorem Universe.Alike.asTemplate (h : Alike u u') (t : TypeId) :
    unnamed (u'.asTemplate t) = unnamed (u.asTemplate t) :=
  unnamed_bind (h.checkTemplate t) fun _ => rfl

/-! ### The foundry -/

namespace Foundry

/-- Two foundries have the same state, with universes that are alike. -/
def Alike (s s' : Foundry Unit × Universe) : Prop := s'.1 = s.1 ∧ s.2.Alike s'.2

variable {f f' : Foundry Unit}

theorem castTemplate_alike (hf : f' = f) (h : u.Alike u') (n n' : Naming) (names : List String)
    (isMutable : Bool) (parent : Option TypeId) :
    let out := f.castTemplate directBackend n names isMutable parent u
    let out' := f'.castTemplate directBackend n' names isMutable parent u'
    unnamed out'.1 = unnamed out.1 ∧ Alike out.2 out'.2 := by
  subst hf
  unfold castTemplate
  dsimp only
  rcases cases_of_unnamed_eq (h.checkDefinition (properParent parent) names) with
    ⟨_, hcheck, hcheck'⟩ | ⟨e, e', hcheck, hcheck', he⟩
  · rw [hcheck, hcheck']
    obtain ⟨hresult, htypes⟩ :=
      h.cast (h.define n n' f'.nextIndex names isMutable (properParent parent))
    exact ⟨hresult, rfl, htypes⟩
  · rw [hcheck, hcheck']
    exact ⟨unnamed_error he, rfl, h⟩

theorem castClosed_alike (hf : f' = f) (h : u.Alike u') (template : TypeId)
    (arguments : List TypeId) :
    let out := f.castClosed directBackend template arguments u
    let out' := f'.castClosed directBackend template arguments u'
    unnamed out'.1 = unnamed out.1 ∧ Alike out.2 out'.2 := by
  subst hf
  unfold castClosed
  dsimp only
  rcases cases_of_unnamed_eq (h.checkClosing template arguments) with
    ⟨_, hcheck, hcheck'⟩ | ⟨e, e', hcheck, hcheck', he⟩
  · rw [hcheck, hcheck']
    obtain ⟨hresult, htypes⟩ := h.cast (h.close template arguments)
    exact ⟨hresult, rfl, htypes⟩
  · rw [hcheck, hcheck']
    exact ⟨unnamed_error he, rfl, h⟩

end Foundry

/-! ### The registry -/

namespace Registry

/-- Two registries have the same memo and the same index, and may name types differently. -/
structure Alike (r r' : Registry Unit) : Prop where
  memo : r'.memo = r.memo
  foundry : r'.foundry = r.foundry

/-- What two calls come to is the same but for names, and so are the states they leave. -/
structure Agree {α : Type} (out out' : Except Fault α × Registry Unit × Universe) : Prop where
  result : unnamed out'.1 = unnamed out.1
  registry : Alike out.2.1 out'.2.1
  types : out.2.2.Alike out'.2.2

namespace Alike

variable {r r' : Registry Unit} (hr : Alike r r')
include hr

theorem templateFor (hu : u.Alike u') (names : List String) (options : Options) :
    Agree (templateFor directBackend r u names options)
      (templateFor directBackend r' u' names options) := by
  have hbuild : ∀ m : Memo,
      unnamed (templateBuild directBackend r'.naming names options m (r'.foundry, u')).1 =
        unnamed (templateBuild directBackend r.naming names options m (r.foundry, u)).1 ∧
      Foundry.Alike (templateBuild directBackend r.naming names options m (r.foundry, u)).2
        (templateBuild directBackend r'.naming names options m (r'.foundry, u')).2 := by
    intro _
    exact Foundry.castTemplate_alike hr.foundry hu r.naming r'.naming names options.isMutable
      (properParent options.parent)
  obtain ⟨hresult, hmemo, hfoundry, htypes⟩ := r.memo.resolve_alike
    (templateSignature names options) (R := Foundry.Alike) ⟨hr.foundry, hu⟩ hbuild
  rw [templateFor_eq, templateFor_eq, hr.memo]
  exact ⟨unnamed_bind hresult htypes.asTemplate, ⟨hmemo, hfoundry⟩, htypes⟩

theorem close (hu : u.Alike u') (template : Template) (arguments : List TypeId) :
    Agree (close directBackend r u template arguments)
      (close directBackend r' u' template arguments) := by
  have hbuild : ∀ m : Memo,
      unnamed (closedBuild directBackend template arguments m (r'.foundry, u')).1 =
        unnamed (closedBuild directBackend template arguments m (r.foundry, u)).1 ∧
      Foundry.Alike (closedBuild directBackend template arguments m (r.foundry, u)).2
        (closedBuild directBackend template arguments m (r'.foundry, u')).2 := by
    intro _
    exact Foundry.castClosed_alike hr.foundry hu template.type arguments
  obtain ⟨hresult, hmemo, hfoundry, htypes⟩ := r.memo.resolve_alike
    (.closed template.type arguments) (R := Foundry.Alike) ⟨hr.foundry, hu⟩ hbuild
  rw [close_eq, close_eq, hr.memo]
  exact ⟨hresult, ⟨hmemo, hfoundry⟩, htypes⟩

theorem template (hu : u.Alike u') (names : List String) (options : Options) :
    Agree (template directBackend r u names options)
      (template directBackend r' u' names options) := by
  unfold Registry.template
  rcases checkNames names with e | _
  · exact ⟨rfl, hr, hu⟩
  · exact hr.templateFor hu names options

theorem recordType (hu : u.Alike u') (fields : Fields TypeId) (options : Options) :
    Agree (recordType directBackend r u fields options)
      (recordType directBackend r' u' fields options) := by
  obtain ⟨hresult, hregistry, htypes⟩ := hr.templateFor hu fields.names options
  unfold Registry.recordType
  rcases hout : Registry.templateFor directBackend r u fields.names options with
    ⟨result, r₁, u₁⟩
  rcases hout' : Registry.templateFor directBackend r' u' fields.names options with
    ⟨result', r₁', u₁'⟩
  rw [hout, hout'] at hresult hregistry htypes
  rcases cases_of_unnamed_eq hresult with ⟨t, rfl, rfl⟩ | ⟨e, e', rfl, rfl, he⟩
  · exact hregistry.close htypes t fields.values
  · exact ⟨unnamed_error he, hregistry, htypes⟩

theorem make (hw : w.Alike w') (values : Fields Value) :
    let out := make directBackend r w values
    let out' := make directBackend r' w' values
    unnamed out'.1 = unnamed out.1 ∧ Alike out.2.1 out'.2.1 ∧ out.2.2.Alike out'.2.2 := by
  obtain ⟨hresult, hregistry, htypes⟩ :=
    hr.recordType hw.types (values.map (slotType w.heap)) {}
  unfold Registry.make
  rw [hw.heap]
  rcases hout : Registry.recordType directBackend r w.types (values.map (slotType w.heap)) {} with
    ⟨result, r₁, u₁⟩
  rcases hout' : Registry.recordType directBackend r' w'.types (values.map (slotType w.heap)) {}
    with ⟨result', r₁', u₁'⟩
  rw [hout, hout'] at hresult hregistry htypes
  have hworld : World.Alike ⟨u₁, w.heap⟩ ⟨u₁', w.heap⟩ := ⟨htypes, rfl⟩
  rcases cases_of_unnamed_eq hresult with ⟨t, rfl, rfl⟩ | ⟨e, e', rfl, rfl, he⟩
  · dsimp only
    -- The object is made in worlds that are alike, as they were before the call for its type.
    obtain ⟨hmade, hheap⟩ := hworld.create t values.values
    exact ⟨hmade, hregistry, htypes, hheap⟩
  · exact ⟨unnamed_error he, hregistry, hworld⟩

theorem object (hw : w.Alike w') (values : Fields Value) (type : Option TypeId) :
    let out := object directBackend r w values type
    let out' := object directBackend r' w' values type
    unnamed out'.1 = unnamed out.1 ∧ Alike out.2.1 out'.2.1 ∧ out.2.2.Alike out'.2.2 := by
  cases type with
  | none => exact hr.make hw values
  | some t =>
    unfold Registry.object
    dsimp only
    obtain ⟨hmade, hheap⟩ := hw.createNamed t values
    exact ⟨hmade, hr, hw.types, hheap⟩

end Alike

/-! ### All calls -/

/-- A call without the naming that it asks for. -/
def Call.unnamed : Call → Call
  | .rename _ => .rename .standard
  | c => c

/-- An answer, where a fault goes without the names of types. -/
def Answer.unnamed : Answer → Answer
  | .type result => .type (RecordTypes.unnamed result)
  | .template result => .template (RecordTypes.unnamed result)
  | .object result => .object (RecordTypes.unnamed result)
  | .done => .done

theorem Call.cases_of_unnamed_eq {c c' : Call} (h : c'.unnamed = c.unnamed) :
    c' = c ∨ ∃ n n', c = .rename n ∧ c' = .rename n' := by
  cases c with
  | rename n =>
    cases c' with
    | rename n' => exact .inr ⟨n, n', rfl, rfl⟩
    | _ => exact absurd h nofun
  | _ =>
    cases c' with
    | rename n' => exact absurd h nofun
    | _ => exact .inl h

/-- Whatever the naming, a call has the same answer but for names. -/
theorem Alike.perform {r r' : Registry Unit} (hr : Alike r r') (hw : w.Alike w') {c c' : Call}
    (hc : c'.unnamed = c.unnamed) :
    let out := perform directBackend r w c
    let out' := perform directBackend r' w' c'
    out'.1.unnamed = out.1.unnamed ∧ Alike out.2.1 out'.2.1 ∧ out.2.2.Alike out'.2.2 := by
  obtain rfl | ⟨n, n', rfl, rfl⟩ := Call.cases_of_unnamed_eq hc
  · cases c' with
    | recordType fields options =>
      obtain ⟨hresult, hregistry, htypes⟩ := hr.recordType hw.types fields options
      exact ⟨congrArg Answer.type hresult, hregistry, htypes, hw.heap⟩
    | template names options =>
      obtain ⟨hresult, hregistry, htypes⟩ := hr.template hw.types names options
      exact ⟨congrArg Answer.template hresult, hregistry, htypes, hw.heap⟩
    | close template arguments =>
      obtain ⟨hresult, hregistry, htypes⟩ := hr.close hw.types template arguments
      exact ⟨congrArg Answer.type hresult, hregistry, htypes, hw.heap⟩
    | object values type =>
      obtain ⟨hresult, hregistry, hworld⟩ := hr.object hw values type
      exact ⟨congrArg Answer.object hresult, hregistry, hworld⟩
    | rename n => exact ⟨rfl, ⟨hr.memo, hr.foundry⟩, hw⟩
    | castTemplate names isMutable parent =>
      obtain ⟨hresult, hfoundry, htypes⟩ := Foundry.castTemplate_alike hr.foundry hw.types
        r.naming r'.naming names isMutable parent
      exact ⟨congrArg Answer.type hresult, ⟨hr.memo, hfoundry⟩, htypes, hw.heap⟩
    | castClosed template arguments =>
      obtain ⟨hresult, hfoundry, htypes⟩ := Foundry.castClosed_alike hr.foundry hw.types template
        arguments
      exact ⟨congrArg Answer.type hresult, ⟨hr.memo, hfoundry⟩, htypes, hw.heap⟩
  · exact ⟨rfl, ⟨hr.memo, hr.foundry⟩, hw⟩

end Registry

end RecordTypes
