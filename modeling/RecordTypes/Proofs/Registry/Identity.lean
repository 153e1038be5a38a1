import RecordTypes.Proofs.Registry.Direct

/-!
# Identity of record types

Two closed record types that a registry handed out in the course of one run are the same type
exactly if the same was requested, whatever else was called before, between and after, and whether
the types were asked for directly or by closing a template (`Run.eq_iff_request_eq`).

The memo connects the two ends of the run: it stores both types under what was requested
(`Run.stored`), and what it stores is what its signature says (`Run.faithful`).  So equal requests
have one type, because a memo stores one type per signature, and a type tells what was requested,
because it shows the names, the mutability, the parent and the types of its fields.
-/

namespace RecordTypes.Registry

/-- All that matters of a request for a closed record type. -/
structure Request where
  /-- The names of the fields, in order. -/
  names : List String
  /-- The types of the fields, in order. -/
  types : List TypeId
  isMutable : Bool
  /-- The parent; none also if `Object` was asked for. -/
  parent : Option TypeId
  deriving DecidableEq

/-- The request that names, types and options stand for. -/
def Request.of (names : List String) (types : List TypeId) (options : Options) : Request where
  names := names
  types := types
  isMutable := options.isMutable
  parent := properParent options.parent

/-- A closed type was handed out for a request: by a call for a record type, or by a call that
closed a template over the types, where the template was handed out for the names. -/
inductive Obtained (history : List Exchange) : Request → TypeId → Prop
  | recordType {fields : Fields TypeId} {options : Options} {t : TypeId}
      (h : ⟨.recordType fields options, .type (.ok t)⟩ ∈ history) :
      Obtained history (.of fields.names fields.values options) t
  | close {names : List String} {options : Options} {template : Template}
      {arguments : List TypeId} {t : TypeId}
      (htemplate : ⟨.template names options, .template (.ok template)⟩ ∈ history)
      (h : ⟨.close template arguments, .type (.ok t)⟩ ∈ history) :
      Obtained history (.of names arguments options) t

variable {history : List Exchange} {r : Registry Unit} {w : World} {q q' : Request}
  {t t' : TypeId}

/-- What was handed out for a request is stored for it. -/
theorem Run.stored {σ : Type} {between : World → World → Prop} {b : Backend σ} {r : Registry σ}
    (h : Run between b history r w) (ht : Obtained history q t) :
    ∃ template, r.memo.get? (.template q.names q.isMutable q.parent) = some template ∧
      r.memo.get? (.closed template q.types) = some t := by
  obtain ⟨-, hstored⟩ := h.remembers
  cases ht with
  | recordType ht => exact hstored _ ht
  | close htemplate ht => exact ⟨_, hstored _ htemplate, hstored _ ht⟩

/-- In one run, two closed types are the same exactly if the same was requested: the same names and
the same types in the same order, the same mutability and the same parent, where `Object` is no
parent.  They have one template exactly if the names, the mutability and the parent are the same. -/
theorem Run.eq_iff_request_eq (h : Run TypesGrow directBackend history r w)
    (ht : Obtained history q t) (ht' : Obtained history q' t') :
    (t = t' ↔ q = q') ∧
    (w.types.template? t).isSome ∧
    (w.types.template? t = w.types.template? t' ↔
      q.names = q'.names ∧ q.isMutable = q'.isMutable ∧ q.parent = q'.parent) := by
  have hr := h.faithful
  obtain ⟨T, hget, hgetClosed⟩ := h.stored ht
  obtain ⟨T', hget', hgetClosed'⟩ := h.stored ht'
  have hT := hr.template _ _ _ _ hget
  have hT' := hr.template _ _ _ _ hget'
  have hclosed := hr.closed _ _ _ hgetClosed
  have hclosed' := hr.closed _ _ _ hgetClosed'
  -- Names, mutability and parent determine the template, and the template determines them.
  have htemplate : T = T' ↔
      q.names = q'.names ∧ q.isMutable = q'.isMutable ∧ q.parent = q'.parent := by
    constructor
    · rintro rfl
      exact hT.unique hT'
    · rintro ⟨hnames, hmutable, hparent⟩
      rw [hnames, hmutable, hparent] at hget
      exact Option.some.inj (hget.symm.trans hget')
  refine ⟨?_, ?_, ?_⟩
  · constructor
    · -- One type has one description, down to the description of its template.
      rintro rfl
      obtain ⟨hTT', htypes⟩ := hclosed.unique hclosed'
      obtain ⟨hnames, hmutable, hparent⟩ := htemplate.mp hTT'
      cases q
      cases q'
      simp only [Request.mk.injEq]
      exact ⟨hnames, htypes, hmutable, hparent⟩
    · -- One signature has one type in the memo, and the template is part of the signature.
      rintro rfl
      obtain rfl := htemplate.mpr ⟨rfl, rfl, rfl⟩
      exact Option.some.inj (hgetClosed.symm.trans hgetClosed')
  · rw [hclosed.template?_eq]
    rfl
  · rw [hclosed.template?_eq, hclosed'.template?_eq, Option.some.injEq]
    exact htemplate

/-- A type over `Object`, and its template, found without a parent and closed over another type:
the types differ and have one template. -/
theorem Run.eq_iff_request_eq_of_two_types :
    let direct := Call.recordType ⟨[("a", .builtin .int32)], by decide⟩ { parent := some .object }
    let opened := Call.template ["a"] {}
    let closed := Call.close ⟨.declared 1⟩ [.builtin .string]
    let history : List Exchange :=
      [⟨closed, .type (.ok (.declared 3))⟩, ⟨opened, .template (.ok ⟨.declared 1⟩)⟩,
        ⟨direct, .type (.ok (.declared 2))⟩]
    let q : Request := ⟨["a"], [.builtin .int32], false, none⟩
    let q' : Request := ⟨["a"], [.builtin .string], false, none⟩
    ∃ r w, Run TypesGrow directBackend history r w ∧
      Obtained history q (.declared 2) ∧ Obtained history q' (.declared 3) ∧
      (TypeId.declared 2 = .declared 3 ↔ q = q') ∧
      w.types.template? (.declared 2) = w.types.template? (.declared 3) := by
  intro direct opened closed history q q'
  have hanswers : (play directBackend .standard () [closed, opened, direct]).1 =
      [.type (.ok (.declared 3)), .template (.ok ⟨.declared 1⟩), .type (.ok (.declared 2))] := by
    decide +kernel
  have h := run_play TypesGrow directBackend .standard () [closed, opened, direct]
  rw [hanswers] at h
  have hdirect : ⟨direct, .type (.ok (.declared 2))⟩ ∈ history := by simp [history]
  have hopened : ⟨opened, .template (.ok ⟨.declared 1⟩)⟩ ∈ history := by simp [history]
  have hclosed : ⟨closed, .type (.ok (.declared 3))⟩ ∈ history := by simp [history]
  have ht : Obtained history q (.declared 2) := Obtained.recordType hdirect
  have ht' : Obtained history q' (.declared 3) := Obtained.close hopened hclosed
  obtain ⟨htype, -, htemplate⟩ := Run.eq_iff_request_eq h ht ht'
  exact ⟨_, _, h, ht, ht', htype, htemplate.mpr ⟨rfl, rfl, rfl⟩⟩

end RecordTypes.Registry
