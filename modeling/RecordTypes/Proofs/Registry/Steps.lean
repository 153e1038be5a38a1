import RecordTypes.Proofs.Registry.Direct
import RecordTypes.Proofs.World.Steps

/-!
# Calls come down to steps

Over the direct backend nothing is ever asked of a universe but to declare type parameters and
record types over parents that it knows (`Direct.isPlain_define`, `Direct.isPlain_close`).  So a
call of a registry is a number of steps of the world: types are declared, and at most one instance
is made (`steps_perform`).  Whatever steps keep is kept by calls.
-/

namespace RecordTypes

open World (Steps)

/-! ### What the direct backend declares -/

/-- A casting declares type parameters, and then at most a record type over a parent that is
known. -/
def Casting.IsPlain (c : Casting) (u : Universe) : Prop :=
  (∀ d ∈ c.auxiliary, ∃ i, d.kind = .parameter i) ∧
  ∀ d, c.outcome = .ok d → ∃ l, d.kind = .record l ∧ ∀ p ∈ l.parent, u.Knows p

theorem Casting.isPlain_fail (reason : String) (u : Universe) : (fail reason).IsPlain u := by
  simp [IsPlain, fail]

theorem Casting.isPlain_record {u : Universe} {auxiliary : List Descriptor} (name : String)
    {l : Layout} (hauxiliary : ∀ d ∈ auxiliary, ∃ i, d.kind = .parameter i)
    (hparent : ∀ p ∈ l.parent, u.Knows p) :
    IsPlain ⟨auxiliary, .ok ⟨name, .record l⟩⟩ u := by
  refine ⟨hauxiliary, fun d hd => ?_⟩
  obtain rfl := Except.ok.inj hd
  exact ⟨l, rfl, hparent⟩

theorem Direct.isPlain_define {u : Universe} {request : TemplateRequest}
    (hparent : ∀ p ∈ request.parent, u.Knows p) : (define u request).IsPlain u := by
  unfold define
  dsimp only
  split
  · refine Casting.isPlain_record _ (fun d hd => ?_) hparent
    obtain ⟨i, hi, rfl⟩ := List.mem_mapIdx.mp hd
    exact ⟨i, rfl⟩
  · exact Casting.isPlain_fail _ u

theorem Direct.isPlain_close {u : Universe} (hu : u.WellFormed) (template : TypeId)
    (arguments : List TypeId) : (close u template arguments).IsPlain u := by
  unfold close
  rcases hl : u.layout? template with _ | l
  · exact Casting.isPlain_fail _ u
  · dsimp only
    split
    · have hparent : ∀ p ∈ l.parent, u.Knows p := fun p hp => (hu.parent template l p hl hp).1
      exact Casting.isPlain_record _ (by simp) hparent
    · exact Casting.isPlain_fail _ u

namespace World

variable {w : World}

theorem steps_addAll {ds : List Descriptor} (h : ∀ d ∈ ds, ∃ i, d.kind = .parameter i) :
    Steps w { w with types := w.types.addAll ds } := by
  induction ds generalizing w with
  | nil => exact .refl
  | cons d ds ih =>
    obtain ⟨⟨i, hd⟩, hds⟩ := List.forall_mem_cons.mp h
    obtain ⟨name, kind⟩ := d
    obtain rfl : kind = .parameter i := hd
    exact .head (.declareParameter name i) (ih hds)

/-- What the direct backend asks for is declared step by step. -/
theorem steps_cast {c : Casting} (hc : c.IsPlain w.types) :
    Steps w { w with types := (w.types.cast c).2 } := by
  obtain ⟨hauxiliary, houtcome⟩ := hc
  have hsteps : Steps w { w with types := w.types.addAll c.auxiliary } := steps_addAll hauxiliary
  unfold Universe.cast
  rcases hout : c.outcome with reason | ⟨name, kind⟩
  · exact hsteps
  · obtain ⟨l, rfl, hparent⟩ := houtcome _ hout
    refine hsteps.tail (.declareRecord name fun p hp => ?_)
    exact (Universe.extends_addAll w.types c.auxiliary).knows (hparent p hp)

end World

namespace Foundry

variable {w : World}

theorem steps_castTemplate (hu : w.types.WellFormed) (f : Foundry Unit) (n : Naming)
    (names : List String) (isMutable : Bool) (parent : Option TypeId) :
    Steps w { w with
      types := (f.castTemplate directBackend n names isMutable parent w.types).2.2 } := by
  unfold castTemplate
  dsimp only
  rcases hcheck : w.types.checkDefinition (properParent parent) names with e | _
  · exact .refl
  · obtain ⟨hparent, -⟩ := (hu.checkDefinition_eq_ok_iff parent names).mp hcheck
    exact World.steps_cast (Direct.isPlain_define fun p hp =>
      Universe.knows_of_class?_isSome (hparent p hp).class?_isSome)

theorem steps_castClosed (hu : w.types.WellFormed) (f : Foundry Unit) (template : TypeId)
    (arguments : List TypeId) :
    Steps w { w with types := (f.castClosed directBackend template arguments w.types).2.2 } := by
  unfold castClosed
  rcases w.types.checkClosing template arguments with e | _
  · exact .refl
  · exact World.steps_cast (Direct.isPlain_close hu template arguments)

end Foundry

namespace Registry

variable {w : World} {c : Call}

/-! ### Calls -/

theorem perform_object (r : Registry Unit) (w : World) (values : Fields Value)
    (type : Option TypeId) :
    perform directBackend r w (.object values type) =
      let out := object directBackend r w values type
      (.object out.1, out.2.1, out.2.2) := rfl

/-- The values that a call hands over exist. -/
def Call.ValuesExist (h : Heap) : Call → Prop
  | .object values _ => ∀ v ∈ values.values, h.Holds v
  | _ => True

/-- Whatever is called, types are declared step by step. -/
theorem kept_steps (w : World) :
    Kept directBackend fun _ u => u.WellFormed ∧ Steps w { w with types := u } := by
  apply kept_of_casts
  · rintro f n names isMutable parent u ⟨hu, hsteps⟩
    have hgrows := Foundry.grows_castTemplate hu n names isMutable parent f
    exact ⟨hgrows.wellFormed hu, hsteps.trans
      (Foundry.steps_castTemplate (w := { w with types := u }) hu f n names isMutable parent)⟩
  · rintro f template arguments u ⟨hu, hsteps⟩
    have hgrows := Foundry.grows_castClosed hu template arguments f
    exact ⟨hgrows.wellFormed hu, hsteps.trans
      (Foundry.steps_castClosed (w := { w with types := u }) hu f template arguments)⟩

/-- A call comes down to steps, if it hands over values that exist. -/
theorem steps_perform (hu : w.types.WellFormed) (r : Registry Unit)
    (hheld : c.ValuesExist w.heap) : Steps w (perform directBackend r w c).2.2 := by
  have htypes := ((kept_steps w).perform (r := r) ⟨hu, .refl⟩ c).2
  cases c with
  | object values type =>
    cases type with
    | none =>
      have hrecord := ((kept_steps w).recordType (r := r) ⟨hu, .refl⟩
        (values.map (slotType w.heap)) {}).2
      show Steps w (make directBackend r w values).2.2
      unfold make
      generalize recordType directBackend r w.types (values.map (slotType w.heap)) {} = out
        at hrecord ⊢
      rcases out with ⟨e | t, r', u'⟩
      · exact hrecord
      · exact hrecord.tail (.create t hheld)
    | some t =>
      show Steps w { w with heap := (w.createNamed t values).2 }
      rcases w.createNamed_cases t values with ⟨e, hout⟩ | ⟨arguments, hout, hmem⟩
      · rw [hout]
      · rw [hout]
        exact .single (.create t fun v hv => hheld v (hmem v hv))
  | recordType fields options => exact htypes
  | template names options => exact htypes
  | close template arguments => exact htypes
  | rename naming => exact htypes
  | castTemplate names isMutable parent => exact htypes
  | castClosed template arguments => exact htypes

end Registry

end RecordTypes
