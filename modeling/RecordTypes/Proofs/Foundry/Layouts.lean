import RecordTypes.Proofs.Foundry.Direct

/-!
# What holds of all layouts

`EveryLayout P` says that every record type of a universe is laid out as `P` asks.  If what `P` says
of a layout lasts when types are declared, it goes on to hold of all layouts for as long as it holds
of each new one.  Over the direct backend that is a matter of two requests only: a template is laid
out over its parent, and a closed type takes over the layout of its template
(`Foundry.everyLayout_castTemplate`, `Foundry.everyLayout_castClosed`).
-/

namespace RecordTypes

namespace Universe

variable {P : Universe → Layout → Prop} {u : Universe}

/-- Every record type is laid out as `P` asks. -/
def EveryLayout (P : Universe → Layout → Prop) (u : Universe) : Prop :=
  ∀ t l, u.layout? t = some l → P u l

/-- What is said of a layout goes on to hold when types are declared. -/
def Lasts (P : Universe → Layout → Prop) : Prop := ∀ u v l, Grows u v → P u l → P v l

theorem everyLayout_empty : EveryLayout P {} := by
  intro t l hl
  rw [layout?_eq_some_iff] at hl
  cases t with
  | builtin q => exact absurd (Option.some.inj hl) nofun
  | declared n => exact absurd hl nofun

theorem EveryLayout.add (h : EveryLayout P u) (hP : Lasts P) {d : Descriptor}
    (hallows : u.Allows d) (hd : ∀ l, d.kind = .record l → P u l) : EveryLayout P (u.add d) := by
  have hgrows : Grows u (u.add d) := Grows.refl.add d hallows
  intro t l hl
  apply hP _ _ _ hgrows
  rw [layout?_eq_some_iff, kind?_add] at hl
  split at hl
  · exact hd l (Option.some.inj hl)
  · exact h t l (layout?_eq_some_iff.mpr hl)

theorem EveryLayout.addAll (h : EveryLayout P u) (hP : Lasts P) {ds : List Descriptor}
    (hds : ∀ d ∈ ds, ∃ i, d.kind = .parameter i) : EveryLayout P (u.addAll ds) := by
  induction ds generalizing u with
  | nil => exact h
  | cons d ds ih =>
    obtain ⟨hparameter, hrest⟩ := List.forall_mem_cons.mp hds
    have hadd : EveryLayout P (u.add d) := by
      apply h.add hP (allows_parameter hparameter)
      intro l hl
      obtain ⟨i, hi⟩ := hparameter
      rw [hi] at hl
      exact absurd hl nofun
    exact ih hadd hrest

/-- A record type with a layout as `P` asks may be cast. -/
theorem EveryLayout.cast_record (h : EveryLayout P u) (hP : Lasts P) (name : String) {l : Layout}
    {auxiliary : List Descriptor} (hauxiliary : ∀ d ∈ auxiliary, ∃ i, d.kind = .parameter i)
    (hparent : ∀ p ∈ l.parent, u.Knows p) (hl : P u l) :
    EveryLayout P (u.cast ⟨auxiliary, .ok ⟨name, .record l⟩⟩).2 := by
  have hparameters : Grows u (u.addAll auxiliary) := grows_addParameters hauxiliary
  show EveryLayout P ((u.addAll auxiliary).add ⟨name, .record l⟩)
  apply (h.addAll hP hauxiliary).add hP
  · exact fun p hp => hparameters.knows (hparent p hp)
  · intro l' hl'
    obtain rfl := Kind.record.inj hl'
    exact hP _ _ _ hparameters hl

end Universe

namespace Foundry

open Universe (EveryLayout Lasts WellFormed)

variable {P : Universe → Layout → Prop} {u : Universe}

/-- A template is laid out over a class that may be derived from. -/
theorem everyLayout_castTemplate (hu : u.WellFormed) (h : EveryLayout P u) (hP : Lasts P)
    (n : Naming) (names : List String) (isMutable : Bool) (parent : Option TypeId)
    (f : Foundry Unit)
    (hnew : ∀ l : Layout, l.shape.isTemplate = true → (∀ p ∈ l.parent, u.CanDerive p) → P u l) :
    EveryLayout P (castTemplate directBackend n names isMutable parent f u).2.2 := by
  unfold castTemplate
  dsimp only
  rcases hcheck : u.checkDefinition (properParent parent) names with e | _
  · exact h
  · obtain ⟨hparent, -⟩ := (hu.checkDefinition_eq_ok_iff parent names).mp hcheck
    show EveryLayout P (u.cast (Direct.define u _)).2
    rw [Direct.define_eq u (List.length_map _)]
    refine h.cast_record hP _ (fun d hd => ?_) (fun p hp => ?_) (hnew _ rfl hparent)
    · obtain ⟨i, hi, rfl⟩ := List.mem_mapIdx.mp hd
      exact ⟨i, rfl⟩
    · exact Universe.knows_of_class?_isSome (hparent p hp).class?_isSome

/-- A closed type takes over the layout of its template, with the properties typed anew. -/
theorem everyLayout_castClosed (hu : u.WellFormed) (h : EveryLayout P u) (hP : Lasts P)
    (template : TypeId) (arguments : List TypeId) (f : Foundry Unit)
    (hnew : ∀ l, u.layout? template = some l → u.checkClosing template arguments = .ok () →
      P u (.arrange (Direct.closedProperties l arguments) l.parent (u.membersOver l.parent)
        l.isMutable (.closed template arguments))) :
    EveryLayout P (castClosed directBackend template arguments f u).2.2 := by
  unfold castClosed
  rcases hcheck : u.checkClosing template arguments with e | _
  · exact h
  · show EveryLayout P (u.cast (Direct.close u template arguments)).2
    rcases hl : u.layout? template with _ | l
    · rw [Direct.close, hl]
      exact h
    · by_cases harity : l.arity = arguments.length
      · rw [Direct.close_eq u hl harity]
        exact h.cast_record hP _ (fun _ hd => absurd hd List.not_mem_nil)
          (fun p hp => (hu.parent template l p hl hp).1) (hnew l hl hcheck)
      · rw [Direct.close, hl]
        dsimp only
        rw [if_neg harity]
        exact h

end Foundry

end RecordTypes
