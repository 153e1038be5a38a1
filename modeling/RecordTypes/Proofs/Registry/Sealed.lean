import RecordTypes.Proofs.Foundry.Layouts
import RecordTypes.Proofs.Registry.Direct
import RecordTypes.Proofs.Universe.Ancestors

/-!
# Sealed classes

A sealed class is not meant to be derived from, and a request for a record type over one is refused
(`Universe.checkParent`).  Declaring a class over it is not: only that the base is a class is looked
at (`World.checkBase`).  So a sealed class is never the parent of a record type, but it can be an
ancestor of anything, and is one exactly by way of a class that was declared over it
(`Run.sealed_ancestor_iff`).
-/

namespace RecordTypes

namespace Universe

/-- Whether a class was declared as sealed. -/
def isSealed (u : Universe) (t : TypeId) : Bool := (u.class? t).any (·.isSealed)

/-- Every record type with a parent derives from a class that it may derive from. -/
def DerivesProperly (u : Universe) : Prop :=
  ∀ t l p, u.layout? t = some l → l.parent = some p → u.CanDerive p

variable {u : Universe}

theorem CanDerive.isSealed {p : TypeId} (h : u.CanDerive p) : u.isSealed p = false := by
  obtain ⟨c, hc, hsealed, -⟩ := h
  rw [Universe.isSealed, hc]
  exact hsealed

/-- To derive properly is a matter of each layout. -/
theorem derivesProperly_iff :
    u.DerivesProperly ↔ EveryLayout (fun u l => ∀ p ∈ l.parent, u.CanDerive p) u :=
  ⟨fun h t l hl p hp => h t l p hl hp, fun h t l p hl hp => h t l hl p hp⟩

theorem lasts_canDerive : Lasts fun u l => ∀ p ∈ l.parent, u.CanDerive p :=
  fun _ _ _ hgrows hl p hp => hgrows.canDerive (hl p hp)

theorem derivesProperly_empty : DerivesProperly {} :=
  derivesProperly_iff.mpr everyLayout_empty

/-- A type that is not a record type, or is one over a class that it may derive from. -/
def Suits (u : Universe) (d : Descriptor) : Prop :=
  ∀ l p, d.kind = .record l → l.parent = some p → u.CanDerive p

theorem DerivesProperly.add (h : u.DerivesProperly) {d : Descriptor} (hallows : u.Allows d)
    (hd : u.Suits d) : (u.add d).DerivesProperly :=
  derivesProperly_iff.mpr
    ((derivesProperly_iff.mp h).add lasts_canDerive hallows fun l hl p hp => hd l p hl hp)

/-! ### Sealed ancestors -/

/-- Only classes have a sealed class for a base type. -/
theorem DerivesProperly.class?_of_base (h : u.DerivesProperly) {d a : TypeId} (hbase : u.Base d a)
    (ha : u.isSealed a = true) : ∃ c, u.class? d = some c ∧ c.base = some a := by
  have hobject : a ≠ .object := by
    rintro rfl
    exact absurd ha Bool.false_ne_true
  unfold Base base? at hbase
  split at hbase
  · exact absurd hbase nofun
  · exact absurd hbase nofun
  · next c hc =>
    refine ⟨c, class?_eq_some_iff.mpr hc, ?_⟩
    cases hb : c.base with
    | none =>
      rw [hb] at hbase
      exact absurd (Option.some.inj hbase).symm hobject
    | some b =>
      rw [hb] at hbase
      exact hbase
  · next l hl =>
    cases hp : l.parent with
    | none =>
      rw [hp] at hbase
      exact absurd (Option.some.inj hbase).symm hobject
    | some p =>
      rw [hp] at hbase
      obtain rfl : p = a := Option.some.inj hbase
      have hopen := (h d l p (layout?_eq_some_iff.mpr hl) hp).isSealed
      exact absurd (ha.symm.trans hopen) (by decide)
  · exact absurd (Option.some.inj hbase).symm hobject
  · exact absurd (Option.some.inj hbase).symm hobject

theorem base_of_class? {d a : TypeId} {c : ClassInfo} (hc : u.class? d = some c)
    (hb : c.base = some a) : u.Base d a := by
  rw [Base, base?, class?_eq_some_iff.mp hc]
  exact congrArg (fun b => some (b.getD .object)) hb

end Universe

/-! ### Calls and what happens between them -/

namespace Foundry

open Universe (DerivesProperly WellFormed derivesProperly_iff lasts_canDerive)

variable {u : Universe}

/-- The check of the parent is what keeps record types from sealed classes. -/
theorem derivesProperly_castTemplate (hu : u.WellFormed) (h : u.DerivesProperly) (n : Naming)
    (names : List String) (isMutable : Bool) (parent : Option TypeId) (f : Foundry Unit) :
    (castTemplate directBackend n names isMutable parent f u).2.2.DerivesProperly :=
  derivesProperly_iff.mpr (everyLayout_castTemplate hu (derivesProperly_iff.mp h) lasts_canDerive
    n names isMutable parent f fun _ _ hparent => hparent)

/-- A closed type takes over the parent of its template, which was checked before. -/
theorem derivesProperly_castClosed (hu : u.WellFormed) (h : u.DerivesProperly)
    (template : TypeId) (arguments : List TypeId) (f : Foundry Unit) :
    (castClosed directBackend template arguments f u).2.2.DerivesProperly :=
  derivesProperly_iff.mpr (everyLayout_castClosed hu (derivesProperly_iff.mp h) lasts_canDerive
    template arguments f fun l hl _ p hp => h template l p hl hp)

end Foundry

namespace Registry

open Universe (DerivesProperly WellFormed)

/-- What may happen between two calls if no type is laid out by hand: a class is declared, another
registry over the direct backend is called, whatever it has stored, or the heap changes. -/
inductive Ordinary : World → World → Prop
  | heap (w : World) (heap : Heap) : Ordinary w { w with heap }
  | declareClass {w : World} {name : String} {c : ClassInfo} {t : TypeId} {u : Universe}
      (h : w.declareClass name c = .ok (t, u)) : Ordinary w { w with types := u }
  | perform (r : Registry Unit) (w : World) (c : Call) :
      Ordinary w (perform directBackend r w c).2.2

theorem kept_derivesProperly :
    Kept directBackend fun _ u => u.WellFormed ∧ u.DerivesProperly := by
  apply kept_of_casts (Q := fun u => u.WellFormed ∧ u.DerivesProperly)
  · rintro f n names isMutable parent u ⟨hu, h⟩
    exact ⟨(Foundry.grows_castTemplate hu n names isMutable parent f).wellFormed hu,
      Foundry.derivesProperly_castTemplate hu h n names isMutable parent f⟩
  · rintro f template arguments u ⟨hu, h⟩
    exact ⟨(Foundry.grows_castClosed hu template arguments f).wellFormed hu,
      Foundry.derivesProperly_castClosed hu h template arguments f⟩

theorem Ordinary.derivesProperly {w w' : World} (hw : Ordinary w w')
    (h : w.types.WellFormed ∧ w.types.DerivesProperly) :
    w'.types.WellFormed ∧ w'.types.DerivesProperly := by
  cases hw with
  | heap => exact h
  | declareClass hdeclared =>
    obtain ⟨rfl, hbase, -⟩ := World.declareClass_cases hdeclared
    exact ⟨h.1.add hbase, h.2.add hbase nofun⟩
  | perform r w c => exact kept_derivesProperly.perform h c

variable {history : List Exchange} {r : Registry Unit} {w : World}

theorem Run.derivesProperly (h : Run Ordinary directBackend history r w) :
    w.types.WellFormed ∧ w.types.DerivesProperly :=
  h.kept kept_derivesProperly
    (fun _ _ => ⟨Universe.wellFormed_empty, Universe.derivesProperly_empty⟩)
    fun _ _ _ hw => hw.derivesProperly

/-- No record type has a sealed class for its parent.  All sealed classes among the ancestors of a
type are there because a class was declared over them. -/
theorem Run.sealed_ancestor_iff (h : Run Ordinary directBackend history r w) :
    (∀ t l p, w.types.layout? t = some l → l.parent = some p → w.types.isSealed p = false) ∧
    ∀ t a, (a ∈ w.types.ancestors t ∧ w.types.isSealed a = true) ↔
      ∃ d c, (d = t ∨ d ∈ w.types.ancestors t) ∧ w.types.class? d = some c ∧ c.base = some a ∧
        w.types.isSealed a = true := by
  obtain ⟨hu, hproper⟩ := h.derivesProperly
  refine ⟨fun t l p hl hp => (hproper t l p hl hp).isSealed, fun t a => ⟨?_, ?_⟩⟩
  · rintro ⟨hancestor, hsealed⟩
    obtain ⟨d, hd, hbase⟩ := hu.mem_ancestors_iff_base.mp hancestor
    obtain ⟨c, hc, hb⟩ := hproper.class?_of_base hbase hsealed
    exact ⟨d, c, hd, hc, hb, hsealed⟩
  · rintro ⟨d, c, hd, hc, hb, hsealed⟩
    exact ⟨hu.mem_ancestors_iff_base.mpr ⟨d, hd, Universe.base_of_class? hc hb⟩, hsealed⟩

/-- A class is declared over a sealed one, and a record type over that class. -/
theorem sealed_class_derived :
    let base : World := { types := Universe.add {} ⟨"Base", .nominal { isSealed := true }⟩ }
    let derived : World :=
      { types := base.types.add ⟨"Derived", .nominal { base := some (.declared 0) }⟩ }
    let out := recordType directBackend (new .standard ()) derived.types .empty
      { parent := some (.declared 1) }
    ({} : World).declareClass "Base" { isSealed := true } = .ok (.declared 0, base.types) ∧
    base.declareClass "Derived" { base := some (.declared 0) } =
      .ok (.declared 1, derived.types) ∧
    out.1 = .ok (.declared 3) ∧
    out.2.2.isSealed (.declared 0) = true ∧
    .declared 0 ∈ out.2.2.ancestors (.declared 1) ∧
    .declared 0 ∈ out.2.2.ancestors (.declared 3) := by
  refine ⟨rfl, rfl, ?_⟩
  decide +kernel

/-- The record type in that case owes its sealed ancestor to the class it derives from. -/
theorem sealed_ancestor_of_record :
    let base : World := { types := Universe.add {} ⟨"Base", .nominal { isSealed := true }⟩ }
    let derived : World :=
      { types := base.types.add ⟨"Derived", .nominal { base := some (.declared 0) }⟩ }
    let call := Call.recordType .empty { parent := some (.declared 1) }
    let out := perform directBackend (new .standard ()) derived call
    Run Ordinary directBackend [⟨call, out.1⟩] out.2.1 out.2.2 ∧
    ∃ d c, (d = .declared 3 ∨ d ∈ out.2.2.types.ancestors (.declared 3)) ∧
      out.2.2.types.class? d = some c ∧ c.base = some (.declared 0) ∧
      out.2.2.types.isSealed (.declared 0) = true := by
  intro base derived call
  have hbase : ({} : World).declareClass "Base" { isSealed := true } =
      .ok (.declared 0, base.types) := rfl
  have hderived : base.declareClass "Derived" { base := some (.declared 0) } =
      .ok (.declared 1, derived.types) := rfl
  have hstart : Run Ordinary directBackend [] (new .standard ()) derived :=
    ((Run.start .standard ()).elsewhere (.declareClass hbase)).elsewhere (.declareClass hderived)
  have hrun := hstart.call call
  have hancestor := (Run.sealed_ancestor_iff hrun).2 (.declared 3) (.declared 0)
  refine ⟨hrun, hancestor.mp ?_⟩
  decide +kernel

end Registry

end RecordTypes
