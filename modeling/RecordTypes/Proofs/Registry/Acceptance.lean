import RecordTypes.Proofs.Registry.Sealed
import RecordTypes.Proofs.Universe.Assignability

/-!
# What slots accept

A slot of a type further up accepts every value that a slot of a type further down accepts.  For
values with a type that is a matter of the order alone; for null it is one of what types there are
to derive from: only `Object` and classes, and slots of these take null
(`Universe.DerivesProperly.isNullable_of_base`).  A layout made by hand could be over a primitive or
a type parameter; where there are none, acceptance follows the order
(`Registry.ByRequest.assignable`).
-/

namespace RecordTypes

namespace Universe

variable {u : Universe} {t a b : TypeId}

theorem isNullable_of_class? (h : (u.class? t).isSome) : u.isNullable t = true := by
  obtain ⟨c, hc⟩ := Option.isSome_iff_exists.mp h
  rw [isNullable, class?_eq_some_iff.mp hc]

/-- Slots of a type that another one has for its base take null. -/
theorem DerivesProperly.isNullable_of_base (h : u.DerivesProperly) (hu : u.WellFormed)
    (hbase : u.Base t b) : u.isNullable b = true := by
  have hobject : u.isNullable .object = true := rfl
  unfold Base base? at hbase
  split at hbase
  · cases hbase
  · cases hbase
  · next c hc =>
    obtain rfl := Option.some.inj hbase
    cases hb : c.base with
    | none => exact hobject
    | some b => exact isNullable_of_class? (hu.base t c b (class?_eq_some_iff.mpr hc) hb).1
  · next l hl =>
    obtain rfl := Option.some.inj hbase
    cases hp : l.parent with
    | none => exact hobject
    | some p =>
      exact isNullable_of_class? (h t l p (layout?_eq_some_iff.mpr hl) hp).class?_isSome
  · exact Option.some.inj hbase ▸ hobject
  · exact Option.some.inj hbase ▸ hobject

/-- What a slot of a type takes, a slot of a type further up takes, too. -/
theorem DerivesProperly.admits_of_isAssignable (h : u.DerivesProperly) (hu : u.WellFormed)
    (hab : u.isAssignable a b = true) {actual : Option TypeId} (hb : u.admits b actual = true) :
    u.admits a actual = true := by
  cases actual with
  | some t => exact hu.isAssignable_trans hab hb
  | none =>
    rcases hu.isAssignable_iff.mp hab with rfl | hup
    · rfl
    · rcases hup.cases_tail with rfl | ⟨d, -, hbase⟩
      · exact hb
      · exact h.isNullable_of_base hu hbase

end Universe

namespace Registry

/-- What may happen to a world if no type is laid out by hand: a class or a type parameter is
declared, a registry over the direct backend is called, whatever it has stored, or the heap
changes. -/
inductive ByRequest : World → World → Prop
  | ordinary {w w' : World} (h : Ordinary w w') : ByRequest w w'
  | parameter (w : World) (name : String) (position : Nat) :
      ByRequest w { w with types := w.types.add ⟨name, .parameter position⟩ }

variable {w w' : World}

theorem ByRequest.derivesProperly (hw : ByRequest w w')
    (h : w.types.WellFormed ∧ w.types.DerivesProperly) :
    w'.types.WellFormed ∧ w'.types.DerivesProperly := by
  cases hw with
  | ordinary hw => exact hw.derivesProperly h
  | parameter name position => exact ⟨h.1.add trivial, h.2.add trivial nofun⟩

/-- However types were requested, the way up from each of them is finite, from base type to base
type, and ends at `Object`, which has none.  A type is assignable from another one exactly if it is
on the way up from there; that is a partial order with `Object` at the top.  Whatever a slot
accepts, null included, a slot of a type that is assignable from its type accepts. -/
theorem ByRequest.assignable (h : Relation.ReflTransGen ByRequest {} w) :
    (∀ t, w.types.Knows t → (t :: w.types.ancestors t).IsChain w.types.Base ∧
      (t :: w.types.ancestors t).getLast? = some .object) ∧
    w.types.base? .object = none ∧
    (∀ a b, w.types.Knows b →
      (w.types.isAssignable a b = true ↔ Relation.ReflTransGen w.types.Base b a)) ∧
    (∀ t, w.types.isAssignable t t = true) ∧
    (∀ a b c, w.types.isAssignable a b = true → w.types.isAssignable b c = true →
      w.types.isAssignable a c = true) ∧
    (∀ a b, w.types.isAssignable a b = true → w.types.isAssignable b a = true → a = b) ∧
    (∀ t, w.types.isAssignable .object t = true) ∧
    ∀ a b v, w.types.isAssignable a b = true → w.fits b v = true → w.fits a v = true := by
  have hproper : w.types.WellFormed ∧ w.types.DerivesProperly := by
    induction h with
    | refl => exact ⟨Universe.wellFormed_empty, Universe.derivesProperly_empty⟩
    | tail _ hstep ih => exact hstep.derivesProperly ih
  obtain ⟨hu, hderives⟩ := hproper
  exact ⟨fun t ht => ⟨hu.isChain_ancestors t, hu.getLast?_ancestors ht⟩,
    Universe.base?_object _,
    fun a b hb => hu.isAssignable_iff_of_knows hb,
    w.types.isAssignable_refl,
    fun a b c => hu.isAssignable_trans,
    fun a b => hu.isAssignable_antisymm,
    w.types.isAssignable_object,
    fun a b v hab hv => hderives.admits_of_isAssignable hu hab hv⟩

/-- A record type over a class that derives from another one, and a type parameter: what the record
type takes, the class further up takes. -/
theorem ByRequest.assignable_over_two_classes :
    let base : World := { types := Universe.add {} ⟨"Base", .nominal {}⟩ }
    let derived : World :=
      { types := base.types.add ⟨"Derived", .nominal { base := some (.declared 0) }⟩ }
    let call := Call.recordType .empty { parent := some (.declared 1) }
    let made : World := (perform directBackend (new .standard ()) derived call).2.2
    let w : World := { made with types := made.types.add ⟨"T", .parameter 0⟩ }
    Relation.ReflTransGen ByRequest {} w ∧ w.types.Knows (.declared 3) ∧
      Relation.ReflTransGen w.types.Base (.declared 3) (.declared 0) ∧
      ∀ v, w.fits (.declared 3) v = true → w.fits (.declared 0) v = true := by
  intro base derived call made w
  have hbase : ({} : World).declareClass "Base" {} = .ok (.declared 0, base.types) := rfl
  have hderived : base.declareClass "Derived" { base := some (.declared 0) } =
      .ok (.declared 1, derived.types) := rfl
  have hreached : Relation.ReflTransGen ByRequest {} w :=
    (((Relation.ReflTransGen.single (.ordinary (.declareClass hbase))).tail
      (.ordinary (.declareClass hderived))).tail (.ordinary (.perform _ derived call))).tail
      (.parameter made "T" 0)
  have hknows : w.types.Knows (.declared 3) := by
    show (w.types.entry? (.declared 3)).isSome = true
    decide +kernel
  have hassignable : w.types.isAssignable (.declared 0) (.declared 3) = true := by decide +kernel
  obtain ⟨-, -, hup, -, -, -, -, haccepts⟩ := ByRequest.assignable hreached
  exact ⟨hreached, hknows, (hup _ _ hknows).mp hassignable,
    fun v hv => haccepts _ _ v hassignable hv⟩

end Registry

end RecordTypes
