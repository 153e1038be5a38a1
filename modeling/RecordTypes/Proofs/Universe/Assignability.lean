import Mathlib.Data.List.Chain
import RecordTypes.Proofs.Universe.Ancestors

/-!
# Assignability

A slot takes the values of a type if it is of that type or of one further up, and a slot of type
`Object` takes everything.  In a well-formed universe going up means going from type to base type
(`WellFormed.isAssignable_iff`), and it leads to older types only, so assignability is a partial
order with `Object` at the top (`WellFormed.isAssignable_trans`,
`WellFormed.isAssignable_antisymm`).  From a known type the way up always ends at `Object`
(`WellFormed.getLast?_ancestors`).
-/

namespace RecordTypes.Universe

variable {u : Universe} {t a b c : TypeId}

/-! ### The way up -/

/-- Only `Object` has no base type. -/
theorem WellFormed.eq_object (hu : u.WellFormed) (ht : u.Knows t) (hbase : u.base? t = none) :
    t = .object := by
  unfold base? at hbase
  split at hbase
  · next hkind => exact hu.primitive t .object hkind
  · next hkind =>
    rw [Knows] at ht
    rw [kind?, Option.map_eq_none_iff] at hkind
    rw [hkind] at ht
    exact absurd ht Bool.false_ne_true
  all_goals cases hbase

/-- The ancestors follow each other as base types. -/
theorem WellFormed.isChain_ancestors (hu : u.WellFormed) (t : TypeId) :
    (t :: u.ancestors t).IsChain u.Base := by
  induction hrank : t.rank using Nat.strongRecOn generalizing t with
  | _ n ih =>
    subst hrank
    rcases hb : u.base? t with _ | b
    · rw [ancestors_eq_nil hb]
      exact .singleton t
    · rw [hu.ancestors_eq_cons hb]
      exact .cons_cons hb (ih b.rank (hu.rank_lt hb) b rfl)

/-- The last ancestor of a known type is `Object`. -/
theorem WellFormed.getLast?_ancestors (hu : u.WellFormed) (ht : u.Knows t) :
    (t :: u.ancestors t).getLast? = some .object := by
  induction hrank : t.rank using Nat.strongRecOn generalizing t with
  | _ n ih =>
    subst hrank
    rcases hb : u.base? t with _ | b
    · rw [ancestors_eq_nil hb, hu.eq_object ht hb]
      rfl
    · rw [hu.ancestors_eq_cons hb, List.getLast?_cons_cons]
      exact ih b.rank (hu.rank_lt hb) (hu.knows_base hb) rfl

/-! ### The order -/

/-- A slot takes what is of its type or leads up to it, and a slot of type `Object` everything. -/
theorem WellFormed.isAssignable_iff (hu : u.WellFormed) :
    u.isAssignable a b = true ↔ a = .object ∨ Relation.ReflTransGen u.Base b a := by
  rw [isAssignable, derives, Bool.or_eq_true, Bool.or_eq_true, decide_eq_true_iff,
    decide_eq_true_iff, List.contains_iff_mem, hu.mem_ancestors_iff,
    Relation.reflTransGen_iff_eq_or_transGen, or_comm (a := a = b), or_assoc]

/-- A known type leads up to `Object`. -/
theorem WellFormed.reaches_object (hu : u.WellFormed) (ht : u.Knows t) :
    Relation.ReflTransGen u.Base t .object := by
  have hlast := hu.getLast?_ancestors ht
  rcases List.mem_cons.mp (List.mem_of_getLast? hlast) with heq | hmem
  · exact heq ▸ .refl
  · exact (hu.mem_ancestors_iff.mp hmem).to_reflTransGen

/-- For values of a known type, a slot of type `Object` is no exception. -/
theorem WellFormed.isAssignable_iff_of_knows (hu : u.WellFormed) (hb : u.Knows b) :
    u.isAssignable a b = true ↔ Relation.ReflTransGen u.Base b a := by
  rw [hu.isAssignable_iff]
  refine ⟨fun h => ?_, .inr⟩
  rcases h with rfl | h
  · exact hu.reaches_object hb
  · exact h

theorem isAssignable_refl (u : Universe) (t : TypeId) : u.isAssignable t t = true := by
  simp [isAssignable]

theorem isAssignable_object (u : Universe) (t : TypeId) : u.isAssignable .object t = true := by
  simp [isAssignable]

/-- Nothing but `Object` is above `Object`. -/
theorem WellFormed.eq_object_of_isAssignable (hu : u.WellFormed)
    (h : u.isAssignable a .object = true) : a = .object := by
  rcases hu.isAssignable_iff.mp h with ha | ha
  · exact ha
  · rcases ha.cases_head with heq | ⟨b, hb, -⟩
    · exact heq.symm
    · cases (base?_object u).symm.trans hb

theorem WellFormed.isAssignable_trans (hu : u.WellFormed) (hab : u.isAssignable a b = true)
    (hbc : u.isAssignable b c = true) : u.isAssignable a c = true := by
  rcases hu.isAssignable_iff.mp hab with rfl | hba
  · exact u.isAssignable_object c
  · rcases hu.isAssignable_iff.mp hbc with rfl | hcb
    · rw [hu.eq_object_of_isAssignable hab]
      exact u.isAssignable_object c
    · exact hu.isAssignable_iff.mpr (.inr (hcb.trans hba))

/-- The way up leads to older types. -/
theorem WellFormed.rank_lt_of_reaches (hu : u.WellFormed) (h : Relation.TransGen u.Base t a) :
    a.rank < t.rank := by
  induction h with
  | single hbase => exact hu.rank_lt hbase
  | tail _ hbase ih => exact Nat.lt_trans (hu.rank_lt hbase) ih

theorem WellFormed.isAssignable_antisymm (hu : u.WellFormed) (hab : u.isAssignable a b = true)
    (hba : u.isAssignable b a = true) : a = b := by
  rcases hu.isAssignable_iff.mp hab with rfl | hup
  · exact (hu.eq_object_of_isAssignable hba).symm
  · rcases hu.isAssignable_iff.mp hba with rfl | hdown
    · exact hu.eq_object_of_isAssignable hab
    · -- Two different types would each be older than the other.
      rcases Relation.reflTransGen_iff_eq_or_transGen.mp hup with heq | hup
      · exact heq
      · rcases Relation.reflTransGen_iff_eq_or_transGen.mp hdown with heq | hdown
        · exact heq.symm
        · exact absurd (hu.rank_lt_of_reaches hup) (Nat.lt_asymm (hu.rank_lt_of_reaches hdown))

end RecordTypes.Universe
