import RecordTypes.Proofs.Universe.Growth
import Mathlib.Logic.Relation
import Mathlib.Tactic.ByContra

/-!
# Ancestors

`Base u t b` says that `b` is the base type of `t`.  In a well-formed universe a base type has the
smaller rank (`WellFormed.rank_lt`), so no type is its own ancestor, and the bound on the walk
towards the base types is never the reason why it ends (`WellFormed.ancestorsWithin_eq`).  The
ancestors of a type are therefore its base type and the ancestors of that
(`WellFormed.ancestors_eq_cons`), or what can be reached by going from type to base type
(`WellFormed.mem_ancestors_iff`).
-/

namespace RecordTypes.Universe

/-- A type has a base type. -/
def Base (u : Universe) (t b : TypeId) : Prop := u.base? t = some b

variable {u : Universe} {t a b : TypeId}

/-- Only `Object` has the rank 0. -/
theorem rank_pos (h : t ≠ .object) : 0 < t.rank := by
  cases t with
  | builtin p => cases p <;> first | exact absurd rfl h | exact Nat.one_pos
  | declared n => exact Nat.succ_pos _

theorem base?_object (u : Universe) : u.base? .object = none := rfl

/-- A base type is older than what derives from it. -/
theorem WellFormed.rank_lt (hu : u.WellFormed) (h : u.Base t b) : b.rank < t.rank := by
  have hne : t ≠ .object := by
    rintro rfl
    rw [Base, base?_object] at h
    exact absurd h nofun
  have hobject : TypeId.object.rank < t.rank := rank_pos hne
  unfold Base base? at h
  split at h
  · exact absurd h nofun
  · exact absurd h nofun
  · next c hc =>
    obtain rfl := Option.some.inj h
    cases hbase : c.base with
    | none => exact hobject
    | some b => exact (hu.base t c b (class?_eq_some_iff.mpr hc) hbase).2
  · next l hl =>
    obtain rfl := Option.some.inj h
    cases hparent : l.parent with
    | none => exact hobject
    | some p => exact (hu.parent t l p (layout?_eq_some_iff.mpr hl) hparent).2
  · exact Option.some.inj h ▸ hobject
  · exact Option.some.inj h ▸ hobject

/-- A walk that may take as many steps as the rank is not cut short. -/
theorem WellFormed.ancestorsWithin_eq (hu : u.WellFormed) {fuel : Nat} (h : t.rank ≤ fuel) :
    u.ancestorsWithin fuel t = u.ancestors t := by
  suffices hwalk : ∀ fuel fuel' t, t.rank ≤ fuel → t.rank ≤ fuel' →
      u.ancestorsWithin fuel t = u.ancestorsWithin fuel' t from
    hwalk fuel t.rank t h (Nat.le_refl _)
  intro fuel
  induction fuel with
  | zero =>
    intro fuel' t h _
    -- Only `Object` may not take a step, and it has none to take.
    obtain rfl : t = .object := by
      by_contra hne
      have := rank_pos hne
      omega
    cases fuel' <;> rfl
  | succ fuel ih =>
    intro fuel' t h h'
    rcases hb : u.base? t with _ | b
    · cases fuel' <;> simp only [ancestorsWithin, hb]
    · have hlt : b.rank < t.rank := hu.rank_lt hb
      obtain ⟨fuel', rfl⟩ : ∃ n, fuel' = n + 1 := ⟨fuel' - 1, by omega⟩
      simp only [ancestorsWithin, hb]
      rw [ih fuel' b (by omega) (by omega)]

theorem WellFormed.ancestors_eq_cons (hu : u.WellFormed) (h : u.Base t b) :
    u.ancestors t = b :: u.ancestors b := by
  have hlt : b.rank < t.rank := hu.rank_lt h
  calc u.ancestors t = u.ancestorsWithin (t.rank + 1) t :=
        (hu.ancestorsWithin_eq (Nat.le_succ _)).symm
    _ = b :: u.ancestorsWithin t.rank b := by rw [ancestorsWithin, h]
    _ = b :: u.ancestors b := by rw [hu.ancestorsWithin_eq (Nat.le_of_lt hlt)]

theorem ancestors_eq_nil (h : u.base? t = none) : u.ancestors t = [] := by
  unfold ancestors
  cases t.rank with
  | zero => rfl
  | succ fuel => rw [ancestorsWithin, h]

/-- The ancestors are what is reached by going from type to base type, at least once. -/
theorem WellFormed.mem_ancestors_iff (hu : u.WellFormed) :
    a ∈ u.ancestors t ↔ Relation.TransGen u.Base t a := by
  -- By induction on the rank: the walk goes on from the base type, which has a smaller one.
  induction hrank : t.rank using Nat.strongRecOn generalizing t with
  | _ n ih =>
    subst hrank
    rcases hb : u.base? t with _ | b
    · rw [ancestors_eq_nil hb]
      refine ⟨nofun, fun h => ?_⟩
      obtain ⟨b, htb, -⟩ := Relation.TransGen.head'_iff.mp h
      rw [Base, hb] at htb
      exact absurd htb nofun
    · rw [hu.ancestors_eq_cons hb, List.mem_cons, ih b.rank (hu.rank_lt hb) rfl,
        ← Relation.reflTransGen_iff_eq_or_transGen]
      refine ⟨fun h => .head' hb h, fun h => ?_⟩
      obtain ⟨b', hb', h⟩ := Relation.TransGen.head'_iff.mp h
      obtain rfl : b = b' := Option.some.inj (hb.symm.trans hb')
      exact h

/-- Every ancestor is the base type of the type or of an ancestor. -/
theorem WellFormed.mem_ancestors_iff_base (hu : u.WellFormed) :
    a ∈ u.ancestors t ↔ ∃ d, (d = t ∨ d ∈ u.ancestors t) ∧ u.Base d a := by
  rw [hu.mem_ancestors_iff, Relation.TransGen.tail'_iff]
  refine exists_congr fun d => and_congr_left fun _ => ?_
  rw [hu.mem_ancestors_iff, Relation.reflTransGen_iff_eq_or_transGen]

end RecordTypes.Universe
