import RecordTypes.Proofs.Heap.Content

/-!
# Equality and hash codes of values

Deep equality is an equivalence of acyclic values, and the shortcut that it takes where it meets one
instance on both sides never changes its answer (`same?_equivalence`).  Equal values have equal hash
codes (`hash?_eq_of_same?`).  Both hold at any depth and for every pattern of bits that a double can
have, because equality is equality of contents and the hash code is read off the content.
-/

namespace RecordTypes.Heap

/-- Equality of acyclic values is an equivalence.  It always has an answer there, which is the one
that it would give without the shortcut for one instance on both sides: two instances are equal if
they are of one type and their slots are equal in order, also if the two are one. -/
theorem same?_equivalence (h : Heap) :
    Equivalence (fun a b : { v // h.Acyclic v } => h.same? a b = some true) ∧
    (∀ a b, h.Acyclic a → h.Acyclic b →
      ∃ answer, h.same? a b = some answer ∧ h.alike? a b = some answer) ∧
    ∀ r s, h.same? (.ref r) (.ref s) = some true ↔
      (h.cell r).type = (h.cell s).type ∧
        List.Forall₂ (fun a b => h.same? a b = some true) (h.cell r).own (h.cell s).own := by
  refine ⟨⟨?_, ?_, ?_⟩, ?_, fun r s => same?_ref_iff⟩
  · rintro ⟨v, hv⟩
    obtain ⟨c, hc⟩ := Option.isSome_iff_exists.mp (isSome_content?_iff.mpr hv)
    exact same?_eq_some_true_iff.mpr ⟨c, hc, hc⟩
  · intro a b hab
    obtain ⟨c, ha, hb⟩ := same?_eq_some_true_iff.mp hab
    exact same?_eq_some_true_iff.mpr ⟨c, hb, ha⟩
  · intro a b d hab hbd
    obtain ⟨c, ha, hb⟩ := same?_eq_some_true_iff.mp hab
    obtain ⟨c', hb', hd⟩ := same?_eq_some_true_iff.mp hbd
    -- The value in the middle has one content.
    obtain rfl : c = c' := Option.some.inj (hb.symm.trans hb')
    exact same?_eq_some_true_iff.mpr ⟨c, ha, hd⟩
  · intro a b ha hb
    obtain ⟨answer, hanswer⟩ := Option.isSome_iff_exists.mp (isSome_same? ha hb)
    exact ⟨answer, hanswer, by rw [← same?_eq_alike?, hanswer]⟩

/-- Two instances of one type over two more, which hold different patterns of "not a number" in the
first slot and different zeros in the second. -/
def twins : Heap where
  cells := #[
    ⟨.declared 1, [.scalar (.double ⟨0x7ff0000000000001⟩), .scalar (.double ⟨0⟩)], []⟩,
    ⟨.declared 1, [.scalar (.double ⟨0xfff8000000000000⟩),
      .scalar (.double ⟨0x8000000000000000⟩)], []⟩,
    ⟨.declared 4, [.ref ⟨0⟩, .null], []⟩,
    ⟨.declared 4, [.ref ⟨1⟩, .null], []⟩]

theorem same?_twins : twins.same? (.ref ⟨2⟩) (.ref ⟨3⟩) = some true := by decide +kernel

theorem acyclic_twins : twins.Acyclic (.ref ⟨2⟩) ∧ twins.Acyclic (.ref ⟨3⟩) := by
  rw [← isSome_tree?_iff, ← isSome_tree?_iff]
  decide +kernel

theorem same?_equivalence_twins :
    twins.Acyclic (.ref ⟨2⟩) ∧ twins.Acyclic (.ref ⟨3⟩) ∧
    twins.same? (.ref ⟨3⟩) (.ref ⟨3⟩) = some true ∧
    twins.same? (.ref ⟨3⟩) (.ref ⟨2⟩) = some true ∧
    ∃ answer, twins.same? (.ref ⟨2⟩) (.ref ⟨3⟩) = some answer ∧
      twins.alike? (.ref ⟨2⟩) (.ref ⟨3⟩) = some answer := by
  obtain ⟨hacyclic, hacyclic'⟩ := acyclic_twins
  obtain ⟨hequivalence, hanswer, -⟩ := same?_equivalence twins
  let v : { v // twins.Acyclic v } := ⟨.ref ⟨2⟩, hacyclic⟩
  let w : { v // twins.Acyclic v } := ⟨.ref ⟨3⟩, hacyclic'⟩
  have hsymm : twins.same? w v = some true :=
    hequivalence.symm (show twins.same? v w = some true from same?_twins)
  have htrans : twins.same? w w = some true :=
    hequivalence.trans hsymm (show twins.same? v w = some true from same?_twins)
  exact ⟨hacyclic, hacyclic', htrans, hsymm, hanswer _ _ hacyclic hacyclic'⟩

/-- Equal values have a hash code each, and it is the same.  Equal are, among others, all patterns
of "not a number", the two zeros, and instances of one type with slots that are equal in order. -/
theorem hash?_eq_of_same? (h : Heap) :
    (∀ a b, h.same? a b = some true →
      ∃ code, h.hash? a = some code ∧ h.hash? b = some code) ∧
    (∀ x y : Binary64, x.isNaN = true → y.isNaN = true →
      h.same? (.scalar (.double x)) (.scalar (.double y)) = some true) ∧
    (∀ x y : Binary64, x.isZero = true → y.isZero = true →
      h.same? (.scalar (.double x)) (.scalar (.double y)) = some true) ∧
    ∀ r s, (h.cell r).type = (h.cell s).type →
      List.Forall₂ (fun a b => h.same? a b = some true) (h.cell r).own (h.cell s).own →
      h.same? (.ref r) (.ref s) = some true := by
  refine ⟨?_, ?_, ?_, fun r s htype hslots => same?_ref_iff.mpr ⟨htype, hslots⟩⟩
  · intro a b hab
    obtain ⟨c, ha, hb⟩ := same?_eq_some_true_iff.mp hab
    exact ⟨c.hash, by rw [hash?_eq, ha, Option.map_some], by rw [hash?_eq, hb, Option.map_some]⟩
  · intro x y hx hy
    rw [same?_scalar_iff]
    show Scalar.double x.canonical = .double y.canonical
    rw [Binary64.canonical_of_isNaN hx, Binary64.canonical_of_isNaN hy]
  · intro x y hx hy
    rw [same?_scalar_iff]
    show Scalar.double x.canonical = .double y.canonical
    rw [Binary64.canonical_of_isZero hx, Binary64.canonical_of_isZero hy]

theorem hash?_eq_of_same?_twins :
    twins.same? (.ref ⟨2⟩) (.ref ⟨3⟩) = some true ∧
    (∃ code, twins.hash? (.ref ⟨2⟩) = some code ∧ twins.hash? (.ref ⟨3⟩) = some code) ∧
    twins.same? (.ref ⟨0⟩) (.ref ⟨1⟩) = some true := by
  obtain ⟨hhash, hnan, hzero, hinstances⟩ := hash?_eq_of_same? twins
  have hslots : List.Forall₂ (fun a b => twins.same? a b = some true)
      (twins.cell ⟨0⟩).own (twins.cell ⟨1⟩).own :=
    .cons (hnan _ _ (by decide) (by decide)) (.cons (hzero _ _ (by decide) (by decide)) .nil)
  exact ⟨same?_twins, hhash _ _ same?_twins, hinstances ⟨0⟩ ⟨1⟩ rfl hslots⟩

end RecordTypes.Heap
