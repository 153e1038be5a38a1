import RecordTypes.Proofs.Heap.Acyclic
import RecordTypes.Proofs.Heap.Cells

/-!
# Heaps that agree on a value

Two heaps agree on a value if each instance that it reaches through own slots has the same type and
the same own slots in both.  Then it has the same tree in both, or none in either
(`AgreeOn.tree?_eq`), however much the heaps differ elsewhere, in size or in inherited slots.

A change to one instance leaves a heap that agrees with the old one on whatever does not reach the
instance (`agreeOn_modify`).  If the change keeps the type and the own slots, as a change to an
inherited slot does, the two heaps agree on everything (`agreeOn_modify_of_own`).
-/

namespace RecordTypes.Heap

variable {h h' : Heap} {r : InstanceId} {a b v x : Value} {f : Cell → Cell}

/-- What a value reaches through own slots is the same in two heaps. -/
def AgreeOn (h h' : Heap) (v : Value) : Prop :=
  ∀ r, h.Reaches v (.ref r) →
    (h'.cell r).type = (h.cell r).type ∧ (h'.cell r).own = (h.cell r).own

theorem AgreeOn.refl (h : Heap) (v : Value) : AgreeOn h h v := fun _ _ => ⟨rfl, rfl⟩

/-- Heaps that agree on a value agree on what it holds in its slots. -/
theorem AgreeOn.slot (hv : AgreeOn h h' v) (hx : h.Slot v x) : AgreeOn h h' x :=
  fun r hr => hv r (.head hx hr)

/-! ### Trees in heaps that agree -/

/-- Up to any depth, a value has the same tree in heaps that agree on it. -/
theorem AgreeOn.treeWithin_eq (hv : AgreeOn h h' v) (depth : Nat) :
    h'.treeWithin depth v = h.treeWithin depth v := by
  induction depth generalizing v with
  | zero => cases v <;> simp [treeWithin]
  | succ depth ih =>
    cases v with
    | scalar s => simp
    | ref r =>
      obtain ⟨htype, hown⟩ := hv r .refl
      have hslots : (h.cell r).own.mapM (h'.treeWithin depth) =
          (h.cell r).own.mapM (h.treeWithin depth) :=
        mapM_congr fun x hx => ih (hv.slot (slot_ref_iff.mpr hx))
      rw [treeWithin_succ_ref, treeWithin_succ_ref, htype, hown, hslots]

/-- A value contains itself in both of two heaps that agree on it or in neither. -/
theorem AgreeOn.acyclic_iff (hv : AgreeOn h h' v) : h'.Acyclic v ↔ h.Acyclic v := by
  constructor
  · intro hacyclic
    have hsome : (h'.tree? v).isSome := isSome_tree?_iff.mpr hacyclic
    rw [tree?, hv.treeWithin_eq] at hsome
    exact acyclic_of_isSome_treeWithin hsome
  · intro hacyclic
    have hsome : (h.tree? v).isSome := isSome_tree?_iff.mpr hacyclic
    rw [tree?, ← hv.treeWithin_eq] at hsome
    exact acyclic_of_isSome_treeWithin hsome

/-- A value has the same tree in heaps that agree on it. -/
theorem AgreeOn.tree?_eq (hv : AgreeOn h h' v) : h'.tree? v = h.tree? v := by
  by_cases hacyclic : h.Acyclic v
  · -- The two bounds differ if the heaps differ in size, so the trees are compared slot by slot.
    induction v, hacyclic using Acyclic.induction with
    | scalar s => rw [tree?_scalar, tree?_scalar]
    | ref r _ ih =>
      obtain ⟨htype, hown⟩ := hv r .refl
      have hslots : (h.cell r).own.mapM h'.tree? = (h.cell r).own.mapM h.tree? :=
        mapM_congr fun x hx => ih x hx (hv.slot (slot_ref_iff.mpr hx))
      rw [tree?_ref, tree?_ref, htype, hown, hslots]
  · rw [tree?_eq_none_iff.mpr hacyclic, tree?_eq_none_iff.mpr (mt hv.acyclic_iff.mp hacyclic)]

/-- A value has the same hash code in heaps that agree on it. -/
theorem AgreeOn.hash?_eq (hv : AgreeOn h h' v) : h'.hash? v = h.hash? v := by
  rw [hash?, hash?, hv.tree?_eq]

/-- Two values compare the same in heaps that agree on both. -/
theorem AgreeOn.same?_eq (ha : AgreeOn h h' a) (hb : AgreeOn h h' b) :
    h'.same? a b = h.same? a b := by
  rw [same?, same?, ha.tree?_eq, hb.tree?_eq]

/-! ### A change to one instance -/

/-- A change to an instance is not seen from a value that does not reach it. -/
theorem agreeOn_modify (hv : ¬ h.Reaches v (.ref r)) : AgreeOn h (h.modify r f) v := by
  intro s hs
  have hne : s ≠ r := by
    rintro rfl
    exact hv hs
  rw [cell_modify_of_ne h f hne]
  exact ⟨rfl, rfl⟩

/-- A change that keeps the type and the own slots is seen from no value. -/
theorem agreeOn_modify_of_own (htype : ∀ c, (f c).type = c.type) (hown : ∀ c, (f c).own = c.own)
    (v : Value) : AgreeOn h (h.modify r f) v := by
  intro s _
  by_cases hs : h.Holds (.ref s)
  · rw [cell_modify h r s f hs]
    split
    · exact ⟨htype _, hown _⟩
    · exact ⟨rfl, rfl⟩
  · rw [cell_modify_of_not_holds h r f hs]
    exact ⟨rfl, rfl⟩

/-- A write to an inherited slot is seen from no value. -/
theorem agreeOn_setInherited {i : Nat} (v : Value) : AgreeOn h (h.setInherited r i x) v :=
  agreeOn_modify_of_own (f := fun c => { c with inherited := c.inherited.set i x })
    (fun _ => rfl) (fun _ => rfl) v

/-! ### What a value reaches -/

/-- A scalar reaches itself alone. -/
theorem reaches_scalar_iff {s : Scalar} : h.Reaches (.scalar s) x ↔ x = .scalar s := by
  constructor
  · intro hx
    rcases hx.cases_head with rfl | ⟨y, hy, -⟩
    · rfl
    · exact absurd hy (not_slot_scalar s)
  · rintro rfl
    exact .refl

/-- An instance reaches itself and what its own slots reach. -/
theorem reaches_ref_iff :
    h.Reaches (.ref r) x ↔ x = .ref r ∨ ∃ v ∈ (h.cell r).own, h.Reaches v x := by
  constructor
  · intro hx
    rcases hx.cases_head with rfl | ⟨v, hv, hx⟩
    · exact .inl rfl
    · exact .inr ⟨v, slot_ref_iff.mp hv, hx⟩
  · rintro (rfl | ⟨v, hv, hx⟩)
    · exact .refl
    · exact .head (slot_ref_iff.mpr hv) hx

/-- In a complete heap a value that exists reaches nothing else than values that exist. -/
theorem Complete.holds_of_reaches (hh : h.Complete) (hv : h.Holds v) (hx : h.Reaches v x) :
    h.Holds x := by
  induction hx with
  | refl => exact hv
  | tail _ hslot ih =>
    obtain ⟨s, rfl, hmem⟩ := hslot
    exact hh s ih _ hmem

end RecordTypes.Heap
