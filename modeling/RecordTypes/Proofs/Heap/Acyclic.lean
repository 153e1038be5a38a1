import RecordTypes.Heap.Tree
import Mathlib.Data.List.Perm.Subperm
import Mathlib.Logic.Relation

/-!
# Acyclic values

A value is `Acyclic` if nothing that it reaches through own slots is met within itself.  Exactly
these values have a tree (`isSome_tree?_iff`), so everything that is read off trees is defined for
them: equality, hash codes and texts.

`Heap.treeWithin` is bounded, and here the bound goes.  A path through an acyclic value repeats no
instance, so it is never longer than the heap is large (`Acyclic.isSome_treeWithin`).  A value on a
cycle has no tree within any bound (`treeWithin_eq_none_of_cycle`).  What is left is one equation
for a reference (`tree?_ref`) and induction over what is in the slots (`Acyclic.induction`).
-/

namespace RecordTypes

/-! ### Lists of optional results -/

section MapM

variable {α β γ : Type} {f g : α → Option β} {l : List α} {l' : List β}

theorem mapM_eq_some_iff : l.mapM f = some l' ↔ l.map f = l'.map some := by
  induction l generalizing l' with
  | nil => cases l' <;> simp
  | cons a l ih =>
    rw [List.mapM_cons, List.map_cons]
    constructor
    · intro h
      obtain ⟨b, hb, h⟩ := Option.bind_eq_some_iff.mp h
      obtain ⟨bs, hbs, h⟩ := Option.bind_eq_some_iff.mp h
      obtain rfl : b :: bs = l' := Option.some.inj h
      rw [hb, ih.mp hbs, List.map_cons]
    · intro h
      cases l' with
      | nil => exact absurd h (by simp)
      | cons b bs =>
        rw [List.map_cons] at h
        obtain ⟨hb, hbs⟩ := List.cons.inj h
        rw [hb, ih.mpr hbs]
        rfl

theorem isSome_mapM_iff : (l.mapM f).isSome ↔ ∀ a ∈ l, (f a).isSome := by
  constructor
  · intro h a ha
    obtain ⟨l', hl'⟩ := Option.isSome_iff_exists.mp h
    have hmem : f a ∈ l'.map some := by
      rw [← mapM_eq_some_iff.mp hl']
      exact List.mem_map_of_mem ha
    obtain ⟨b, -, hb⟩ := List.mem_map.mp hmem
    rw [← hb]
    rfl
  · intro h
    induction l with
    | nil => rfl
    | cons a l ih =>
      obtain ⟨b, hb⟩ := Option.isSome_iff_exists.mp (h a List.mem_cons_self)
      obtain ⟨bs, hbs⟩ := Option.isSome_iff_exists.mp
        (ih fun a ha => h a (List.mem_cons_of_mem _ ha))
      rw [List.mapM_cons, hb, hbs]
      rfl

theorem mapM_congr (h : ∀ a ∈ l, f a = g a) : l.mapM f = l.mapM g := by
  induction l with
  | nil => rfl
  | cons a l ih =>
    rw [List.mapM_cons, List.mapM_cons, h a List.mem_cons_self,
      ih fun a ha => h a (List.mem_cons_of_mem _ ha)]

/-- Results may be changed one by one or all at the end. -/
theorem mapM_map_some (f : α → Option β) (g : β → γ) (l : List α) :
    (l.mapM f).map (List.map g) = l.mapM fun a => (f a).map g := by
  induction l with
  | nil => rfl
  | cons a l ih =>
    rw [List.mapM_cons, List.mapM_cons, ← ih]
    cases f a with
    | none => rfl
    | some b => cases l.mapM f <;> rfl

end MapM

namespace Heap

variable {h : Heap} {r : InstanceId} {v x : Value} {depth : Nat}

/-! ### Reaching through slots -/

/-- A value refers to an instance that holds another value in a slot of its own. -/
def Slot (h : Heap) (v x : Value) : Prop := ∃ r, v = .ref r ∧ x ∈ (h.cell r).own

/-- A value reaches another one through own slots, in any number of steps. -/
def Reaches (h : Heap) : Value → Value → Prop := Relation.ReflTransGen h.Slot

/-- Nothing that a value reaches is met within itself. -/
def Acyclic (h : Heap) (v : Value) : Prop :=
  ∀ x, h.Reaches v x → ¬ Relation.TransGen h.Slot x x

theorem slot_ref_iff : h.Slot (.ref r) x ↔ x ∈ (h.cell r).own := by
  constructor
  · rintro ⟨s, hs, hx⟩
    obtain rfl := Value.ref.inj hs
    exact hx
  · intro hx
    exact ⟨r, rfl, hx⟩

theorem not_slot_scalar (s : Scalar) : ¬ h.Slot (.scalar s) x := nofun

theorem Acyclic.slot (hv : h.Acyclic v) (hx : h.Slot v x) : h.Acyclic x :=
  fun y hy => hv y (.head hx hy)

theorem acyclic_scalar (h : Heap) (s : Scalar) : h.Acyclic (.scalar s) := by
  intro x hx hcycle
  rcases hx.cases_head with rfl | ⟨y, hy, -⟩
  · obtain ⟨y, hy, -⟩ := Relation.TransGen.head'_iff.mp hcycle
    exact not_slot_scalar s hy
  · exact not_slot_scalar s hy

theorem acyclic_ref_iff : h.Acyclic (.ref r) ↔ ∀ v ∈ (h.cell r).own, h.Acyclic v := by
  constructor
  · intro hr v hv
    exact hr.slot (slot_ref_iff.mpr hv)
  · intro hslots x hx hcycle
    rcases hx.cases_head with rfl | ⟨v, hv, hx⟩
    · -- A cycle through the instance leaves it by a slot, whose value lies on the cycle too.
      obtain ⟨v, hv, hback⟩ := Relation.TransGen.head'_iff.mp hcycle
      exact hslots v (slot_ref_iff.mp hv) v .refl (.tail' hback hv)
    · exact hslots v (slot_ref_iff.mp hv) x hx hcycle

/-! ### Trees within a bound -/

@[simp] theorem treeWithin_scalar (h : Heap) (depth : Nat) (s : Scalar) :
    h.treeWithin depth (.scalar s) = some (.leaf s) := by
  unfold treeWithin
  rfl

theorem treeWithin_succ_ref (h : Heap) (depth : Nat) (r : InstanceId) :
    h.treeWithin (depth + 1) (.ref r) =
      ((h.cell r).own.mapM (h.treeWithin depth)).map (.node r (h.cell r).type) := by
  rw [treeWithin]

theorem isSome_treeWithin_succ_ref_iff :
    (h.treeWithin (depth + 1) (.ref r)).isSome ↔
      ∀ v ∈ (h.cell r).own, (h.treeWithin depth v).isSome := by
  rw [treeWithin_succ_ref, Option.isSome_map, isSome_mapM_iff]

/-- A larger bound changes nothing for a value that has a tree. -/
theorem treeWithin_succ_of_isSome (hv : (h.treeWithin depth v).isSome) :
    h.treeWithin (depth + 1) v = h.treeWithin depth v := by
  induction depth generalizing v with
  | zero =>
    cases v with
    | scalar s => simp
    | ref r => exact absurd hv (by simp [treeWithin])
  | succ depth ih =>
    cases v with
    | scalar s => simp
    | ref r =>
      rw [isSome_treeWithin_succ_ref_iff] at hv
      have hslots : (h.cell r).own.mapM (h.treeWithin (depth + 1)) =
          (h.cell r).own.mapM (h.treeWithin depth) := mapM_congr fun x hx => ih (hv x hx)
      rw [treeWithin_succ_ref, hslots, ← treeWithin_succ_ref]

/-- What a value with a tree reaches has a tree within a smaller bound. -/
theorem exists_lt_isSome_treeWithin (hx : Relation.TransGen h.Slot v x)
    (hv : (h.treeWithin depth v).isSome) : ∃ d < depth, (h.treeWithin d x).isSome := by
  have hslot : ∀ {v x : Value} {depth : Nat}, h.Slot v x → (h.treeWithin depth v).isSome →
      ∃ d < depth, (h.treeWithin d x).isSome := by
    rintro v x depth ⟨r, rfl, hx⟩ hv
    cases depth with
    | zero => exact absurd hv (by simp [treeWithin])
    | succ depth =>
      exact ⟨depth, Nat.lt_succ_self depth, isSome_treeWithin_succ_ref_iff.mp hv x hx⟩
  induction hx with
  | single hx => exact hslot hx hv
  | tail _ hx ih =>
    obtain ⟨d, hd, hsome⟩ := ih
    obtain ⟨d', hd', hsome'⟩ := hslot hx hsome
    exact ⟨d', by omega, hsome'⟩

/-- A value on a cycle has no tree: each turn of the cycle would need a smaller bound. -/
theorem treeWithin_eq_none_of_cycle (hv : Relation.TransGen h.Slot v v) (depth : Nat) :
    h.treeWithin depth v = none := by
  induction depth using Nat.strongRecOn with
  | _ depth ih =>
    by_contra hne
    obtain ⟨d, hd, hsome⟩ := exists_lt_isSome_treeWithin hv (Option.isSome_iff_ne_none.mpr hne)
    rw [ih d hd] at hsome
    exact absurd hsome (by simp)

theorem acyclic_of_isSome_treeWithin (hv : (h.treeWithin depth v).isSome) : h.Acyclic v := by
  intro x hx hcycle
  rcases Relation.reflTransGen_iff_eq_or_transGen.mp hx with rfl | hx
  · rw [treeWithin_eq_none_of_cycle hcycle] at hv
    exact absurd hv (by simp)
  · obtain ⟨d, -, hsome⟩ := exists_lt_isSome_treeWithin hx hv
    rw [treeWithin_eq_none_of_cycle hcycle] at hsome
    exact absurd hsome (by simp)

theorem own_cell_of_size_le (hr : h.cells.size ≤ r.index) : (h.cell r).own = [] := by
  rw [cell, Array.getElem?_eq_none hr]
  rfl

/-- An acyclic value has a tree, if the instances on the path to it and the bound that is left are
more than the heap has cells. -/
theorem Acyclic.isSome_treeWithin (hv : h.Acyclic v) (path : List Nat)
    (hpath : ∀ i ∈ path, i < h.cells.size ∧ Relation.TransGen h.Slot (.ref ⟨i⟩) v)
    (hnodup : path.Nodup) (hdepth : h.cells.size < path.length + depth) :
    (h.treeWithin depth v).isSome := by
  -- Every step of the walk moves one from the bound to the path.
  induction depth generalizing v path with
  | zero =>
    have hsubset : path ⊆ List.range h.cells.size := fun i hi => List.mem_range.mpr (hpath i hi).1
    have hlength := (List.subperm_of_subset hnodup hsubset).length_le
    rw [List.length_range] at hlength
    omega
  | succ depth ih =>
    cases v with
    | scalar s => simp
    | ref r =>
      rw [isSome_treeWithin_succ_ref_iff]
      intro x hx
      by_cases hr : r.index < h.cells.size
      · have hnew : r.index ∉ path := fun hmem => hv _ .refl (hpath _ hmem).2
        have hslot : h.Slot (.ref r) x := slot_ref_iff.mpr hx
        refine ih (hv.slot hslot) (r.index :: path) ?_ (List.nodup_cons.mpr ⟨hnew, hnodup⟩) ?_
        · intro i hi
          rcases List.mem_cons.mp hi with rfl | hi
          · exact ⟨hr, .single hslot⟩
          · exact ⟨(hpath i hi).1, (hpath i hi).2.tail hslot⟩
        · rw [List.length_cons]
          omega
      · rw [own_cell_of_size_le (Nat.le_of_not_lt hr)] at hx
        exact absurd hx (by simp)

/-! ### Trees -/

/-- The values with a tree are the acyclic ones. -/
theorem isSome_tree?_iff : (h.tree? v).isSome ↔ h.Acyclic v := by
  constructor
  · exact acyclic_of_isSome_treeWithin
  · intro hv
    exact hv.isSome_treeWithin [] (by simp) List.nodup_nil (by simp)

theorem tree?_eq_none_iff : h.tree? v = none ↔ ¬ h.Acyclic v := by
  rw [← isSome_tree?_iff, Option.not_isSome_iff_eq_none]

@[simp] theorem tree?_scalar (h : Heap) (s : Scalar) : h.tree? (.scalar s) = some (.leaf s) :=
  treeWithin_scalar h _ s

/-- The tree of a reference has the trees of the slots under it. -/
theorem tree?_ref (h : Heap) (r : InstanceId) :
    h.tree? (.ref r) = ((h.cell r).own.mapM h.tree?).map (.node r (h.cell r).type) := by
  by_cases hr : h.Acyclic (.ref r)
  · have hwithin : ∀ v ∈ (h.cell r).own, (h.treeWithin h.cells.size v).isSome :=
      isSome_treeWithin_succ_ref_iff.mp (isSome_tree?_iff.mpr hr)
    have hslots : (h.cell r).own.mapM h.tree? =
        (h.cell r).own.mapM (h.treeWithin h.cells.size) :=
      mapM_congr fun v hv => treeWithin_succ_of_isSome (hwithin v hv)
    rw [hslots]
    exact treeWithin_succ_ref h h.cells.size r
  · have hslots : (h.cell r).own.mapM h.tree? = none := by
      rw [← Option.not_isSome_iff_eq_none, isSome_mapM_iff]
      intro hsome
      exact hr (acyclic_ref_iff.mpr fun v hv => isSome_tree?_iff.mp (hsome v hv))
    rw [tree?_eq_none_iff.mpr hr, hslots]
    rfl

/-- Induction over an acyclic value: what holds of all slots of an instance holds of the
instance. -/
@[elab_as_elim]
theorem Acyclic.induction {P : ∀ v, h.Acyclic v → Prop}
    (scalar : ∀ s, P (.scalar s) (acyclic_scalar h s))
    (ref : ∀ r (hr : h.Acyclic (.ref r)),
      (∀ x (hx : x ∈ (h.cell r).own), P x (acyclic_ref_iff.mp hr x hx)) → P (.ref r) hr)
    (v : Value) (hv : h.Acyclic v) : P v hv := by
  have hwithin : ∀ depth v (hv : h.Acyclic v), (h.treeWithin depth v).isSome → P v hv := by
    intro depth
    induction depth with
    | zero =>
      intro v hv hsome
      cases v with
      | scalar s => exact scalar s
      | ref r => exact absurd hsome (by simp [treeWithin])
    | succ depth ih =>
      intro v hv hsome
      cases v with
      | scalar s => exact scalar s
      | ref r =>
        apply ref r hv
        intro x hx
        exact ih x _ (isSome_treeWithin_succ_ref_iff.mp hsome x hx)
  exact hwithin _ v hv (isSome_tree?_iff.mpr hv)

end Heap

end RecordTypes
