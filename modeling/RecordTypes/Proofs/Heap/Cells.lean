import RecordTypes.Heap.Basic

/-!
# Cells of a heap

What making and writing instances does to the cells of a heap: a new instance gets a cell of its own
(`cell_allocate`), and a write changes the cell of one instance (`cell_modify`).

`Heap.Holds` says that a value exists.  In a heap that is `Complete`, whatever is held by a slot
exists, and heaps stay complete if only values that exist are put into slots
(`Complete.allocate`, `Complete.modify`).
-/

namespace RecordTypes.Heap

variable {h h' : Heap} {r s : InstanceId} {v x : Value} {t : TypeId} {own : List Value}
  {members : List InheritedMember}

/-! ### Values that exist -/

/-- A value exists: it is not an object or an instance that is yet to be made. -/
def Holds (h : Heap) : Value → Prop
  | .scalar (.object o) => o.number ≤ h.objects
  | .scalar _ => True
  | .ref r => r.index < h.cells.size

/-- Whatever an instance holds in a slot of its own exists. -/
def Complete (h : Heap) : Prop := ∀ r, h.Holds (.ref r) → ∀ v ∈ (h.cell r).own, h.Holds v

/-- Every value that exists in one heap exists in another one. -/
theorem Holds.mono (hv : h.Holds v) (hsize : h.cells.size ≤ h'.cells.size)
    (hobjects : h.objects ≤ h'.objects) : h'.Holds v := by
  cases v with
  | ref r => exact Nat.lt_of_lt_of_le hv hsize
  | scalar s =>
    cases s with
    | object o => exact Nat.le_trans hv hobjects
    | _ => trivial

/-! ### Making an instance -/

/-- The initial values of inherited members use up the numbers of objects in order. -/
theorem le_initials (objects : Nat) (members : List InheritedMember) :
    objects ≤ (initials objects members).2 := by
  induction members generalizing objects with
  | nil => exact Nat.le_refl _
  | cons m rest ih =>
    unfold initials
    split
    · exact Nat.le_trans (Nat.le_succ _) (ih (objects + 1))
    · exact ih objects

/-- One cell is added for a new instance. -/
theorem size_allocate : (h.allocate t own members).2.cells.size = h.cells.size + 1 :=
  Array.size_push _

/-- The cells are what they were, but for the new one. -/
theorem cell_allocate (r : InstanceId) : (h.allocate t own members).2.cell r =
    if r = h.next then ⟨t, own, (initials h.objects members).1⟩ else h.cell r := by
  show ((h.cells.push ⟨t, own, (initials h.objects members).1⟩)[r.index]?).getD _ = _
  rw [Array.getElem?_push]
  by_cases hr : r.index = h.cells.size
  · have hnext : r = h.next := congrArg InstanceId.mk hr
    rw [if_pos hr, if_pos hnext]
    rfl
  · have hnext : r ≠ h.next := fun heq => hr (congrArg InstanceId.index heq)
    rw [if_neg hr, if_neg hnext]
    rfl

/-- An instance that exists is not the next one to be made. -/
theorem ne_next_of_holds (hr : h.Holds (.ref r)) : r ≠ h.next := by
  rintro rfl
  exact Nat.lt_irrefl _ hr

/-- The new cell holds what was handed over, and an initial value for each inherited member. -/
theorem cell_allocate_next (h : Heap) (t : TypeId) (own : List Value)
    (members : List InheritedMember) :
    (h.allocate t own members).2.cell h.next = ⟨t, own, (initials h.objects members).1⟩ := by
  rw [cell_allocate, if_pos rfl]

/-- The new instance exists. -/
theorem holds_allocate_next (h : Heap) (t : TypeId) (own : List Value)
    (members : List InheritedMember) : (h.allocate t own members).2.Holds (.ref h.next) := by
  show h.cells.size < (h.allocate t own members).2.cells.size
  rw [size_allocate]
  omega

/-- Every instance but the new one was there before. -/
theorem holds_of_holds_allocate (hr : (h.allocate t own members).2.Holds (.ref r))
    (hne : r ≠ h.next) : h.Holds (.ref r) := by
  have hsize : r.index < (h.allocate t own members).2.cells.size := hr
  have hindex : r.index ≠ h.cells.size := fun heq => hne (congrArg InstanceId.mk heq)
  rw [size_allocate] at hsize
  show r.index < h.cells.size
  omega

/-! ### Changing an instance -/

/-- A change to one instance leaves every other one as it is. -/
theorem cell_modify_of_ne (h : Heap) {r s : InstanceId} (f : Cell → Cell) (hs : s ≠ r) :
    (h.modify r f).cell s = h.cell s := by
  have hindex : r.index ≠ s.index := fun heq => hs (congrArg InstanceId.mk heq.symm)
  show ((h.cells.modify r.index f)[s.index]?).getD _ = _
  rw [Array.getElem?_modify, if_neg hindex]
  rfl

/-- The cells are what they were, but for the one that is changed. -/
theorem cell_modify (h : Heap) (r s : InstanceId) (f : Cell → Cell) (hs : h.Holds (.ref s)) :
    (h.modify r f).cell s = if s = r then f (h.cell s) else h.cell s := by
  by_cases hrs : s = r
  · have hsize : s.index < h.cells.size := hs
    rw [if_pos hrs]
    show ((h.cells.modify r.index f)[s.index]?).getD _ = _
    rw [Array.getElem?_modify, cell, Array.getElem?_eq_getElem hsize,
      if_pos (congrArg InstanceId.index hrs).symm]
    rfl
  · rw [if_neg hrs, cell_modify_of_ne h f hrs]

theorem size_modify (h : Heap) (r : InstanceId) (f : Cell → Cell) :
    (h.modify r f).cells.size = h.cells.size := Array.size_modify

/-- A reference to no instance is not affected by a change. -/
theorem cell_modify_of_not_holds (h : Heap) (r : InstanceId) {s : InstanceId} (f : Cell → Cell)
    (hs : ¬ h.Holds (.ref s)) : (h.modify r f).cell s = h.cell s := by
  have hsize : h.cells.size ≤ s.index := Nat.le_of_not_lt hs
  rw [cell, cell, Array.getElem?_eq_none hsize, Array.getElem?_eq_none]
  rw [size_modify]
  exact hsize

/-- A change makes no values and takes none away. -/
theorem holds_modify_iff {f : Cell → Cell} : (h.modify r f).Holds v ↔ h.Holds v :=
  ⟨fun hv => hv.mono (Nat.le_of_eq (size_modify h r f)) (Nat.le_refl _),
    fun hv => hv.mono (Nat.le_of_eq (size_modify h r f).symm) (Nat.le_refl _)⟩

/-! ### Heaps with more cells -/

/-- Instances and objects were added, and the instances there were are what they were. -/
structure Extends (h h' : Heap) : Prop where
  size_le : h.cells.size ≤ h'.cells.size
  objects_le : h.objects ≤ h'.objects
  cell_eq : ∀ r, h.Holds (.ref r) → h'.cell r = h.cell r

theorem Extends.refl (h : Heap) : h.Extends h := ⟨Nat.le_refl _, Nat.le_refl _, fun _ _ => rfl⟩

/-- A value that exists goes on existing. -/
theorem Extends.holds (hh : h.Extends h') (hv : h.Holds v) : h'.Holds v :=
  hv.mono hh.size_le hh.objects_le

/-- A new instance leaves all others as they are. -/
theorem extends_allocate : h.Extends (h.allocate t own members).2 where
  size_le := by
    rw [size_allocate]
    omega
  objects_le := le_initials h.objects members
  cell_eq r hr := by rw [cell_allocate, if_neg (ne_next_of_holds hr)]

/-- A new object leaves all instances as they are. -/
theorem extends_newObject : h.Extends h.newObject.2 where
  size_le := Nat.le_refl _
  objects_le := Nat.le_succ _
  cell_eq _ _ := rfl

/-- A heap stays complete when an instance is made of values that exist. -/
theorem Complete.allocate (hh : h.Complete) (hown : ∀ v ∈ own, h.Holds v) :
    (h.allocate t own members).2.Complete := by
  intro r hr v hv
  apply extends_allocate.holds
  rw [cell_allocate] at hv
  split at hv
  · exact hown v hv
  · next hne => exact hh r (holds_of_holds_allocate hr hne) v hv

/-- A heap stays complete when an instance is changed to hold values that exist. -/
theorem Complete.modify (hh : h.Complete) {f : Cell → Cell}
    (hown : ∀ c, (∀ x ∈ c.own, h.Holds x) → ∀ x ∈ (f c).own, h.Holds x) :
    (h.modify r f).Complete := by
  intro s hs v hv
  rw [holds_modify_iff] at hs ⊢
  rw [cell_modify h r s f hs] at hv
  split at hv
  · exact hown _ (hh s hs) v hv
  · exact hh s hs v hv

end RecordTypes.Heap
