import RecordTypes.Proofs.Universe.Arrange
import RecordTypes.Proofs.World.Sizes

/-!
# Writing at positions

A property is read at its place in the layout and written at its position.  These are the same where
the positions are the numbers from 0 on, each of them once.  Layouts may be made from properties
with any positions, though, and then a write puts the value into the slot of whatever property has
the position for its place: it is read under the name of that property, and under no other name
anything changes (`World.Steps.write_at_position`).
-/

namespace RecordTypes.World

variable {w w' : World} {r : InstanceId} {l : Layout} {p q : Property} {name : String} {v : Value}
  {heap : Heap}

section Distinct

variable (hl : w.layoutOf? r = some l) (hnames : (l.properties.map (·.name)).Nodup)
include hl hnames

/-- Where no name repeats, the name of a property leads to the slot at its place. -/
theorem place?_of_getElem? {i : Nat} (hp : l.properties[i]? = some p) :
    w.place? r p.name = some (.own i) := by
  rw [place?, hl, Option.bind_some, Layout.index?_of_nodup hnames hp]

omit hnames in
/-- A name that leads to the slot at a place is that of the property there. -/
theorem name_eq_of_place? {i : Nat} (hp : l.properties[i]? = some p)
    (hplace : w.place? r name = some (.own i)) : p.name = name := by
  unfold place? at hplace
  rw [hl, Option.bind_some] at hplace
  rcases hindex : l.index? name with _ | j
  · rw [hindex] at hplace
    obtain ⟨k, -, hk⟩ := Option.map_eq_some_iff.mp hplace
    cases hk
  · rw [hindex] at hplace
    obtain rfl := Place.own.inj (Option.some.inj hplace)
    have hname := Layout.getElem?_name_of_index? hindex
    rw [List.getElem?_map, hp] at hname
    exact Option.some.inj hname

/-- What is put into the slot at the place of a property is read under its name, and under every
other name what was read before is read. -/
theorem read_put (hr : w.heap.Holds (.ref r)) {i : Nat} (hp : l.properties[i]? = some p)
    (hslot : i < (w.heap.cell r).own.length) (htypes : w'.types = w.types)
    (hheap : w'.heap = w.heap.put r (.own i) v) :
    w'.read r p.name = .ok v ∧ ∀ other, other ≠ p.name → w'.read r other = w.read r other := by
  have htype : (w'.heap.cell r).type = (w.heap.cell r).type := by
    rw [hheap, Heap.type_cell_put]
  constructor
  · have hplace : w'.place? r p.name = some (.own i) := by
      rw [place?_congr htypes htype, place?_of_getElem? hl hnames hp]
    apply read_eq_ok hplace
    rw [hheap]
    exact Heap.get?_put hr (by simpa [Cell.get?] using hslot)
  · intro other hother
    apply read_congr htypes htype
    intro place hplace
    rw [hheap]
    apply Heap.get?_put_of_ne hr
    rintro - rfl
    exact hother (name_eq_of_place? hl hp hplace).symm

end Distinct

/-- An instance of a record type that was laid out from properties with distinct names.  A write of
a property that goes through puts the value into the slot of the property that has its position for
its place: the value is read under the name of that one, and under all other names what was read
before is read.  Every property has its own position for its place if the positions are the numbers
from 0 on, each of them once, and only then. -/
theorem Steps.write_at_position (h : Steps {} w) (hr : w.heap.Holds (.ref r))
    {properties : List Property} {parent : Option TypeId} {inherited : List InheritedMember}
    {isMutable : Bool} {shape : Shape}
    (harranged : l = .arrange properties parent inherited isMutable shape)
    (hl : w.layoutOf? r = some l) (hnames : (properties.map (·.name)).Nodup) :
    (∀ name p v heap, l.property? name = some p → w.write r name v = (.ok (), heap) →
      ∃ q, l.properties[p.position]? = some q ∧ World.read { w with heap } r q.name = .ok v ∧
        ∀ other, other ≠ q.name → World.read { w with heap } r other = w.read r other) ∧
    ((∀ p ∈ l.properties, l.properties[p.position]? = some p) ↔
      (properties.map (·.position)).Perm (List.range properties.length)) := by
  have hnames' : (l.properties.map (·.name)).Nodup := by
    rw [harranged]
    exact Layout.nodup_name_arrange hnames
  refine ⟨fun name p v heap hp hwrite => ?_, ?_⟩
  · have hproperty : (w.layoutOf? r).bind (·.property? name) = some p := by
      rw [hl]
      exact hp
    obtain ⟨-, -, hslot, rfl⟩ := (write_eq_ok_iff_of_property? hproperty).mp hwrite
    have hposition : p.position < l.properties.length := by
      rw [h.length_own hr, Universe.properties_of_layout? hl] at hslot
      exact hslot
    have hq : l.properties[p.position]? = some l.properties[p.position] :=
      List.getElem?_eq_getElem hposition
    exact ⟨_, hq, read_put hl hnames' hr hq hslot rfl rfl⟩
  · rw [Layout.getElem?_position_iff hnames', Layout.position_eq_iff harranged]

/-! ### Two properties at one position -/

/-- The layout of two numbers at one position. -/
def sharedLayout : Layout :=
  .colliding (.builtin .int32) (.builtin .int32) true
    (.closed .object [.builtin .int32, .builtin .int32])

/-- One instance of two numbers at one position: 1 and 2. -/
def sharedWorld : World where
  types := Universe.add {} ⟨"Shared", .record sharedLayout⟩
  heap := { cells := #[⟨.declared 0, [.scalar (.int32 1), .scalar (.int32 2)], []⟩] }

theorem steps_sharedWorld : Steps {} sharedWorld := by
  let declared : World := { types := sharedWorld.types }
  have hrecord : Step {} declared := .declareRecord "Shared" fun p hp =>
    absurd hp (Option.not_mem_none p)
  have hfits : declared.checkArguments sharedLayout.constructor
      [.scalar (.int32 1), .scalar (.int32 2)] = .ok () := by
    rw [sharedLayout, Layout.constructor_colliding]
    rfl
  have hlength : 2 = sharedLayout.constructor.length := by
    rw [sharedLayout, Layout.constructor_colliding]
    rfl
  have hcreate : declared.create (.declared 0) [.scalar (.int32 1), .scalar (.int32 2)] =
      (.ok ⟨0⟩, sharedWorld.heap) :=
    create_eq_ok_iff.mpr ⟨sharedLayout, rfl, rfl, hlength, hfits, rfl⟩
  exact (Relation.ReflTransGen.single hrecord).tail (step_create (by simp [Heap.Holds]) hcreate)

/-- The instance once 9 was written under the name of the second number. -/
def sharedWorldWritten : World :=
  { sharedWorld with heap := sharedWorld.heap.setOwn ⟨0⟩ 0 (.scalar (.int32 9)) }

/-- The write goes through. -/
theorem write_sharedWorld :
    sharedWorld.write ⟨0⟩ "b" (.scalar (.int32 9)) = (.ok (), sharedWorldWritten.heap) := by
  have hproperty : (sharedWorld.layoutOf? ⟨0⟩).bind (·.property? "b") =
      some (Layout.atZero "b" (.builtin .int32)) := Layout.property?_colliding _ _ _ _
  exact (write_eq_ok_iff_of_property? hproperty).mpr ⟨rfl, rfl, Nat.zero_lt_two, rfl⟩

/-- The value written under the name of the second number is read under the name of the first. -/
theorem Steps.write_at_shared_position : Steps {} sharedWorld ∧
    sharedWorld.write ⟨0⟩ "b" (.scalar (.int32 9)) = (.ok (), sharedWorldWritten.heap) ∧
    sharedWorldWritten.read ⟨0⟩ "a" = .ok (.scalar (.int32 9)) ∧
    sharedWorldWritten.read ⟨0⟩ "b" = sharedWorld.read ⟨0⟩ "b" := by
  have hnames : ([Layout.atZero "a" (.builtin .int32),
      Layout.atZero "b" (.builtin .int32)].map (·.name)).Nodup := by decide
  obtain ⟨hwrites, -⟩ := Steps.write_at_position (l := sharedLayout) (r := ⟨0⟩) steps_sharedWorld
    Nat.zero_lt_one rfl rfl hnames
  obtain ⟨q, hq, hread, hother⟩ := hwrites "b" _ _ _ (Layout.property?_colliding _ _ _ _)
    write_sharedWorld
  rw [sharedLayout, Layout.properties_colliding] at hq
  obtain rfl : Layout.atZero "a" (.builtin .int32) = q := Option.some.inj hq
  exact ⟨steps_sharedWorld, write_sharedWorld, hread, hother "b" (by decide)⟩

/-- Where two properties have one position, the name that a value was written under does not lead to
it, and another name does. -/
theorem read_differs_at_shared_position : Steps {} sharedWorld ∧
    sharedWorld.heap.Holds (.ref ⟨0⟩) ∧
    sharedWorld.layoutOf? ⟨0⟩ = some (.arrange
      [{ name := "a", type := .builtin .int32, position := 0, canWrite := true },
        { name := "b", type := .builtin .int32, position := 0, canWrite := true }] none [] true
      (.closed .object [.builtin .int32, .builtin .int32])) ∧
    sharedWorld.read ⟨0⟩ "a" = .ok (.scalar (.int32 1)) ∧
    sharedWorld.write ⟨0⟩ "b" (.scalar (.int32 9)) = (.ok (), sharedWorldWritten.heap) ∧
    sharedWorldWritten.read ⟨0⟩ "b" = .ok (.scalar (.int32 2)) ∧
    sharedWorldWritten.read ⟨0⟩ "a" = .ok (.scalar (.int32 9)) := by
  have hl : sharedWorld.layoutOf? ⟨0⟩ = some sharedLayout := rfl
  have hl' : sharedWorldWritten.layoutOf? ⟨0⟩ = some sharedLayout := rfl
  obtain ⟨hbefore, -⟩ := place?_of_colliding hl
  obtain ⟨hfirst, hsecond⟩ := place?_of_colliding hl'
  exact ⟨steps_sharedWorld, Nat.zero_lt_one, hl, read_eq_ok hbefore rfl, write_sharedWorld,
    read_eq_ok hsecond rfl, read_eq_ok hfirst rfl⟩

end RecordTypes.World
