import RecordTypes.Proofs.World.Fresh

/-!
# Slots and the names for them

A slot of an instance is one of its own or an inherited one.  What was put into a slot is what it
holds then, and every other slot holds what it did (`Heap.get?_put`, `Heap.get?_put_of_ne`).

A name leads to a slot, directly (`World.place?`) or through a view (`World.placeVia?`), and what is
read under the name is what that slot holds.  Where a name leads is a matter of types, so no write
has an influence on it (`World.place?_congr`).  Reading and writing find the slot of a property in
different ways, one by its place in the layout and the other by its position (`World.written?`);
they agree on it where every property stands at its position (`World.Write.written?_eq_place?`).
-/

namespace RecordTypes

/-- Where a slot of an instance is. -/
inductive Place where
  | own (i : Nat)
  | inherited (i : Nat)
  deriving DecidableEq

/-- What the slot at a place holds. -/
def Cell.get? (c : Cell) : Place → Option Value
  | .own i => c.own[i]?
  | .inherited i => c.inherited[i]?

namespace Heap

/-- Writes the slot at a place. -/
def put (h : Heap) (r : InstanceId) : Place → Value → Heap
  | .own i, v => h.setOwn r i v
  | .inherited i, v => h.setInherited r i v

variable {h : Heap} {r s : InstanceId} {place other : Place} {v : Value}

theorem cell_put_of_ne (hs : s ≠ r) : (h.put r place v).cell s = h.cell s := by
  cases place with
  | own i => exact cell_modify_of_ne h _ hs
  | inherited i => exact cell_modify_of_ne h _ hs

/-- Writing a slot does not change the type of any instance. -/
theorem type_cell_put (h : Heap) (r s : InstanceId) (place : Place) (v : Value) :
    ((h.put r place v).cell s).type = (h.cell s).type := by
  by_cases hs : h.Holds (.ref s)
  · cases place with
    | own i => exact World.type_cell_modify (w := { heap := h }) (fun _ => rfl) hs
    | inherited i => exact World.type_cell_modify (w := { heap := h }) (fun _ => rfl) hs
  · cases place with
    | own i => exact congrArg Cell.type (cell_modify_of_not_holds h r _ hs)
    | inherited i => exact congrArg Cell.type (cell_modify_of_not_holds h r _ hs)

/-- A slot holds what was put into it. -/
theorem get?_put (hr : h.Holds (.ref r)) (hplace : ((h.cell r).get? place).isSome = true) :
    ((h.put r place v).cell r).get? place = some v := by
  cases place with
  | own i =>
    have hi : i < (h.cell r).own.length := by simpa [Cell.get?] using hplace
    rw [put, setOwn, cell_modify _ _ _ _ hr, if_pos rfl]
    exact List.getElem?_set_self hi
  | inherited i =>
    have hi : i < (h.cell r).inherited.length := by simpa [Cell.get?] using hplace
    rw [put, setInherited, cell_modify _ _ _ _ hr, if_pos rfl]
    exact List.getElem?_set_self hi

/-- Every other slot holds what it did. -/
theorem get?_put_of_ne (hr : h.Holds (.ref r)) (hne : s = r → other ≠ place) :
    ((h.put r place v).cell s).get? other = (h.cell s).get? other := by
  by_cases hs : s = r
  · subst hs
    have hother : other ≠ place := hne rfl
    cases place with
    | own i =>
      rw [put, setOwn, cell_modify _ _ _ _ hr, if_pos rfl]
      cases other with
      | own j => exact List.getElem?_set_ne fun heq => hother (congrArg Place.own heq.symm)
      | inherited j => rfl
    | inherited i =>
      rw [put, setInherited, cell_modify _ _ _ _ hr, if_pos rfl]
      cases other with
      | own j => rfl
      | inherited j =>
        exact List.getElem?_set_ne fun heq => hother (congrArg Place.inherited heq.symm)
  · rw [cell_put_of_ne hs]

end Heap

namespace World

variable {w w' : World} {r : InstanceId} {view : View} {name : String} {v : Value} {heap : Heap}
  {place : Place}

/-! ### Where a name leads -/

/-- The place that a name leads to. -/
def place? (w : World) (r : InstanceId) (name : String) : Option Place :=
  match (w.layoutOf? r).bind (·.index? name) with
  | some i => some (.own i)
  | none => (w.inheritedIdx? r none name).map .inherited

/-- The place that a name leads to through a view. -/
def placeVia? (w : World) (view : View) (name : String) : Option Place :=
  (w.inheritedIdx? view.target view.ancestor name).map .inherited

section Congr

variable (htypes : w'.types = w.types)
include htypes

theorem layoutOf?_congr (htype : (w'.heap.cell r).type = (w.heap.cell r).type) :
    w'.layoutOf? r = w.layoutOf? r := by
  rw [layoutOf?, layoutOf?, htypes, htype]

theorem inheritedIdx?_congr (htype : (w'.heap.cell r).type = (w.heap.cell r).type)
    (ancestor : Option TypeId) (name : String) :
    w'.inheritedIdx? r ancestor name = w.inheritedIdx? r ancestor name := by
  have hvisible : w'.isVisible ancestor = w.isVisible ancestor := by
    funext m
    unfold isVisible
    rw [htypes]
  rw [inheritedIdx?, inheritedIdx?, inheritedOf, inheritedOf, layoutOf?_congr htypes htype,
    hvisible]

theorem place?_congr (htype : (w'.heap.cell r).type = (w.heap.cell r).type) (name : String) :
    w'.place? r name = w.place? r name := by
  rw [place?, place?, layoutOf?_congr htypes htype, inheritedIdx?_congr htypes htype]

theorem placeVia?_congr
    (htype : (w'.heap.cell view.target).type = (w.heap.cell view.target).type) (name : String) :
    w'.placeVia? view name = w.placeVia? view name := by
  rw [placeVia?, placeVia?, inheritedIdx?_congr htypes htype]

end Congr

/-! ### Reading -/

theorem slot?_eq (w : World) (r : InstanceId) (name : String) :
    w.slot? r name = (w.place? r name).bind (w.heap.cell r).get? := by
  unfold slot? place?
  rcases (w.layoutOf? r).bind (·.index? name) with _ | i
  · dsimp only
    rw [readInherited]
    rcases w.inheritedIdx? r none name with _ | i <;> rfl
  · rfl

theorem readInherited_eq (w : World) (view : View) (name : String) :
    w.readInherited view.target view.ancestor name =
      (w.placeVia? view name).bind (w.heap.cell view.target).get? := by
  unfold readInherited placeVia?
  rcases w.inheritedIdx? view.target view.ancestor name with _ | i <;> rfl

theorem read_eq_ok (hplace : w.place? r name = some place)
    (hv : (w.heap.cell r).get? place = some v) : w.read r name = .ok v := by
  rw [read, slot?_eq, hplace, Option.bind_some, hv]

theorem readVia_eq_ok (hplace : w.placeVia? view name = some place)
    (hv : (w.heap.cell view.target).get? place = some v) : w.readVia view name = .ok v := by
  rw [readVia, readInherited_eq, hplace, Option.bind_some, hv]

/-- What is read under a name depends on no slot but the one that the name leads to. -/
theorem read_congr (htypes : w'.types = w.types)
    (htype : (w'.heap.cell r).type = (w.heap.cell r).type)
    (hslot : ∀ place, w.place? r name = some place →
      (w'.heap.cell r).get? place = (w.heap.cell r).get? place) :
    w'.read r name = w.read r name := by
  have hsame : w'.slot? r name = w.slot? r name := by
    rw [slot?_eq, slot?_eq, place?_congr htypes htype]
    exact Option.bind_congr hslot
  rw [read, read, hsame, ownerName, ownerName, htypes, htype]

theorem readVia_congr (htypes : w'.types = w.types)
    (htype : (w'.heap.cell view.target).type = (w.heap.cell view.target).type)
    (hslot : ∀ place, w.placeVia? view name = some place →
      (w'.heap.cell view.target).get? place = (w.heap.cell view.target).get? place) :
    w'.readVia view name = w.readVia view name := by
  have hsame : w'.readInherited view.target view.ancestor name =
      w.readInherited view.target view.ancestor name := by
    rw [readInherited_eq, readInherited_eq, placeVia?_congr htypes htype]
    exact Option.bind_congr hslot
  rw [readVia, readVia, hsame, htypes]

/-! ### Writing -/

/-- The name of a property leads to an own slot. -/
theorem exists_place?_of_property? {l : Layout} {p : Property} (hl : w.layoutOf? r = some l)
    (hp : l.property? name = some p) :
    ∃ i : Nat, l.properties[i]? = some p ∧ w.place? r name = some (.own i) := by
  obtain ⟨i, hi, hp⟩ := Option.bind_eq_some_iff.mp hp
  refine ⟨i, hp, ?_⟩
  rw [place?, hl, Option.bind_some, hi]

theorem exists_place?_of_mem_properties {l : Layout} {p : Property} (hl : w.layoutOf? r = some l)
    (hp : p ∈ l.properties) : ∃ i, w.place? r p.name = some (.own i) := by
  rcases hproperty : l.property? p.name with _ | q
  · have hname := Layout.index?_eq_none_iff.mp (Layout.index?_of_property?_eq_none hproperty)
    exact absurd (List.mem_map_of_mem hp) hname
  · obtain ⟨i, -, hi⟩ := exists_place?_of_property? hl hproperty
    exact ⟨i, hi⟩

/-- The names of two properties that have one position lead to two places. -/
theorem place?_of_colliding {s t : TypeId} {isMutable : Bool} {shape : Shape}
    (hl : w.layoutOf? r = some (.colliding s t isMutable shape)) :
    w.place? r "a" = some (.own 0) ∧ w.place? r "b" = some (.own 1) := by
  obtain ⟨hfirst, hsecond⟩ := Layout.index?_colliding s t isMutable shape
  rw [place?, place?, hl, Option.bind_some, Option.bind_some, hfirst, hsecond]
  exact ⟨rfl, rfl⟩

/-- A view leads to inherited slots only. -/
theorem placeVia?_ne_own (w : World) (view : View) (name : String) (i : Nat) :
    w.placeVia? view name ≠ some (.own i) := by
  intro hplace
  obtain ⟨j, -, hj⟩ := Option.map_eq_some_iff.mp hplace
  exact absurd hj nofun

/-- A name that no property has leads to an inherited slot, if anywhere. -/
theorem place?_of_property?_eq_none (h : (w.layoutOf? r).bind (·.property? name) = none) :
    w.place? r name = (w.inheritedIdx? r none name).map .inherited := by
  have hindex : (w.layoutOf? r).bind (·.index? name) = none := by
    rcases hl : w.layoutOf? r with _ | l
    · rfl
    · rw [hl] at h
      exact Layout.index?_of_property?_eq_none h
  rw [place?, hindex]

/-- The place that is written under a name: that at the position of the property. -/
def written? (w : World) (r : InstanceId) (name : String) : Option Place :=
  match (w.layoutOf? r).bind (·.property? name) with
  | some p => some (.own p.position)
  | none => (w.inheritedIdx? r none name).map .inherited

theorem exists_written?_of_mem_properties {l : Layout} {p : Property}
    (hl : w.layoutOf? r = some l) (hp : p ∈ l.properties) :
    ∃ i, w.written? r p.name = some (.own i) := by
  rcases hproperty : l.property? p.name with _ | q
  · have hname := Layout.index?_eq_none_iff.mp (Layout.index?_of_property?_eq_none hproperty)
    exact absurd (List.mem_map_of_mem hp) hname
  · exact ⟨q.position, by rw [written?, hl, Option.bind_some, hproperty]⟩

/-- A property is written where it is read, if every property stands at its position. -/
theorem written?_eq_place? {l : Layout} (hl : w.layoutOf? r = some l) (hregular : l.IsRegular)
    (name : String) : w.written? r name = w.place? r name := by
  unfold written?
  rcases hp : (w.layoutOf? r).bind (·.property? name) with _ | p
  · exact (place?_of_property?_eq_none hp).symm
  · rw [hl] at hp
    obtain ⟨i, hi, hplace⟩ := exists_place?_of_property? hl hp
    rw [hplace]
    exact congrArg (fun j => some (Place.own j)) (hregular i p hi).1

section Fills

variable {l : Layout} (hl : w.layoutOf? r = some l)
include hl

theorem exists_of_writeInherited (hfills : w.Fills l (w.heap.cell r)) {i : Nat}
    (h : w.writeInherited r i name v = (.ok (), heap)) :
    ((w.heap.cell r).get? (.inherited i)).isSome = true ∧
      heap = w.heap.put r (.inherited i) v := by
  obtain ⟨m, hm, -, -, hheap⟩ := writeInherited_eq_ok_iff.mp h
  have hi : i < l.inherited.length := by
    rw [inheritedOf_of_layoutOf? hl] at hm
    exact (List.getElem?_eq_some_iff.mp hm).1
  rw [hfills.inherited.length_eq] at hi
  exact ⟨by simpa [Cell.get?] using hi, hheap.symm⟩

/-- A write that goes through puts the value into the slot that is written under the name. -/
theorem exists_of_write (hfills : w.Fills l (w.heap.cell r))
    (h : w.write r name v = (.ok (), heap)) :
    ∃ place, w.written? r name = some place ∧ ((w.heap.cell r).get? place).isSome = true ∧
      heap = w.heap.put r place v := by
  unfold written?
  rcases hp : (w.layoutOf? r).bind (·.property? name) with _ | p
  · rcases hi : w.inheritedIdx? r none name with _ | i
    · rw [write_eq_unknownProperty hp hi] at h
      exact absurd h nofun
    · rw [write_eq_writeInherited hp hi] at h
      exact ⟨_, rfl, exists_of_writeInherited hl hfills h⟩
  · obtain ⟨-, -, hposition, rfl⟩ := (write_eq_ok_iff_of_property? hp).mp h
    exact ⟨_, rfl, by simpa [Cell.get?] using hposition, rfl⟩

theorem exists_of_writeVia {view : View} (hview : view.target = r)
    (hfills : w.Fills l (w.heap.cell r)) (h : w.writeVia view name v = (.ok (), heap)) :
    ∃ place, w.placeVia? view name = some place ∧ ((w.heap.cell r).get? place).isSome = true ∧
      heap = w.heap.put r place v := by
  subst hview
  unfold writeVia at h
  rcases hi : w.inheritedIdx? view.target view.ancestor name with _ | i
  · rw [hi] at h
    exact absurd h nofun
  · rw [hi] at h
    refine ⟨.inherited i, ?_, exists_of_writeInherited hl hfills h⟩
    rw [placeVia?, hi, Option.map_some]

end Fills

/-! ### Writes and what is read after them -/

namespace Write

/-- Reads what is to be written, in the way it is to be written. -/
def read (w : World) : Write → Except Fault Value
  | direct r name _ => w.read r name
  | via view name _ => w.readVia view name

/-- The place that is read in this way. -/
def place? (w : World) : Write → Option Place
  | direct r name _ => w.place? r name
  | via view name _ => w.placeVia? view name

/-- The place that is to be written. -/
def written? (w : World) : Write → Option Place
  | direct r name _ => w.written? r name
  | via view name _ => w.placeVia? view name

/-- What is written is the place that is read, if every property stands at its position. -/
theorem written?_eq_place? {x : Write} {l : Layout} (hl : w.layoutOf? x.target = some l)
    (hregular : l.IsRegular) : x.written? w = x.place? w := by
  cases x with
  | direct r name v => exact World.written?_eq_place? hl hregular name
  | via view name v => rfl

theorem place?_congr {x : Write} (htypes : w'.types = w.types)
    (htype : (w'.heap.cell x.target).type = (w.heap.cell x.target).type) :
    x.place? w' = x.place? w := by
  cases x with
  | direct r name v => exact World.place?_congr htypes htype name
  | via view name v => exact World.placeVia?_congr htypes htype name

theorem read_eq_ok {x : Write} (hplace : x.place? w = some place)
    (hv : (w.heap.cell x.target).get? place = some v) : x.read w = .ok v := by
  cases x with
  | direct r name v => exact World.read_eq_ok hplace hv
  | via view name v => exact World.readVia_eq_ok hplace hv

theorem read_congr {x : Write} (htypes : w'.types = w.types)
    (htype : (w'.heap.cell x.target).type = (w.heap.cell x.target).type)
    (hslot : ∀ place, x.place? w = some place →
      (w'.heap.cell x.target).get? place = (w.heap.cell x.target).get? place) :
    x.read w' = x.read w := by
  cases x with
  | direct r name v => exact World.read_congr htypes htype hslot
  | via view name v => exact World.readVia_congr htypes htype hslot

theorem exists_of_outcome {x : Write} {l : Layout} (hl : w.layoutOf? x.target = some l)
    (hfills : w.Fills l (w.heap.cell x.target)) (h : x.outcome w = (.ok (), heap)) :
    ∃ place, x.written? w = some place ∧ ((w.heap.cell x.target).get? place).isSome = true ∧
      heap = w.heap.put x.target place x.value := by
  cases x with
  | direct r name v => exact exists_of_write hl hfills h
  | via view name v => exact exists_of_writeVia hl rfl hfills h

end Write

end World

end RecordTypes
