import RecordTypes.Proofs.World.Slots

/-!
# What a write changes

A write of an instance changes one slot if it goes through, and none if it is refused.  What it
changes is the slot that is written under the name (`World.Write.Puts`), and the value is read back
if reading leads there, too.  This is so for members that are seen through views and for all types
that a registry built from its own templates, but not where two properties have one position
(`Registry.read_of_colliding`).

A property may have the name of an inherited member.  The member keeps a slot of its own then, which
is out of reach under the name and in reach of views.  So a write under the name is not seen by any
view, and a write through a view is not seen under the name (`Registry.Session.write_one_slot`).
-/

namespace RecordTypes

namespace World.Write

variable {w : World} {x : Write} {s : InstanceId} {place other : Place}

/-- A request puts its value into the slot that is written under the name and leaves every other
slot as it is.  What is read in the same way is the value after that if reading leads to this slot,
and what it was if it leads elsewhere. -/
structure Puts (w : World) (x : Write) (place : Place) : Prop where
  written : x.written? w = some place
  slot : ((x.after w).heap.cell x.target).get? place = some x.value
  others : ∀ s other, (s = x.target → other ≠ place) →
    ((x.after w).heap.cell s).get? other = (w.heap.cell s).get? other
  read : x.place? w = some place → x.read (x.after w) = .ok x.value
  read_elsewhere : x.place? w ≠ some place → x.read (x.after w) = x.read w

section Filled

variable {l : Layout} (hr : w.heap.Holds (.ref x.target)) (hl : w.layoutOf? x.target = some l)
  (hfills : w.Fills l (w.heap.cell x.target))
include hl hfills

/-- A request puts the value into the slot that is written under the name, or changes nothing. -/
theorem heap_after : (x.after w).heap = w.heap ∨ ∃ place, x.written? w = some place ∧
    (x.after w).heap = w.heap.put x.target place x.value := by
  rcases houtcome : x.outcome w with ⟨e | _, heap⟩
  · left
    rw [after_of_error (congrArg Prod.fst houtcome)]
  · obtain ⟨place, hplace, -, hheap⟩ := exists_of_outcome hl hfills houtcome
    rw [after_of_eq houtcome]
    exact .inr ⟨place, hplace, hheap⟩

theorem type_cell_after (s : InstanceId) :
    ((x.after w).heap.cell s).type = (w.heap.cell s).type := by
  rcases heap_after hl hfills with hheap | ⟨place, -, hheap⟩
  · rw [hheap]
  · rw [hheap, Heap.type_cell_put]

include hr

/-- No slot is changed but the one that is written under the name. -/
theorem get?_after (hne : s = x.target → x.written? w ≠ some other) :
    ((x.after w).heap.cell s).get? other = (w.heap.cell s).get? other := by
  rcases heap_after hl hfills with hheap | ⟨place, hplace, hheap⟩
  · rw [hheap]
  · rw [hheap]
    apply Heap.get?_put_of_ne hr
    rintro hs rfl
    exact hne hs hplace

/-- A request that goes through puts its value into one slot. -/
theorem exists_puts (h : (x.outcome w).1 = .ok ()) : ∃ place, x.Puts w place := by
  have houtcome : x.outcome w = (.ok (), (x.outcome w).2) := Prod.ext h rfl
  obtain ⟨place, hwritten, hsome, hheap⟩ := exists_of_outcome hl hfills houtcome
  have hslot : ((x.after w).heap.cell x.target).get? place = some x.value := by
    rw [after_of_eq houtcome, hheap]
    exact Heap.get?_put hr hsome
  have htype := type_cell_after hl hfills x.target
  refine ⟨place, hwritten, hslot, fun s other hne => ?_, fun hplace => ?_, fun hplace => ?_⟩
  · apply get?_after hr hl hfills
    rintro hs hsame
    exact hne hs (Option.some.inj (hsame.symm.trans hwritten))
  · exact read_eq_ok ((place?_congr (types_after w x) htype).trans hplace) hslot
  · apply read_congr (types_after w x) htype
    intro other hother
    apply get?_after hr hl hfills
    rintro - hsame
    exact hplace (hother.trans (hsame.symm.trans hwritten))

end Filled

end World.Write

namespace Registry

open World (Write)

variable {history : List Exchange} {r : Registry Unit} {w : World} {t : TypeId}

/-- After every session, a write of an instance of a type that was built changes one slot if it goes
through: the one that is written under the name.  This is the slot that is read in the same way if
the write goes through a view, or if the registry built the type from its own templates.  A write
that is refused changes nothing.  Writing a property has no influence on what any view reads, and
writing a member of its name through a view has none on what is read under the name. -/
theorem Session.write_one_slot (h : Session history r w) (ht : Built history w t) {s : InstanceId}
    (hs : w.heap.Holds (.ref s)) (htype : (w.heap.cell s).type = t) :
    (∀ x : Write, x.target = s →
      ((x.outcome w).1 = .ok () → ∃ place, x.Puts w place) ∧
      (∀ e, (x.outcome w).1 = .error e → x.after w = w) ∧
      (BuiltAlone history r w t ∨ (∃ view name v, x = .via view name v) →
        x.written? w = x.place? w)) ∧
    ∀ p ∈ w.types.properties t,
      (∀ v view name, ((Write.direct s p.name v).after w).readVia view name =
        w.readVia view name) ∧
      ∀ v ancestor, ((Write.via ⟨s, ancestor⟩ p.name v).after w).read s p.name =
        w.read s p.name := by
  obtain ⟨l, hl, -, hinstances⟩ := h.fills ht
  obtain ⟨hlayout, hfills⟩ := hinstances s hs htype
  refine ⟨fun x hx => ?_, fun p hp => ?_⟩
  · subst hx
    refine ⟨Write.exists_puts hs hlayout hfills, fun e => Write.after_of_error, ?_⟩
    rintro (halone | ⟨view, name, v, rfl⟩)
    · exact Write.written?_eq_place? hlayout (h.isRegular halone hl)
    · rfl
  · -- The name of the property leads to an own slot, and views lead to inherited ones.
    rw [Universe.properties_of_layout? hl] at hp
    obtain ⟨i, hi⟩ := World.exists_place?_of_mem_properties hlayout hp
    obtain ⟨j, hj⟩ := World.exists_written?_of_mem_properties hlayout hp
    refine ⟨fun v view name => ?_, fun v ancestor => ?_⟩
    · let x : Write := .direct s p.name v
      apply World.readVia_congr (x.types_after w) (Write.type_cell_after (x := x) hlayout hfills _)
      intro place hplace
      apply Write.get?_after (x := x) hs hlayout hfills
      rintro - hsame
      obtain rfl : Place.own j = place := Option.some.inj (hj.symm.trans hsame)
      exact w.placeVia?_ne_own view name j hplace
    · let x : Write := .via ⟨s, ancestor⟩ p.name v
      apply World.read_congr (x.types_after w) (Write.type_cell_after (x := x) hlayout hfills _)
      intro place hplace
      apply Write.get?_after (x := x) hs hlayout hfills
      rintro - hsame
      obtain rfl : Place.own i = place := Option.some.inj (hi.symm.trans hplace)
      exact w.placeVia?_ne_own _ _ i hsame

/-- A number and, behind it, a text that is inherited under the same name.  Either can be written,
and is read back where it was written, and the other one is still read as before. -/
theorem Session.write_one_slot_of_two :
    let direct : Write := .direct ⟨0⟩ "a" (.scalar (.int32 8))
    let view : View := ⟨⟨0⟩, .declared 0⟩
    let via : Write := .via view "a" (.scalar (.string "x"))
    let fields : Fields TypeId := ⟨[("a", .builtin .int32)], by decide⟩
    let options : Options := { isMutable := true, parent := some (.declared 0) }
    let values : Fields Value := ⟨[("a", .scalar (.int32 7))], by decide⟩
    let history : List Exchange := [⟨.object values (some (.declared 3)), .object (.ok ⟨0⟩)⟩,
      ⟨.recordType fields options, .type (.ok (.declared 3))⟩]
    ∃ r w, Session history r w ∧ (direct.outcome w).1 = .ok () ∧ (via.outcome w).1 = .ok () ∧
      (direct.after w).read ⟨0⟩ "a" = .ok (.scalar (.int32 8)) ∧
      (direct.after w).readVia view "a" = .ok .null ∧
      (via.after w).readVia view "a" = .ok (.scalar (.string "x")) ∧
      (via.after w).read ⟨0⟩ "a" = .ok (.scalar (.int32 7)) := by
  intro direct view via fields options values history
  let base : ClassInfo := { members := [⟨"a", .builtin .string, .null, true⟩] }
  let u : Universe := Universe.add {} ⟨"Base", .nominal base⟩
  have hdeclared : ({} : World).declareClass "Base" base = .ok (.declared 0, u) := rfl
  have hmembers : ∀ m ∈ base.members, ({} : World).heap.Holds m.initial := by
    simp [base, Heap.Holds]
  have hclass : Session [] (new .standard ()) { types := u } :=
    (Session.start .standard).step (.declareClass hmembers hdeclared)
  -- The record type is asked for, and an instance of it is made.
  obtain ⟨r, w, hobject, hsize, htype, hnames, hread, hwritten⟩ : ∃ r w, Session history r w ∧
      w.heap.cells.size = 1 ∧ (w.heap.cell ⟨0⟩).type = .declared 3 ∧
      "a" ∈ (w.types.properties (.declared 3)).map (·.name) ∧
      (w.read ⟨0⟩ "a" = .ok (.scalar (.int32 7)) ∧ w.readVia view "a" = .ok .null) ∧
      (direct.outcome w).1 = .ok () ∧ (via.outcome w).1 = .ok () :=
    hclass.exists_typed_object (by simp [values, Fields.values, Heap.Holds]) (by decide +kernel)
  have hholds : w.heap.Holds (.ref ⟨0⟩) := by
    rw [Heap.Holds, hsize]
    exact Nat.zero_lt_one
  have halone : BuiltAlone history r w (.declared 3) := .recordType (.tail _ (.head _))
  have hbuilt : Built history w (.declared 3) := .recordType (.tail _ (.head _))
  obtain ⟨hwrites, hproperties⟩ := Session.write_one_slot hobject hbuilt hholds htype
  obtain ⟨p, hp, hname⟩ := List.mem_map.mp hnames
  obtain ⟨hviews, hunder⟩ := hproperties p hp
  rw [hname] at hviews hunder
  have hback : ∀ x : Write, x.target = ⟨0⟩ → (x.outcome w).1 = .ok () →
      x.read (x.after w) = .ok x.value := by
    intro x hx hok
    obtain ⟨hputs, -, hplaces⟩ := hwrites x hx
    obtain ⟨place, hput⟩ := hputs hok
    exact hput.read ((hplaces (.inl halone)).symm.trans hput.written)
  exact ⟨_, w, hobject, hwritten.1, hwritten.2, hback direct rfl hwritten.1,
    (hviews _ view "a").trans hread.2, hback via rfl hwritten.2, (hunder _ _).trans hread.1⟩

/-- Where two properties have one position, the value that was written under the name of the second
one is not read there, and the first one has it. -/
theorem read_of_colliding : ∃ history r w t s v, Session history r w ∧ Built history w t ∧
    w.heap.Holds (.ref s) ∧ (w.heap.cell s).type = t ∧
    let x : Write := .direct s "b" v
    (x.outcome w).1 = .ok () ∧ (x.after w).read s "b" ≠ .ok v ∧ w.read s "a" ≠ .ok v ∧
      (x.after w).read s "a" = .ok v := by
  obtain ⟨history, r, w, t, h, he, hl, hheap⟩ := Session.exists_colliding true
  let made : World := { w with heap := collidingHeap t }
  let v : Value := .scalar (.string "boom")
  have hmade : Session history r made :=
    h.step (World.step_create (by simp [Heap.Holds]) (create_colliding hl hheap))
  have hout := outcome_collidingWrite (w := made) hl rfl
  have hbefore : made.layoutOf? ⟨0⟩ = some (collidingLayout true) := hl
  have hafter : World.layoutOf? { made with heap := made.heap.setOwn ⟨0⟩ 0 v } ⟨0⟩ =
      some (collidingLayout true) := hl
  obtain ⟨hnumber, -⟩ := World.place?_of_colliding hbefore
  obtain ⟨hfirst, hsecond⟩ := World.place?_of_colliding hafter
  refine ⟨history, r, made, t, ⟨0⟩, v, hmade, .close trivial he, Nat.zero_lt_one, rfl,
    congrArg Prod.fst hout, ?_, ?_, ?_⟩
  · rw [show (Write.direct ⟨0⟩ "b" v).after made = _ from Write.after_of_eq hout,
      World.read_eq_ok (v := .scalar (.string "x")) hsecond rfl]
    simp [v]
  · rw [World.read_eq_ok (v := .scalar (.int32 1)) hnumber rfl]
    simp [v]
  · rw [show (Write.direct ⟨0⟩ "b" v).after made = _ from Write.after_of_eq hout]
    exact World.read_eq_ok hfirst rfl

end Registry

end RecordTypes
