import RecordTypes.Proofs.Heap.Content
import RecordTypes.Proofs.World.Step

/-!
# Texts of values

The text of an instance is put together from the names of its properties and the texts of its slots
(`text?_ref`).  Types and instances that are made later do not change the text of a value that
exists (`Sound.text?_eq`).
-/

namespace RecordTypes.World

open Universe (Grows)

variable {w w' : World} {v : Value}

/-- A scalar is shown as such. -/
@[simp] theorem text?_scalar (w : World) (s : Scalar) : w.text? (.scalar s) = some s.text := by
  rw [text?, Heap.tree?_scalar]
  rfl

/-- An instance is shown by the names of its properties, each with the text of the slot at its
place. -/
theorem text?_ref (w : World) (r : InstanceId) :
    w.text? (.ref r) = ((w.heap.cell r).own.mapM w.text?).map
      (Tree.nodeText ((w.types.properties (w.heap.cell r).type).map (·.name))) := by
  have hslots : (w.heap.cell r).own.mapM w.text? = ((w.heap.cell r).own.mapM w.heap.tree?).map
      (List.map (Tree.text fun t => (w.types.properties t).map (·.name))) :=
    (mapM_map_some _ _ _).symm
  rw [hslots, text?, Heap.tree?_ref, Option.map_map, Option.map_map]
  congr 1
  funext slots
  rw [Function.comp_apply, Function.comp_apply, Tree.text, Tree.texts_eq_map]

/-- A value has a text exactly if it does not contain itself. -/
theorem isSome_text?_iff : (w.text? v).isSome ↔ w.heap.Acyclic v := by
  rw [text?, Option.isSome_map, Heap.isSome_tree?_iff]

/-- The text of a value that exists stays the same when types, instances and objects are added. -/
theorem Sound.text?_eq (hw : w.Sound) (hu : Grows w.types w'.types)
    (hh : w.heap.Extends w'.heap) (hheld : w.heap.Holds v) (hv : w.heap.Acyclic v) :
    w'.text? v = w.text? v := by
  induction v, hv using Heap.Acyclic.induction with
  | scalar s => rw [text?_scalar, text?_scalar]
  | ref r _ ih =>
    have hcell : w'.heap.cell r = w.heap.cell r := hh.cell_eq r hheld
    have hproperties := hu.properties_eq (hw.closed r hheld).knows
    have hslots : (w.heap.cell r).own.mapM w'.text? = (w.heap.cell r).own.mapM w.text? :=
      mapM_congr fun x hx => ih x hx (hw.complete r hheld x hx)
    rw [text?_ref, text?_ref, hcell, hproperties, hslots]

end RecordTypes.World
