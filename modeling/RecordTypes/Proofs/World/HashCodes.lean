import RecordTypes.Proofs.Hash.Digits
import RecordTypes.Proofs.World.Sizes

/-!
# Hash codes of instances

The hash code of an instance is put together from those of its own slots (`Heap.hash?_ref`), which
are the digits of a number: the instance has the number, reduced to a word, as its hash code.  Two
instances of one type have as many digits each, and if all but one of them agree, the hash codes
differ (`World.Steps.hash?_of_slots`).
-/

namespace RecordTypes

namespace Heap

variable {h : Heap} {r : InstanceId} {hs : List Int32}

/-- The hash codes of the own slots of an instance, in order. -/
def slotHashes? (h : Heap) (r : InstanceId) : Option (List Int32) := (h.cell r).own.mapM h.hash?

theorem hash?_ref (h : Heap) (r : InstanceId) :
    h.hash? (.ref r) = (h.slotHashes? r).map Hash.fields := by
  have hslots : h.slotHashes? r =
      ((h.cell r).own.mapM h.tree?).map (List.map Tree.hash) := (mapM_map_some _ _ _).symm
  rw [hslots, hash?, tree?_ref, Option.map_map, Option.map_map]
  congr 1
  funext slots
  rw [Function.comp_apply, Function.comp_apply, Tree.hash, Tree.hashes_eq_map]

theorem isSome_slotHashes?_iff : (h.slotHashes? r).isSome ↔ h.Acyclic (.ref r) := by
  rw [← isSome_tree?_iff, ← Option.isSome_map (f := Tree.hash), ← hash?, hash?_ref,
    Option.isSome_map]

theorem length_of_slotHashes? (hhs : h.slotHashes? r = some hs) :
    hs.length = (h.cell r).own.length := by
  have hlength := congrArg List.length (mapM_eq_some_iff.mp hhs)
  rw [List.length_map, List.length_map] at hlength
  exact hlength.symm

end Heap

namespace World

variable {w : World} {r : InstanceId}

/-- The hash code of an instance is the sum of those of its own slots, each times the power of the
multiplier that belongs to its place, reduced to a signed word.  Where the slots of another instance
of the type have these hash codes too, except for exactly one, the hash code is another. -/
theorem Steps.hash?_of_slots (h : Steps {} w) (hr : w.heap.Holds (.ref r))
    (hacyclic : w.heap.Acyclic (.ref r)) : ∃ hs code, w.heap.slotHashes? r = some hs ∧
      hs.length = (w.types.properties (w.heap.cell r).type).length ∧
      w.heap.hash? (.ref r) = some code ∧ code.toInt = (Hash.digitSum hs).bmod (2 ^ 32) ∧
      ∀ s hs', w.heap.Holds (.ref s) → (w.heap.cell s).type = (w.heap.cell r).type →
        w.heap.slotHashes? s = some hs' → (∃! i : Nat, hs[i]? ≠ hs'[i]?) →
        w.heap.hash? (.ref s) ≠ w.heap.hash? (.ref r) := by
  obtain ⟨hs, hhs⟩ := Option.isSome_iff_exists.mp (Heap.isSome_slotHashes?_iff.mpr hacyclic)
  have hcode : w.heap.hash? (.ref r) = some (Hash.fields hs) := by
    rw [Heap.hash?_ref, hhs, Option.map_some]
  have hlength : hs.length = (w.types.properties (w.heap.cell r).type).length :=
    (Heap.length_of_slotHashes? hhs).trans (h.length_own hr)
  refine ⟨hs, _, hhs, hlength, hcode, Hash.toInt_fields hs, ?_⟩
  intro s hs' hheld htype hhs' hdiffer
  have hlength' : hs'.length = (w.types.properties (w.heap.cell r).type).length := by
    rw [← htype, ← h.length_own hheld]
    exact Heap.length_of_slotHashes? hhs'
  have hne := Hash.fields_ne_of_existsUnique (hlength.trans hlength'.symm) hdiffer
  rw [hcode, Heap.hash?_ref, hhs', Option.map_some]
  exact fun heq => hne (Option.some.inj heq).symm

/-- Two points that differ in one coordinate. -/
theorem Steps.hash?_of_slots_of_two_points :
    let coordinate (name : String) (position : Nat) : Property :=
      { name := name, type := .builtin .int32, position := position, canWrite := false }
    let l : Layout :=
      { properties := [coordinate "x" 0, coordinate "y" 1]
        parent := none
        inherited := []
        isMutable := false
        shape := .closed .object [.builtin .int32, .builtin .int32] }
    let point (x y : Int32) : Cell := ⟨.declared 0, [.scalar (.int32 x), .scalar (.int32 y)], []⟩
    let w : World :=
      { types := Universe.add {} ⟨"Point", .record l⟩
        heap := { cells := #[point 3 4, point 5 4] } }
    let r : InstanceId := ⟨0⟩
    let s : InstanceId := ⟨1⟩
    Steps {} w ∧ w.heap.Holds (.ref r) ∧ w.heap.Acyclic (.ref r) ∧
      (∃ code, w.heap.hash? (.ref r) = some code ∧
        code.toInt = (3 * Hash.fieldMultiplier.toInt + 4).bmod (2 ^ 32)) ∧
      w.heap.hash? (.ref s) ≠ w.heap.hash? (.ref r) := by
  intro coordinate l point w r s
  let w₁ : World := { types := w.types }
  let w₂ : World := { types := w.types, heap := { cells := #[point 3 4] } }
  have hrecord : Step {} w₁ := .declareRecord "Point" fun p hp => absurd hp (Option.not_mem_none p)
  have hfirst : w₁.create (.declared 0) (point 3 4).own = (.ok r, w₂.heap) := rfl
  have hsecond : w₂.create (.declared 0) (point 5 4).own = (.ok s, w.heap) := rfl
  have hsteps : Steps {} w := ((Relation.ReflTransGen.single hrecord).tail
    (step_create (by simp [point, Heap.Holds]) hfirst)).tail
    (step_create (by simp [point, Heap.Holds]) hsecond)
  have hr : w.heap.Holds (.ref r) := Nat.zero_lt_two
  have hs : w.heap.Holds (.ref s) := Nat.one_lt_two
  have hacyclic : w.heap.Acyclic (.ref r) := Heap.isSome_tree?_iff.mp rfl
  obtain ⟨hs₁, code, hhs, -, hcode, hsum, hdiffer⟩ := Steps.hash?_of_slots hsteps hr hacyclic
  obtain rfl : [3, 4] = hs₁ := Option.some.inj hhs
  refine ⟨hsteps, hr, hacyclic, ⟨code, hcode, ?_⟩, hdiffer s [5, 4] hs rfl rfl ⟨0, ?_, ?_⟩⟩
  · rw [hsum]
    rfl
  · decide
  · intro i hi
    by_contra hne
    obtain ⟨j, rfl⟩ := Nat.exists_eq_succ_of_ne_zero hne
    exact hi rfl

end World

end RecordTypes
