import RecordTypes.Proofs.World.Text
import RecordTypes.Proofs.Heap.Agreement

/-!
# Equal values are rendered alike

A text tells more than equality does in one place only: a negative zero keeps its sign, though it
equals the other zero.  All patterns of "not a number" are written alike, and no text shows what
instance it was read off.  So the text of a value that reaches no negative zero is read off what
equality sees of it (`text?_eq_map_content?`), and equal values of that kind have one text
(`text?_eq_of_same?`).
-/

namespace RecordTypes

namespace Binary64

/-- The zero with its sign bit set. -/
def negativeZero : Binary64 := ⟨0x8000000000000000⟩

theorem isZero_iff {x : Binary64} : x.isZero = true ↔ x = ⟨0⟩ ∨ x = negativeZero := by
  constructor
  · intro hx
    unfold isZero at hx
    rw [Bool.and_eq_true, decide_eq_true_iff, decide_eq_true_iff, biased, fraction] at hx
    -- Sixty-three bits are clear, and there are sixty-four.
    have hbound : x.bits.toNat < 0x10000000000000000 := x.bits.toNat_lt
    have hbits : x.bits.toNat = 0 ∨ x.bits.toNat = 0x8000000000000000 := by omega
    rcases hbits with hbits | hbits
    · exact .inl (congrArg mk (UInt64.toNat.inj hbits))
    · exact .inr (congrArg mk (UInt64.toNat.inj hbits))
  · rintro (rfl | rfl)
    · exact isZero_zero
    · decide

/-- A number and its canonical form are written alike, unless it is the negative zero. -/
theorem write_canonical (style : Style) {x : Binary64} (hx : x ≠ negativeZero) :
    x.canonical.write style = x.write style := by
  cases hnan : x.isNaN with
  | true =>
    rw [canonical_of_isNaN hnan, write, write, if_pos isNaN_nan, if_pos hnan]
  | false =>
    cases hzero : x.isZero with
    | true =>
      obtain rfl : x = ⟨0⟩ := (isZero_iff.mp hzero).resolve_right hx
      rw [canonical_of_isZero hzero]
    | false => rw [canonical_of_ne hnan hzero]

end Binary64

theorem Scalar.text_canonical {s : Scalar} (hs : s ≠ .double .negativeZero) :
    s.canonical.text = s.text := by
  cases s with
  | double x => exact Binary64.write_canonical _ fun hx => hs (congrArg _ hx)
  | _ => rfl

/-- What no instance holds is reached from none. -/
theorem Heap.not_reaches_scalar {h : Heap} {s : Scalar}
    (hs : ∀ c ∈ h.cells.toList, Value.scalar s ∉ c.own) (r : InstanceId) :
    ¬ h.Reaches (.ref r) (.scalar s) := by
  intro hreach
  rcases hreach.cases_tail with heq | ⟨v, -, holder, rfl, hmem⟩
  · exact absurd heq nofun
  · unfold cell at hmem
    cases hcell : h.cells[holder.index]? with
    | none =>
      rw [hcell] at hmem
      exact List.not_mem_nil hmem
    | some c =>
      rw [hcell] at hmem
      exact hs c (Array.mem_toList_iff.mpr (Array.mem_of_getElem? hcell)) hmem

namespace World

variable {w : World} {a b v : Value}

/-- The text of a value that reaches no negative zero is that of its content. -/
theorem text?_eq_map_content? (hv : ¬ w.heap.Reaches v (.scalar (.double .negativeZero))) :
    w.text? v =
      (w.heap.content? v).map (Tree.text fun t => (w.types.properties t).map (·.name)) := by
  by_cases hacyclic : w.heap.Acyclic v
  · induction v, hacyclic using Heap.Acyclic.induction with
    | scalar s =>
      have hs : s ≠ .double .negativeZero := by
        rintro rfl
        exact hv .refl
      rw [text?_scalar, Heap.content?_scalar, Option.map_some, Tree.text, Scalar.text_canonical hs]
    | ref r _ ih =>
      have hslots : (w.heap.cell r).own.mapM w.text? =
          ((w.heap.cell r).own.mapM w.heap.content?).map
          (List.map (Tree.text fun t => (w.types.properties t).map (·.name))) := by
        rw [mapM_map_some]
        exact mapM_congr fun x hx =>
          ih x hx fun hreach => hv (Heap.reaches_ref_iff.mpr (.inr ⟨x, hx, hreach⟩))
      rw [text?_ref, Heap.content?_ref, hslots, Option.map_map, Option.map_map]
      congr 1
      funext slots
      rw [Function.comp_apply, Function.comp_apply, Tree.text, Tree.texts_eq_map]
  · have htext : w.text? v = none := by
      rw [← Option.not_isSome_iff_eq_none, isSome_text?_iff]
      exact hacyclic
    have hcontent : w.heap.content? v = none := by
      rw [← Option.not_isSome_iff_eq_none, Heap.isSome_content?_iff]
      exact hacyclic
    rw [htext, hcontent, Option.map_none]

/-- Equal values have a text each, and it is the same, if neither of them is or reaches a negative
zero.  They may be scalars or instances, nested to any depth, and hold any patterns of "not a
number". -/
theorem text?_eq_of_same? (w : World) (hab : w.heap.same? a b = some true)
    (ha : ¬ w.heap.Reaches a (.scalar (.double .negativeZero)))
    (hb : ¬ w.heap.Reaches b (.scalar (.double .negativeZero))) :
    ∃ text, w.text? a = some text ∧ w.text? b = some text := by
  obtain ⟨content, hcontent, hcontent'⟩ := Heap.same?_eq_some_true_iff.mp hab
  refine ⟨content.text fun t => (w.types.properties t).map (·.name), ?_, ?_⟩
  · rw [text?_eq_map_content? ha, hcontent, Option.map_some]
  · rw [text?_eq_map_content? hb, hcontent', Option.map_some]

/-- Two instances of one type over two of another, which hold different patterns of "not a
number". -/
def nested : World where
  types := {
    entries := #[
      ⟨⟨"Reading", .record {
        properties := [⟨"Value", .builtin .double, 0, false, false⟩]
        parent := none
        inherited := []
        isMutable := false
        shape := .closed .object [.builtin .double] }⟩, "Reading[System.Double]"⟩,
      ⟨⟨"Pair", .record {
        properties := [⟨"Reading", .declared 0, 0, false, false⟩,
          ⟨"Offset", .builtin .double, 1, false, false⟩]
        parent := none
        inherited := []
        isMutable := false
        shape := .closed .object [.declared 0, .builtin .double] }⟩,
        "Pair[Reading,System.Double]"⟩] }
  heap := {
    cells := #[
      ⟨.declared 0, [.scalar (.double ⟨0x7ff0000000000001⟩)], []⟩,
      ⟨.declared 0, [.scalar (.double ⟨0xfff8000000000000⟩)], []⟩,
      ⟨.declared 1, [.ref ⟨0⟩, .scalar (.double ⟨0⟩)], []⟩,
      ⟨.declared 1, [.ref ⟨1⟩, .scalar (.double ⟨0⟩)], []⟩] }

theorem text?_eq_of_same?_nested :
    nested.heap.same? (.ref ⟨2⟩) (.ref ⟨3⟩) = some true ∧
    ∃ text, nested.text? (.ref ⟨2⟩) = some text ∧ nested.text? (.ref ⟨3⟩) = some text := by
  have hsame : nested.heap.same? (.ref ⟨2⟩) (.ref ⟨3⟩) = some true := by decide +kernel
  have hreach (r : InstanceId) : ¬ nested.heap.Reaches (.ref r) (.scalar (.double .negativeZero)) :=
    Heap.not_reaches_scalar (by decide +kernel) r
  exact ⟨hsame, text?_eq_of_same? nested hsame (hreach ⟨2⟩) (hreach ⟨3⟩)⟩

/-- The zeros are equal, and their signs are written. -/
example :
    nested.heap.same? (.scalar (.double ⟨0⟩)) (.scalar (.double .negativeZero)) = some true ∧
    nested.text? (.scalar (.double ⟨0⟩)) = some "0" ∧
    nested.text? (.scalar (.double .negativeZero)) = some "-0" := by
  decide +kernel

end World

end RecordTypes
