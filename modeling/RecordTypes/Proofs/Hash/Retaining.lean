import Mathlib.Data.List.Basic
import Mathlib.Logic.Function.Basic
import Mathlib.Tactic.ByContra

/-!
# Steps that lose nothing

A hash code is computed by feeding a row of items to a word, one by one.  If a step tells what came
before as soon as the item is known, and the item as soon as it is known what came before, then a
difference in a single item survives all the steps that follow (`Retains.foldl_ne`).  Multiplying by
a word that has an inverse is half of such a step (`mul_injective_of_inverse`).
-/

namespace RecordTypes.Hash

/-- Multiplication by a word loses nothing if another word undoes it. -/
theorem mul_injective_of_inverse {factor inverse : Int32} (h : factor * inverse = 1) :
    Function.Injective fun word : Int32 => word * factor := by
  have hundo (word : Int32) : word * factor * inverse = word := by
    rw [Int32.mul_assoc, h, Int32.mul_one]
  intro x y hxy
  calc x = x * factor * inverse := (hundo x).symm
    _ = y * factor * inverse := congrArg (· * inverse) hxy
    _ = y := hundo y

variable {α β : Type} {step : β → α → β} {items items' : List α}

/-- Where there is exactly one difference, all else is the same. -/
theorem exists_only_difference {f g : Nat → β} (h : ∃! i, f i ≠ g i) :
    ∃ i, f i ≠ g i ∧ ∀ j, j ≠ i → f j = g j := by
  obtain ⟨i, hi, hunique⟩ := h
  refine ⟨i, hi, fun j hj => ?_⟩
  by_contra hne
  exact hj (hunique j hne)

/-- Rows of one length that differ at exactly one place are the same before it and behind it. -/
theorem exists_append_cons_of_existsUnique (hlength : items.length = items'.length)
    (hdiffer : ∃! i : Nat, items[i]? ≠ items'[i]?) : ∃ before after a b, a ≠ b ∧
      items = before ++ a :: after ∧ items' = before ++ b :: after := by
  obtain ⟨i, hi, hsame⟩ := exists_only_difference hdiffer
  have hlt : i < items.length := by
    by_contra hge
    apply hi
    rw [List.getElem?_eq_none (by omega), List.getElem?_eq_none (by omega)]
  have hlt' : i < items'.length := hlength ▸ hlt
  have hbefore : items.take i = items'.take i := by
    apply List.ext_getElem?
    intro j
    rw [List.getElem?_take, List.getElem?_take]
    split
    · next hj => exact hsame j (Nat.ne_of_lt hj)
    · rfl
  have hafter : items.drop (i + 1) = items'.drop (i + 1) := by
    apply List.ext_getElem?
    intro j
    rw [List.getElem?_drop, List.getElem?_drop]
    exact hsame _ (by omega)
  refine ⟨items.take i, items.drop (i + 1), items[i], items'[i], ?_, ?_, ?_⟩
  · intro heq
    apply hi
    rw [List.getElem?_eq_getElem hlt, List.getElem?_eq_getElem hlt', heq]
  · rw [← List.drop_eq_getElem_cons hlt, List.take_append_drop]
  · rw [hbefore, hafter, ← List.drop_eq_getElem_cons hlt', List.take_append_drop]

/-- A step tells what came before it, given the item, and tells the item, given what came before. -/
structure Retains (step : β → α → β) : Prop where
  before : ∀ a, Function.Injective fun x => step x a
  item : ∀ x, Function.Injective (step x)

namespace Retains

theorem foldl_injective (h : Retains step) (items : List α) :
    Function.Injective fun x => items.foldl step x := by
  induction items with
  | nil => exact Function.injective_id
  | cons a items ih => exact ih.comp (h.before a)

/-- Rows that differ at exactly one place lead from one start to different ends. -/
theorem foldl_ne (h : Retains step) (start : β) (hlength : items.length = items'.length)
    (hdiffer : ∃! i : Nat, items[i]? ≠ items'[i]?) :
    items.foldl step start ≠ items'.foldl step start := by
  obtain ⟨before, after, a, b, hne, rfl, rfl⟩ := exists_append_cons_of_existsUnique hlength hdiffer
  intro heq
  rw [List.foldl_append, List.foldl_append, List.foldl_cons, List.foldl_cons] at heq
  exact hne (h.item _ (h.foldl_injective after heq))

end Retains

end RecordTypes.Hash
