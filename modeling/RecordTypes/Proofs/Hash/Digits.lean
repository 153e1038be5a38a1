import RecordTypes.Hash
import RecordTypes.Proofs.Hash.Retaining
import Mathlib.Algebra.BigOperators.Fin
import Mathlib.Tactic.Ring

/-!
# Hash codes as digits

The field-wise hash code of a sequence reads its hash codes as the digits of a number to the base
`fieldMultiplier`, the first one with the highest power, and keeps what fits into a word
(`fields_eq`).  The base is odd, so it has an inverse among the words of 32 bits, and no step of the
fold forgets what was fed to it before: sequences that differ at one place only have different hash
codes (`fields_ne_of_existsUnique`).
-/

namespace RecordTypes.Hash

variable {hs hs' : List Int32}

/-- Feeds a hash code to the hash code of what came before. -/
def fieldStep (acc h : Int32) : Int32 := acc * fieldMultiplier + h

theorem fields_eq_foldl (hs : List Int32) : fields hs = hs.foldl fieldStep fieldSeed := rfl

/-! ### The number -/

/-- The number that hash codes are the digits of, to the base `fieldMultiplier`. -/
def digitSum (hs : List Int32) : Int :=
  ∑ i : Fin hs.length, hs[i].toInt * fieldMultiplier.toInt ^ (hs.length - 1 - i)

theorem digitSum_cons (h : Int32) (hs : List Int32) :
    digitSum (h :: hs) = h.toInt * fieldMultiplier.toInt ^ hs.length + digitSum hs := by
  show ∑ i : Fin (hs.length + 1),
    (h :: hs)[i].toInt * fieldMultiplier.toInt ^ (hs.length + 1 - 1 - i) = _
  rw [Fin.sum_univ_succ]
  congr 1
  apply Finset.sum_congr rfl
  intro i _
  have hpower : hs.length + 1 - 1 - i.succ.val = hs.length - 1 - i.val := by
    rw [Fin.val_succ]
    omega
  rw [hpower]
  rfl

theorem fieldStep_ofInt (n : Int) (h : Int32) :
    fieldStep (.ofInt n) h = .ofInt (n * fieldMultiplier.toInt + h.toInt) := by
  rw [Int32.ofInt_add, Int32.ofInt_mul, Int32.ofInt_toInt, Int32.ofInt_toInt]
  rfl

/-- Folding from a number on shifts it past all digits that follow. -/
theorem foldl_fieldStep_ofInt (n : Int) (hs : List Int32) : hs.foldl fieldStep (.ofInt n) =
    .ofInt (n * fieldMultiplier.toInt ^ hs.length + digitSum hs) := by
  induction hs generalizing n with
  | nil => simp [digitSum]
  | cons h hs ih =>
    rw [List.foldl_cons, fieldStep_ofInt, ih, digitSum_cons, List.length_cons, pow_succ]
    congr 1
    ring

/-- The field-wise hash code is the number, reduced to a word. -/
theorem fields_eq (hs : List Int32) : fields hs = .ofInt (digitSum hs) := by
  have hseed : fieldSeed = .ofInt 0 := rfl
  rw [fields_eq_foldl, hseed, foldl_fieldStep_ofInt, zero_mul, zero_add]

/-- The field-wise hash code is the number, reduced to the range of signed words. -/
theorem toInt_fields (hs : List Int32) : (fields hs).toInt = (digitSum hs).bmod (2 ^ 32) := by
  rw [fields_eq, Int32.toInt_ofInt]
  rfl

/-! ### One digit -/

/-- The inverse of `fieldMultiplier`. -/
def fieldInverse : Int32 := 207886105

theorem fieldMultiplier_mul_fieldInverse : fieldMultiplier * fieldInverse = 1 := by decide

theorem retains_fieldStep : Retains fieldStep where
  before h _ _ hxy :=
    mul_injective_of_inverse fieldMultiplier_mul_fieldInverse ((Int32.add_left_inj h).mp hxy)
  item _ _ _ hh := (Int32.add_right_inj _).mp hh

/-- Sequences that differ at exactly one place have different hash codes. -/
theorem fields_ne_of_existsUnique (hlength : hs.length = hs'.length)
    (hdiffer : ∃! i : Nat, hs[i]? ≠ hs'[i]?) : fields hs ≠ fields hs' := by
  rw [fields_eq_foldl, fields_eq_foldl]
  exact retains_fieldStep.foldl_ne fieldSeed hlength hdiffer

end RecordTypes.Hash
