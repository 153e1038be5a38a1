import RecordTypes.Scalar
import Mathlib.Tactic.ByContra
import Mathlib.Tactic.SplitIfs

/-!
# Canonical scalars

Equality of scalars joins the two zeros and all patterns of "not a number" and is else what scalars
are made of.  `Scalar.canonical` picks one of the scalars that are joined, so that two scalars are
equal exactly if they have one canonical form (`Scalar.same_iff`).  Equality is an equivalence for
that reason alone, and all that is asked of the hash code is that a scalar and its canonical form
have the same (`Scalar.hash_canonical`).
-/

namespace RecordTypes

namespace Binary64

/-- One number for both zeros, and one pattern for "not a number". -/
def canonical (x : Binary64) : Binary64 :=
  if x.isNaN then nan else if x.isZero then ⟨0⟩ else x

theorem isNaN_nan : nan.isNaN = true := by decide

theorem isNaN_zero : isNaN ⟨0⟩ = false := by decide

theorem isZero_zero : isZero ⟨0⟩ = true := by decide

/-- The exponent of "not a number" is not that of a zero. -/
theorem isZero_eq_false_of_isNaN {x : Binary64} (h : x.isNaN = true) : x.isZero = false := by
  have hbiased : x.biased = 2047 := by
    unfold isNaN at h
    rw [Bool.and_eq_true, decide_eq_true_iff] at h
    exact h.1
  unfold isZero
  rw [hbiased]
  rfl

theorem isNaN_eq_false_of_isZero {x : Binary64} (h : x.isZero = true) : x.isNaN = false := by
  by_contra hnan
  rw [isZero_eq_false_of_isNaN (by simpa using hnan)] at h
  exact absurd h (by decide)

/-- A double is "not a number" if its canonical form is. -/
@[simp] theorem isNaN_canonical (x : Binary64) : x.canonical.isNaN = x.isNaN := by
  unfold canonical
  split_ifs with hnan hzero
  · rw [isNaN_nan, hnan]
  · rw [isNaN_zero, isNaN_eq_false_of_isZero hzero]
  · rfl

/-- A double is a zero if its canonical form is. -/
@[simp] theorem isZero_canonical (x : Binary64) : x.canonical.isZero = x.isZero := by
  unfold canonical
  split_ifs with hnan hzero
  · rw [isZero_eq_false_of_isNaN isNaN_nan, isZero_eq_false_of_isNaN hnan]
  · rw [isZero_zero, hzero]
  · rfl

theorem canonical_of_isNaN {x : Binary64} (h : x.isNaN = true) : x.canonical = nan := if_pos h

theorem canonical_of_isZero {x : Binary64} (h : x.isZero = true) : x.canonical = ⟨0⟩ := by
  rw [canonical, if_neg (by simp [isNaN_eq_false_of_isZero h]), if_pos h]

/-- Other doubles are their own canonical forms. -/
theorem canonical_of_ne {x : Binary64} (hnan : x.isNaN = false) (hzero : x.isZero = false) :
    x.canonical = x := by
  rw [canonical, if_neg (by simp [hnan]), if_neg (by simp [hzero])]

/-- Two doubles are equal exactly if they have one canonical form. -/
theorem same_iff (x y : Binary64) : x.same y = true ↔ x.canonical = y.canonical := by
  -- A canonical form tells whether it is "not a number" and whether it is zero.
  have hnan : x.canonical = y.canonical → x.isNaN = y.isNaN := by
    intro h
    rw [← isNaN_canonical x, h, isNaN_canonical]
  have hzero : x.canonical = y.canonical → x.isZero = y.isZero := by
    intro h
    rw [← isZero_canonical x, h, isZero_canonical]
  unfold same
  cases hx : x.isNaN with
  | true =>
    rw [Bool.true_or, if_pos rfl, Bool.true_and]
    constructor
    · intro hy
      rw [canonical_of_isNaN hx, canonical_of_isNaN hy]
    · intro h
      rw [← hnan h, hx]
  | false =>
    cases hy : y.isNaN with
    | true =>
      rw [Bool.or_true, if_pos rfl, Bool.false_and]
      refine ⟨nofun, fun h => ?_⟩
      rw [hnan h, hy] at hx
      exact absurd hx (by decide)
    | false =>
      rw [Bool.or_false, if_neg (by decide), Bool.or_eq_true, decide_eq_true_iff,
        Bool.and_eq_true]
      constructor
      · rintro (hbits | ⟨hx0, hy0⟩)
        · rw [show x = y from congrArg Binary64.mk hbits]
        · rw [canonical_of_isZero hx0, canonical_of_isZero hy0]
      · intro h
        cases hx0 : x.isZero with
        | true => exact .inr ⟨rfl, by rw [← hzero h, hx0]⟩
        | false =>
          have hy0 : y.isZero = false := by rw [← hzero h, hx0]
          rw [canonical_of_ne hx hx0, canonical_of_ne hy hy0] at h
          exact .inl (congrArg bits h)

end Binary64

namespace Scalar

/-- The scalar itself, unless it is a double. -/
def canonical : Scalar → Scalar
  | double x => double x.canonical
  | s => s

/-- Two scalars are equal exactly if they have one canonical form. -/
theorem same_iff (a b : Scalar) : a.same b = true ↔ a.canonical = b.canonical := by
  cases a <;> cases b <;> simp [same, canonical, Binary64.same_iff]

/-- A scalar and its canonical form are of one type. -/
@[simp] theorem primitive?_canonical (s : Scalar) : s.canonical.primitive? = s.primitive? := by
  cases s <;> rfl

/-- The hash code of a double asks for zero and for "not a number", as its canonical form does. -/
@[simp] theorem hash_canonical (s : Scalar) : s.canonical.hash = s.hash := by
  cases s with
  | double x =>
    show (double x.canonical).hash = (double x).hash
    simp only [hash, Binary64.isZero_canonical, Binary64.isNaN_canonical]
    split_ifs with hzero hnan
    · rfl
    · rfl
    · rw [Binary64.canonical_of_ne (by simpa using hnan) (by simpa using hzero)]
  | _ => rfl

end Scalar

end RecordTypes
