import RecordTypes.Hash
import RecordTypes.Proofs.Hash.Retaining
import Mathlib.Algebra.Group.Nat.Defs

/-!
# The two lanes of a text

The hash code of a text takes its UTF-16 units two at a time, and the last one may come alone.  The
lanes do not touch each other, though: the first one is fed the units at the even places and the
second one those at the odd places (`lanes_eq`), and the hash code is the sum of the first lane and
a multiple of the second.  Both a step of a lane and the multiple lose nothing, so texts with as
many units each that differ in one unit have different hash codes (`text_eq_lanes`).
-/

namespace RecordTypes.Hash

variable {us vs : List UInt16}

/-! ### Even and odd places -/

/-- The units at the places 0, 2, 4 and so on. -/
def evens : List UInt16 → List UInt16
  | [] => []
  | [u] => [u]
  | u :: _ :: rest => u :: evens rest

/-- The units at the places 1, 3, 5 and so on. -/
def odds (us : List UInt16) : List UInt16 := evens us.tail

theorem getElem?_evens (us : List UInt16) (i : Nat) : (evens us)[i]? = us[2 * i]? := by
  fun_induction evens us generalizing i with
  | case1 => rfl
  | case2 u =>
    cases i with
    | zero => rfl
    | succ i => rfl
  | case3 u v rest ih =>
    cases i with
    | zero => rfl
    | succ i => exact ih i

theorem getElem?_odds (us : List UInt16) (i : Nat) : (odds us)[i]? = us[2 * i + 1]? := by
  rw [odds, getElem?_evens, List.getElem?_tail]

theorem length_evens (us : List UInt16) : (evens us).length = (us.length + 1) / 2 := by
  fun_induction evens us with
  | case1 => rfl
  | case2 u => simp
  | case3 u v rest ih =>
    rw [List.length_cons, ih, List.length_cons, List.length_cons]
    omega

theorem length_odds (us : List UInt16) : (odds us).length = us.length / 2 := by
  rw [odds, length_evens, List.length_tail]
  omega

/-- Rows that differ at one place only differ at one even place or at one odd place. -/
theorem existsUnique_evens_or_odds (hdiffer : ∃! i : Nat, us[i]? ≠ vs[i]?) :
    (∃! i : Nat, (evens us)[i]? ≠ (evens vs)[i]?) ∧ odds us = odds vs ∨
      evens us = evens vs ∧ ∃! i : Nat, (odds us)[i]? ≠ (odds vs)[i]? := by
  obtain ⟨i, hi, hsame⟩ := exists_only_difference hdiffer
  simp only [List.ext_getElem?_iff, getElem?_evens, getElem?_odds]
  obtain ⟨j, rfl | rfl⟩ : ∃ j, i = 2 * j ∨ i = 2 * j + 1 := ⟨i / 2, by omega⟩
  · refine .inl ⟨⟨j, hi, fun k hk => ?_⟩, fun k => hsame _ (by omega)⟩
    by_contra hne
    exact hk (hsame _ (by omega))
  · refine .inr ⟨fun k => hsame _ (by omega), j, hi, fun k hk => ?_⟩
    by_contra hne
    exact hk (hsame _ (by omega))

/-! ### Lanes -/

/-- A lane that is fed a row of units. -/
def lane (us : List UInt16) : Int32 :=
  us.foldl (fun acc u => (acc * 33) ^^^ u.toUInt32.toInt32) 5381

theorem lane_eq_foldl (us : List UInt16) : lane us = us.foldl laneStep laneSeed := rfl

/-- Feeding two lanes in turn feeds each of them every other unit. -/
theorem lanes_eq (us : List UInt16) (a b : Int32) :
    lanes us a b = ((evens us).foldl laneStep a, (odds us).foldl laneStep b) := by
  fun_induction lanes us a b with
  | case1 => rfl
  | case2 => rfl
  | case3 u v rest a b ih =>
    have hodds : odds (u :: v :: rest) = v :: odds rest := by
      cases rest <;> rfl
    rw [ih, hodds]
    rfl

theorem text_eq (s : String) : text s =
    lane (evens (units s)) + lane (odds (units s)) * laneMultiplier := by
  rw [text, lanes_eq, lane_eq_foldl, lane_eq_foldl]

/-- The hash code of a text is the sum, reduced to the range of signed words. -/
theorem toInt_text (s : String) : (text s).toInt = ((lane (evens (units s))).toInt +
    (lane (odds (units s))).toInt * laneMultiplier.toInt).bmod (2 ^ 32) := by
  rw [text_eq, Int32.toInt_add, Int32.toInt_mul, Int.add_bmod_bmod]

/-! ### One unit -/

/-- The inverse of the factor 33 of a step. -/
def stepInverse : Int32 := 1041204193

theorem mul_stepInverse : 33 * stepInverse = 1 := by decide

/-- The inverse of `laneMultiplier`. -/
def laneInverse : Int32 := 1786162797

theorem laneMultiplier_mul_laneInverse : laneMultiplier * laneInverse = 1 := by decide

theorem retains_laneStep : Retains laneStep where
  before u x y hxy := mul_injective_of_inverse mul_stepInverse ((Int32.xor_left_inj _).mp hxy)
  item x u v huv := by
    have hwords : u.toUInt32.toInt32 = v.toUInt32.toInt32 := (Int32.xor_right_inj _).mp huv
    have hunits : u.toUInt32 = v.toUInt32 := congrArg Int32.toUInt32 hwords
    exact UInt16.toUInt32_inj.mp hunits

/-- Texts with as many units each that differ in exactly one of them have different hash codes. -/
theorem text_ne {s t : String} (hlength : (units s).length = (units t).length)
    (hdiffer : ∃! i : Nat, (units s)[i]? ≠ (units t)[i]?) : text s ≠ text t := by
  have hevens : (evens (units s)).length = (evens (units t)).length := by
    rw [length_evens, length_evens, hlength]
  have hodds : (odds (units s)).length = (odds (units t)).length := by
    rw [length_odds, length_odds, hlength]
  rw [text_eq, text_eq]
  -- Of the lanes only one is fed the unit that differs, and the other is the same for both texts.
  rcases existsUnique_evens_or_odds hdiffer with ⟨hone, hsame⟩ | ⟨hsame, hone⟩
  · rw [hsame]
    intro heq
    exact retains_laneStep.foldl_ne laneSeed hevens hone ((Int32.add_left_inj _).mp heq)
  · rw [hsame]
    intro heq
    have hproduct := (Int32.add_right_inj _).mp heq
    exact retains_laneStep.foldl_ne laneSeed hodds hone
      (mul_injective_of_inverse laneMultiplier_mul_laneInverse hproduct)

/-- The hash code of a text is the lane of the units at even places and the multiple of the lane of
those at odd places, reduced to a signed word.  A text with as many units of which exactly one is
another has another hash code. -/
theorem text_eq_lanes (s : String) :
    (text s).toInt = ((lane (evens (units s))).toInt +
      (lane (odds (units s))).toInt * 1566083941).bmod (2 ^ 32) ∧
    ∀ t, (units s).length = (units t).length → (∃! i : Nat, (units s)[i]? ≠ (units t)[i]?) →
      text s ≠ text t :=
  ⟨toInt_text s, fun _ => text_ne⟩

/-- Two texts of three units, of which the last one is the second surrogate of a character. -/
theorem text_eq_lanes_of_surrogates :
    (units "a😀").length = (units "a😁").length ∧
    (∃! i : Nat, (units "a😀")[i]? ≠ (units "a😁")[i]?) ∧ text "a😀" ≠ text "a😁" := by
  have hs : units "a😀" = [0x61, 0xd83d, 0xde00] := rfl
  have ht : units "a😁" = [0x61, 0xd83d, 0xde01] := rfl
  have hlength : (units "a😀").length = (units "a😁").length := by
    rw [hs, ht]
    rfl
  have hdiffer : ∃! i : Nat, (units "a😀")[i]? ≠ (units "a😁")[i]? := by
    rw [hs, ht]
    refine ⟨2, by decide, fun i hi => ?_⟩
    by_contra hne
    apply hi
    match i with
    | 0 | 1 => rfl
    | 2 => exact absurd rfl hne
    | i + 3 => rfl
  exact ⟨hlength, hdiffer, (text_eq_lanes "a😀").2 "a😁" hlength hdiffer⟩

end RecordTypes.Hash
