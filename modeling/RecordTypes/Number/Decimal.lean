/-!
# Decimal numbers and their layouts

A `Decimal` is `significand · 10 ^ exponent`.  A `DecimalLayout` says how one is written: which
decimal exponents are written out in full and how the exponent of the others is spelled.
-/

namespace RecordTypes

/-- The decimal digits of a number, the most significant first. -/
def digits (n : Nat) : List Char := Nat.toDigits 10 n

/-- The number `significand · 10 ^ exponent`. -/
structure Decimal where
  significand : Nat
  exponent : Int
  deriving DecidableEq

namespace Decimal

/-- Exponent of the leading digit. -/
def leading (d : Decimal) : Int := d.exponent + (digits d.significand).length - 1

/-- Moves the trailing zeros of the significand into the exponent, `fuel` of them at most. -/
def trimWithin : Nat → Decimal → Decimal
  | 0, d => d
  | fuel + 1, d =>
    if d.significand ≠ 0 ∧ d.significand % 10 = 0 then
      trimWithin fuel ⟨d.significand / 10, d.exponent + 1⟩
    else d

/-- The same number with no trailing zero in the significand. -/
def trim (d : Decimal) : Decimal := d.trimWithin (digits d.significand).length

end Decimal

/-- How decimal numbers are written. -/
structure DecimalLayout where
  /-- Leading exponents from here on are written in full … -/
  lowest : Int
  /-- … up to and without this one; all others get an exponent mark. -/
  highest : Int
  /-- Whether a whole number written in full ends in `.0`. -/
  keepsPoint : Bool
  /-- What stands before an exponent. -/
  mark : String
  /-- What stands before an exponent that is not negative. -/
  plus : String
  /-- The least number of digits of an exponent. -/
  width : Nat

namespace DecimalLayout

/-- `d` in full: zeros fill the places between its digits and the point. -/
def positional (l : DecimalLayout) (d : Decimal) : List Char :=
  let ds := digits d.significand
  if 0 ≤ d.exponent then
    ds ++ List.replicate d.exponent.toNat '0' ++ (if l.keepsPoint then ['.', '0'] else [])
  else
    let places := (-d.exponent).toNat
    if places < ds.length then
      ds.take (ds.length - places) ++ '.' :: ds.drop (ds.length - places)
    else '0' :: '.' :: List.replicate (places - ds.length) '0' ++ ds

/-- One digit before the point, the others after it, then the exponent. -/
def scientific (l : DecimalLayout) (d : Decimal) : List Char :=
  let mantissa := match digits d.significand with
    | c :: r :: rs => c :: '.' :: r :: rs
    | ds => ds
  let e := digits d.leading.natAbs
  mantissa ++ l.mark.toList ++ (if d.leading < 0 then ['-'] else l.plus.toList) ++
    List.replicate (l.width - e.length) '0' ++ e

/-- Writes `d`, which has no trailing zeros, in full or with an exponent. -/
def write (l : DecimalLayout) (d : Decimal) : List Char :=
  if l.lowest ≤ d.leading ∧ d.leading < l.highest then l.positional d else l.scientific d

end DecimalLayout

end RecordTypes
