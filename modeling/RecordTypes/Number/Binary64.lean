/-!
# Double-precision numbers

A `Binary64` is a number of the IEEE 754 format with 64 bits, kept as those bits: one sign bit,
eleven of a biased exponent, fifty-two of a fraction.  Every finite one is `mantissa · 2 ^ exponent`
up to its sign.  Numbers compare by value, except that all patterns of "not a number" count as
one number here, so that `same` is an equivalence.
-/

namespace RecordTypes

/-- A double-precision number, as its 64 bits. -/
structure Binary64 where
  bits : UInt64
  deriving DecidableEq

namespace Binary64

/-- The bits of the fraction. -/
def fraction (x : Binary64) : Nat := x.bits.toNat % 0x10000000000000

/-- The bits of the exponent, biased by 1023. -/
def biased (x : Binary64) : Nat := x.bits.toNat / 0x10000000000000 % 0x800

/-- Whether the sign bit is set. -/
def isNegative (x : Binary64) : Bool := x.bits.toNat / 0x8000000000000000 = 1

/-- All exponent bits and some fraction bit are set. -/
def isNaN (x : Binary64) : Bool := x.biased = 2047 && x.fraction ≠ 0

/-- All exponent bits and no fraction bit are set. -/
def isInfinite (x : Binary64) : Bool := x.biased = 2047 && x.fraction = 0

/-- Nothing but the sign bit may be set. -/
def isZero (x : Binary64) : Bool := x.biased = 0 && x.fraction = 0

/-- The significand of a finite number as a whole number: below the normal range the leading bit
is not implied. -/
def mantissa (x : Binary64) : Nat :=
  if x.biased = 0 then x.fraction else 0x10000000000000 + x.fraction

/-- The power of two that the mantissa of a finite number is scaled by. -/
def exponent (x : Binary64) : Int :=
  if x.biased = 0 then -1074 else (x.biased : Int) - 1075

/-- The pattern that stands for every "not a number" where only one may. -/
def nan : Binary64 := ⟨0x7ff8000000000000⟩

/-- Equal as numbers, or both not numbers: the two zeros agree, and so do all patterns of
"not a number". -/
def same (x y : Binary64) : Bool :=
  if x.isNaN || y.isNaN then x.isNaN && y.isNaN
  else x.bits = y.bits || (x.isZero && y.isZero)

end Binary64

end RecordTypes
