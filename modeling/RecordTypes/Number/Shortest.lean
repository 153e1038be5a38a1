import RecordTypes.Number.Binary64
import RecordTypes.Number.Decimal

/-!
# Shortest decimals

Among the decimals that read back as a given double-precision number, `Binary64.shortest` is one
of the fewest digits and, of those, the nearest; of two equally near it takes the larger.

The numbers that read back as `m · 2 ^ q` form an interval that reaches half the distance to the
neighbour on either side; its ends belong to it exactly if `m` is even.  Everything is measured in
quarters of `2 ^ q`, where the ends are whole.  For one digit, two digits and so on the two
decimals next to the number on that grid are tried; if a point of a grid lies in the interval, so
does one of these two.
-/

namespace RecordTypes

namespace Binary64

/-- Distance to the lower end of the interval in quarters: half as far below a power of two. -/
def reachBelow (x : Binary64) : Nat :=
  if x.fraction = 0 ∧ 1 < x.biased then 1 else 2

/-- `10 ^ k` is this many units, when the quarter of `2 ^ q` is `quarterUnits q k` of them. -/
def gridUnits (q k : Int) : Nat := Nat.pow 10 k.toNat * Nat.pow 2 (2 - q).toNat

/-- A quarter of `2 ^ q` is this many units, when `10 ^ k` is `gridUnits q k` of them. -/
def quarterUnits (q k : Int) : Nat := Nat.pow 2 (q - 2).toNat * Nat.pow 10 (-k).toNat

/-- Whether `c · 10 ^ k` reads back as `x`, up to the sign. -/
def reads (x : Binary64) (k : Int) (c : Nat) : Bool :=
  let point := c * gridUnits x.exponent k
  let quarter := quarterUnits x.exponent k
  let low := (4 * x.mantissa - x.reachBelow) * quarter
  let high := (4 * x.mantissa + 2) * quarter
  if x.mantissa % 2 = 0 then low ≤ point && point ≤ high else low < point && point < high

/-- The multiple of `10 ^ k` that reads back as `x` and is nearest to it, the larger of two. -/
def nearest? (x : Binary64) (k : Int) : Option Nat :=
  let value := 4 * x.mantissa * quarterUnits x.exponent k
  let grid := gridUnits x.exponent k
  let below := value / grid
  match x.reads k below, x.reads k (below + 1) with
  | true, true => some (if 2 * (value % grid) < grid then below else below + 1)
  | true, false => some below
  | false, true => some (below + 1)
  | false, false => none

/-- Exponent of the leading decimal digit of a finite number other than zero. -/
def leading (x : Binary64) : Int :=
  let scale := Nat.pow 2 x.exponent.natAbs
  if 0 ≤ x.exponent then ((digits (x.mantissa * scale)).length : Int) - 1
  else if scale ≤ x.mantissa then ((digits (x.mantissa / scale)).length : Int) - 1
  else -((digits ((scale - 1) / x.mantissa)).length : Int)

/-- Tries the grids from `10 ^ k` down, `fuel` of them; the last is taken as it is. -/
def shortestWithin (x : Binary64) : Nat → Int → Decimal
  | 0, k => ⟨4 * x.mantissa * quarterUnits x.exponent k / gridUnits x.exponent k, k⟩
  | fuel + 1, k =>
    match x.nearest? k with
    | some c => ⟨c, k⟩
    | none => shortestWithin x fuel (k - 1)

/-- The shortest decimal that reads back as a finite `x` other than zero, up to the sign.
Seventeen digits are always enough. -/
def shortest (x : Binary64) : Decimal :=
  if x.isZero then ⟨0, 0⟩ else (x.shortestWithin 17 x.leading).trim

/-- What a number is written as: its layout, and the texts for what no decimal stands for. -/
structure Style where
  layout : DecimalLayout
  nan : String
  infinity : String

/-- Writes a number; a negative zero keeps its sign. -/
def write (s : Style) (x : Binary64) : String :=
  if x.isNaN then s.nan
  else
    let magnitude := if x.isInfinite then s.infinity else .ofList (s.layout.write x.shortest)
    if x.isNegative then "-" ++ magnitude else magnitude

end Binary64

end RecordTypes
