/-!
# Hash codes

Hash codes are words of 32 bits, and all arithmetic on them wraps around.  A word of 64 bits is
folded by combining its halves; a text feeds its UTF-16 units to two lanes in turn; a sequence of
hash codes is read as the digits of a number to the base `fieldMultiplier`.
-/

namespace RecordTypes

namespace Hash

/-- The factor of the field-wise hash code. -/
def fieldMultiplier : Int32 := -1521134295

/-- Where the field-wise hash code starts. -/
def fieldSeed : Int32 := 0

/-- Both halves of a word, combined by exclusive or. -/
def fold (word : UInt64) : Int32 := (word.toUInt32 ^^^ (word >>> 32).toUInt32).toInt32

/-- The UTF-16 units of a character: two surrogates outside the basic plane. -/
def charUnits (c : Char) : List UInt16 :=
  if c.toNat < 0x10000 then [c.toNat.toUInt16]
  else
    let offset := c.toNat - 0x10000
    [(0xd800 + offset / 0x400).toUInt16, (0xdc00 + offset % 0x400).toUInt16]

/-- The UTF-16 units of a text. -/
def units (s : String) : List UInt16 := s.toList.flatMap charUnits

/-- Where both lanes of a text start. -/
def laneSeed : Int32 := 5381

/-- The factor of the second lane of a text. -/
def laneMultiplier : Int32 := 1566083941

/-- Feeds a unit to a lane. -/
def laneStep (lane : Int32) (unit : UInt16) : Int32 := (lane * 33) ^^^ unit.toUInt32.toInt32

/-- Feeds units to the two lanes in turn. -/
def lanes : List UInt16 → Int32 → Int32 → Int32 × Int32
  | [], a, b => (a, b)
  | [u], a, b => (laneStep a u, b)
  | u :: v :: rest, a, b => lanes rest (laneStep a u) (laneStep b v)

/-- The hash code of a text. -/
def text (s : String) : Int32 :=
  let (a, b) := lanes (units s) laneSeed laneSeed
  a + b * laneMultiplier

/-- The hash code of a character: the low 16 bits of its code point, twice. -/
def char (c : Char) : Int32 :=
  let unit := c.val &&& 0xffff
  (unit ||| (unit <<< 16)).toInt32

/-- The hash code of a sequence of hash codes. -/
def fields (hashes : List Int32) : Int32 :=
  hashes.foldl (fun acc h => acc * fieldMultiplier + h) fieldSeed

end Hash

end RecordTypes
