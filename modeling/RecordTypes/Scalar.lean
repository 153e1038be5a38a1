import RecordTypes.Identity
import RecordTypes.Number.Shortest
import RecordTypes.Calendar.DateTime
import RecordTypes.Hash

/-!
# Scalars

Values that refer to no instance.  Each kind has its type, its equality, its hash code and its text;
scalars of different kinds are never equal.
-/

namespace RecordTypes

/-- A value that refers to no instance. -/
inductive Scalar where
  | null
  | bool (b : Bool)
  | char (c : Char)
  | int32 (n : Int32)
  | int64 (n : Int64)
  | double (x : Binary64)
  | string (s : String)
  | dateTime (t : DateTime)
  | object (o : ObjectId)
  deriving DecidableEq

namespace Scalar

/-- The type of a scalar; null has none. -/
def primitive? : Scalar → Option Primitive
  | null => none
  | bool _ => some .boolean
  | char _ => some .char
  | int32 _ => some .int32
  | int64 _ => some .int64
  | double _ => some .double
  | string _ => some .string
  | dateTime _ => some .dateTime
  | object _ => some .object

/-- Equality of scalars; only doubles are not compared by what they are made of. -/
def same : Scalar → Scalar → Bool
  | double x, double y => x.same y
  | a, b => a = b

/-- The hash code of a scalar.  The zeros have one hash code and so do all patterns of
"not a number"; an object has its number. -/
def hash : Scalar → Int32
  | null => 0
  | bool b => if b then 1 else 0
  | char c => Hash.char c
  | int32 n => n
  | int64 n => Hash.fold n.toUInt64
  | double x =>
    if x.isZero then 0 else if x.isNaN then Hash.fold Binary64.nan.bits else Hash.fold x.bits
  | string s => Hash.text s
  | dateTime t => Hash.fold (Int64.ofInt t.ticks).toUInt64
  | object o => Int32.ofNat o.number

/-- Doubles are written in full for leading exponents from -4 to 14 and else with an exponent of at
least two digits and its sign. -/
def doubleStyle : Binary64.Style where
  layout := {
    lowest := -4
    highest := 15
    keepsPoint := false
    mark := "E"
    plus := "+"
    width := 2 }
  nan := "NaN"
  infinity := "Infinity"

/-- The text of a scalar; that of null is empty. -/
def text : Scalar → String
  | null => ""
  | bool b => if b then "True" else "False"
  | char c => c.toString
  | int32 n => toString n.toInt
  | int64 n => toString n.toInt
  | double x => x.write doubleStyle
  | string s => s
  | dateTime t => t.text
  | object _ => Primitive.object.fullName

end Scalar

end RecordTypes
