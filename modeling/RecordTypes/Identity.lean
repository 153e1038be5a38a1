/-!
# Identities

Types, instances and plain objects are told apart by identity alone, never by what they hold.
A `TypeId` names one of the eight primitives or the `n`-th declared type; an `InstanceId` and an
`ObjectId` name what a heap allocated.  Identities are handed out in increasing order, so an older
thing always has the smaller number; `TypeId.rank` turns that order into a bound for walks along
base types.
-/

namespace RecordTypes

/-- The primitive types, in the order of their numbers. -/
inductive Primitive where
  | object | boolean | char | int32 | int64 | double | string | dateTime
  deriving DecidableEq

namespace Primitive

/-- Every primitive, in the order of their numbers. -/
def all : List Primitive := [object, boolean, char, int32, int64, double, string, dateTime]

/-- Place of a primitive in `all`. -/
def ordinal : Primitive → Nat
  | object => 0
  | boolean => 1
  | char => 2
  | int32 => 3
  | int64 => 4
  | double => 5
  | string => 6
  | dateTime => 7

/-- The simple name of a primitive. -/
def name : Primitive → String
  | object => "Object"
  | boolean => "Boolean"
  | char => "Char"
  | int32 => "Int32"
  | int64 => "Int64"
  | double => "Double"
  | string => "String"
  | dateTime => "DateTime"

/-- The name of a primitive with its namespace. -/
def fullName (p : Primitive) : String := "System." ++ p.name

/-- Values of a value type are never null; only objects and strings are not of one. -/
def isValueType : Primitive → Bool
  | object | string => false
  | _ => true

/-- The primitive of a given simple name. -/
def ofName? (name : String) : Option Primitive := all.find? (·.name = name)

theorem ordinal_lt (p : Primitive) : p.ordinal < 8 := by cases p <;> decide

theorem ordinal_injective {p q : Primitive} (h : p.ordinal = q.ordinal) : p = q := by
  cases p <;> cases q <;> first | rfl | exact absurd h (by decide)

end Primitive

/-- Identity of a type: a primitive, or the type declared `index`-th. -/
inductive TypeId where
  | builtin (primitive : Primitive)
  | declared (index : Nat)
  deriving DecidableEq

namespace TypeId

/-- The top type, from which every other type derives. -/
abbrev object : TypeId := builtin .object

/-- The number of the first declared type; smaller numbers belong to primitives. -/
def firstDeclared : Nat := 256

/-- The number shown for a type. -/
def number : TypeId → Nat
  | builtin p => p.ordinal + 1
  | declared n => firstDeclared + n

/-- Age of a type: a base type always has a smaller rank than what derives from it. -/
def rank : TypeId → Nat
  | builtin .object => 0
  | builtin _ => 1
  | declared n => n + 2

theorem number_injective {s t : TypeId} (h : s.number = t.number) : s = t := by
  cases s with
  | builtin p =>
    cases t with
    | builtin q => exact congrArg builtin (Primitive.ordinal_injective (Nat.succ.inj h))
    | declared n =>
      have := p.ordinal_lt
      simp only [number, firstDeclared] at h
      omega
  | declared m =>
    cases t with
    | builtin q =>
      have := q.ordinal_lt
      simp only [number, firstDeclared] at h
      omega
    | declared n => exact congrArg declared (Nat.add_left_cancel h)

end TypeId

/-- Identity of a plain object: an object without fields. -/
structure ObjectId where
  number : Nat
  deriving DecidableEq

/-- Identity of an instance of a record type: its place in the heap. -/
structure InstanceId where
  index : Nat
  deriving DecidableEq

end RecordTypes
