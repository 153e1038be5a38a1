import RecordTypes.Scalar

/-!
# Values

A value is a scalar or a reference to an instance.  What an instance holds is kept by the heap, so
two references are the same value exactly if they name the same instance; deep equality, hash codes
and texts are those of the tree that a value unfolds to.
-/

namespace RecordTypes

/-- A scalar, or a reference to an instance of a record type. -/
inductive Value where
  | scalar (s : Scalar)
  | ref (r : InstanceId)
  deriving DecidableEq

namespace Value

/-- The null value. -/
abbrev null : Value := scalar .null

/-- Whether a value is null. -/
def isNull (v : Value) : Bool := v = null

/-- Whether a value is a plain object. -/
def isObject : Value → Bool
  | scalar (.object _) => true
  | _ => false

end Value

end RecordTypes
