/-!
# Faults

What can be wrong with a request.  A `Misuse` is a request that no state of the program could
answer; the other faults depend on a value, a name or the backend.  Faults are causes: their wording
is in `Misuse.text` and `Fault.message` alone.
-/

namespace RecordTypes

/-- A request that makes no sense for the types it names. -/
inductive Misuse where
  /-- A class was to derive from something that is not a class. -/
  | baseNotClass (name base : String)
  /-- The parent may not be derived from. -/
  | sealedParent (parent : String)
  /-- The parent has no constructor without parameters. -/
  | parentNeedsArguments (parent : String)
  /-- The parent is a record type. -/
  | recordParent (parent : String)
  /-- The parent is a type parameter. -/
  | parameterParent (parent : String)
  /-- Two properties of one type share a name. -/
  | repeatedProperty (name : String)
  /-- A template was needed. -/
  | notTemplate (type : String)
  /-- A template was to be closed over a type that is itself open. -/
  | openArgument (argument template : String)
  /-- A closed record type was needed. -/
  | notClosed (type : String)
  /-- A record type was needed. -/
  | notRecord (type : String)
  /-- A template, which has no instances, was to be given one. -/
  | unboundTemplate (type : String)
  /-- An instance was to be seen as a type it does not derive from. -/
  | notAncestor (type ancestor : String)
  /-- Any other reason, in words. -/
  | other (reason : String)
  deriving DecidableEq

/-- The reason in words. -/
def Misuse.text : Misuse → String
  | baseNotClass name base => "base of class '" ++ name ++ "' must be a class, got '" ++ base ++ "'"
  | sealedParent parent => "parent type '" ++ parent ++ "' is sealed"
  | parentNeedsArguments parent =>
    "parent type '" ++ parent ++ "' must have a default constructor"
  | recordParent parent =>
    "parent type '" ++ parent ++ "' is a generated type and cannot be derived from"
  | parameterParent parent => "parent type '" ++ parent ++ "' is an unbound type parameter"
  | repeatedProperty name => "property '" ++ name ++ "' is declared more than once"
  | notTemplate type => "'" ++ type ++ "' is not a generic type definition"
  | openArgument argument template =>
    "type argument '" ++ argument ++ "' of '" ++ template ++ "' is not a closed type"
  | notClosed type => "'" ++ type ++ "' is not a closed generated type"
  | notRecord type => "'" ++ type ++ "' is not a generated type"
  | unboundTemplate type =>
    "'" ++ type ++ "' is a generic type definition; bind its type arguments before constructing it"
  | notAncestor type ancestor => "'" ++ type ++ "' does not derive from '" ++ ancestor ++ "'"
  | other reason => reason

/-- Why a request failed. -/
inductive Fault where
  /-- The request makes no sense. -/
  | misuse (cause : Misuse)
  /-- Two signatures share a key. -/
  | keyCollision (key : String)
  /-- The backend failed. -/
  | backend (message : String)
  /-- A type has no property or member of that name. -/
  | unknownProperty (owner name : String)
  /-- A property or member may not be written. -/
  | readOnly (owner name : String)
  /-- A value does not fit the type of its slot. -/
  | unfit (name expected actual : String)
  /-- The number of arguments is wrong. -/
  | argumentCount (type : String) (expected actual : Nat)
  /-- A constructor parameter has no value. -/
  | missingArgument (name : String)
  /-- A property is to be written at a position for which its instance has no slot.  There is no
  answer to that request: the program stops. -/
  | noSlot (position slots : Nat)
  deriving DecidableEq

namespace Fault

/-- The fault in words. -/
def message : Fault → String
  | misuse cause => "Configuration error: " ++ cause.text
  | keyCollision key =>
    "Invariant violation: cache key " ++ key ++ " is shared by two distinct signatures"
  | backend message => "Type construction failed: " ++ message
  | unknownProperty owner name => "Property not found: " ++ owner ++ "." ++ name
  | readOnly owner name => "Property is read-only: " ++ owner ++ "." ++ name
  | unfit name expected actual =>
    "Type mismatch for '" ++ name ++ "': expected " ++ expected ++ ", got " ++ actual
  | argumentCount type expected actual =>
    "Constructor of " ++ type ++ " expects " ++ toString expected ++ " arguments, got " ++
      toString actual
  | missingArgument name => "Missing value for constructor parameter '" ++ name ++ "'"
  | noSlot position slots =>
    "index out of bounds: the len is " ++ toString slots ++ " but the index is " ++
      toString position

/-- Whether the request made no sense. -/
def isMisuse : Fault → Bool
  | misuse _ => true
  | _ => false

/-- Whether the backend failed. -/
def isBackend : Fault → Bool
  | backend _ => true
  | _ => false

end Fault

end RecordTypes
