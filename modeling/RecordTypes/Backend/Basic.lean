import RecordTypes.Universe.Basic
import RecordTypes.Fault

/-!
# Backends

A backend turns requests that were found valid into types: it defines templates and closes them over
types.  It may keep a state, declare auxiliary types on the way and fail.  What it asks for is a
`Casting`; the universe carries it out, so that a backend can add types and nothing else.
-/

namespace RecordTypes

/-- A request for a template. -/
structure TemplateRequest where
  /-- The name of the template. -/
  name : String
  /-- The names of the properties, in order. -/
  propertyNames : List String
  /-- The names of the type parameters, one per property. -/
  parameterNames : List String
  isMutable : Bool
  /-- The class to derive from; none means `Object`. -/
  parent : Option TypeId
  deriving DecidableEq

/-- What a backend answers: the types to declare on the way, and the type asked for or the reason
why there is none. -/
structure Casting where
  auxiliary : List Descriptor
  outcome : Except String Descriptor

/-- A casting that declares one type. -/
def Casting.single (d : Descriptor) : Casting := ⟨[], .ok d⟩

/-- A casting that declares nothing, for a reason. -/
def Casting.fail (reason : String) : Casting := ⟨[], .error reason⟩

/-- Declares what a casting asks for. -/
def Universe.cast (u : Universe) (c : Casting) : Except Fault TypeId × Universe :=
  let u := u.addAll c.auxiliary
  match c.outcome with
  | .ok d => (.ok u.next, u.add d)
  | .error reason => (.error (.backend reason), u)

/-- A way to make types, with states in `σ`. -/
structure Backend (σ : Type) where
  /-- Defines a template. -/
  define : σ → Universe → TemplateRequest → Casting × σ
  /-- Closes a template over types, one per property. -/
  close : σ → Universe → TypeId → List TypeId → Casting × σ

end RecordTypes
