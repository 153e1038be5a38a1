/-!
# Names of generated types

A template is named by a prefix, its index and its arity; the type parameter of a property is named
after the property.
-/

namespace RecordTypes

/-- The two texts that names of generated types are made with. -/
structure Naming where
  /-- What a template's name starts with. -/
  typePrefix : String := "<>f__LatticeUtilsAnonymousType"
  /-- What a type parameter's name ends in. -/
  parameterSuffix : String := "j__TPar"
  deriving DecidableEq

namespace Naming

/-- The naming in use unless another one is chosen. -/
def standard : Naming := {}

/-- The name of the template of a given index and arity. -/
def typeName (n : Naming) (index arity : Nat) : String :=
  n.typePrefix ++ toString index ++ "`" ++ toString arity

/-- The name of the type parameter of a property. -/
def parameterName (n : Naming) (property : String) : String :=
  "<" ++ property ++ ">" ++ n.parameterSuffix

end Naming

end RecordTypes
