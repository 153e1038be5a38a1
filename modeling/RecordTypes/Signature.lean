import RecordTypes.Identity

/-!
# Signatures and their keys

A signature says everything that tells one generated type from another.  Its key is that content as
text: parts between bars, each name with its length in bytes in front, so that no character of a
name can be taken for a border between parts.

* template: `T|m0|p-|n2|1:a|3:b,c`
* closed: `I|t300|n2|#3|#7`
-/

namespace RecordTypes

/-- What identifies a generated type. -/
inductive Signature where
  /-- A template, by its property names, its mutability and its parent unless that is `Object`. -/
  | template (names : List String) (isMutable : Bool) (parent : Option TypeId)
  /-- A template closed over types. -/
  | closed (template : TypeId) (arguments : List TypeId)
  deriving DecidableEq

namespace Signature

/-- The number of properties. -/
def arity : Signature → Nat
  | template names _ _ => names.length
  | closed _ arguments => arguments.length

/-- A label and a number. -/
def labelled (label : String) (number : Nat) : String := label ++ toString number

/-- A name with its length in bytes. -/
def namePart (name : String) : String := toString name.utf8ByteSize ++ ":" ++ name

/-- The parent, or a dash. -/
def parentPart : Option TypeId → String
  | some t => labelled "p" t.number
  | none => "p-"

/-- The parts of the key. -/
def parts : Signature → List String
  | template names isMutable parent =>
    "T" :: (if isMutable then "m1" else "m0") :: parentPart parent ::
      labelled "n" names.length :: names.map namePart
  | closed definition arguments =>
    "I" :: labelled "t" definition.number :: labelled "n" arguments.length ::
      arguments.map fun t => labelled "#" t.number

/-- The key: the parts between bars. -/
def key (s : Signature) : String := "|".intercalate s.parts

end Signature

end RecordTypes
