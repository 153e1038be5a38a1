import RecordTypes.World.Basic
import RecordTypes.Registry
import RecordTypes.Text.Invisible
import RecordTypes.Text.Extending

/-!
# Inspection texts

Texts that show how a thing is built, for logs and error reports.  Unlike the plain text of a value
they name its kind, quote strings and always show a double as one.  Between quotes every character
that could not be made out by itself is written as its code point.
-/

namespace RecordTypes

namespace Inspection

/-- A character as it stands between quotes of a given sort: some have an escape of their own, and
those that are invisible or extend the one before are written as their code point. -/
def escape (quote : Char) (c : Char) : String :=
  if c = '\n' then "\\n"
  else if c = '\r' then "\\r"
  else if c = '\t' then "\\t"
  else if c = '\x00' then "\\0"
  else if c = '\\' || c = quote then "\\" ++ c.toString
  else if Text.isExtending c || Text.isInvisible c then
    "\\u\x7b" ++ .ofList (Nat.toDigits 16 c.toNat) ++ "\x7d"
  else c.toString

/-- A text between double quotes. -/
def quoted (s : String) : String := "\"" ++ String.join (s.toList.map (escape '\x22')) ++ "\""

/-- A character between single quotes. -/
def quotedChar (c : Char) : String := "'" ++ escape '\x27' c ++ "'"

/-- A kind and what it is made of. -/
def wrapped (kind content : String) : String := kind ++ "(" ++ content ++ ")"

/-- Doubles are written in full for leading exponents from -4 to 15, with a point in any case. -/
def doubleStyle : Binary64.Style where
  layout := {
    lowest := -4
    highest := 16
    keepsPoint := true
    mark := "e"
    plus := ""
    width := 1 }
  nan := "NaN"
  infinity := "inf"

/-- A number with zeros in front up to a width. -/
def padded (width n : Nat) : String :=
  .ofList (List.replicate (width - (digits n).length) '0' ++ digits n)

/-- A year has four digits at least, and a sign unless it is between 0 and 9999. -/
def year (y : Int) : String :=
  if 0 ≤ y ∧ y ≤ 9999 then padded 4 y.toNat
  else (if y < 0 then "-" else "+") ++ padded 4 y.natAbs

/-- The fraction of a second: none, or as few of three, six and nine digits as will do. -/
def fraction (nanosecond : Nat) : String :=
  if nanosecond = 0 then ""
  else if nanosecond % 1000000 = 0 then "." ++ padded 3 (nanosecond / 1000000)
  else if nanosecond % 1000 = 0 then "." ++ padded 6 (nanosecond / 1000)
  else "." ++ padded 9 nanosecond

/-- A moment with the largest unit first. -/
def dateTime (t : DateTime) : String :=
  year t.year ++ "-" ++ padded 2 t.month ++ "-" ++ padded 2 t.day ++ "T" ++
    padded 2 t.hour ++ ":" ++ padded 2 t.minute ++ ":" ++ padded 2 t.shownSecond ++
    fraction (t.nanosecond % 1000000000)

/-- A scalar with its kind. -/
def scalar : Scalar → String
  | .null => "Null"
  | .bool b => wrapped "Bool" (if b then "true" else "false")
  | .char c => wrapped "Char" (quotedChar c)
  | .int32 n => wrapped "I32" (toString n.toInt)
  | .int64 n => wrapped "I64" (toString n.toInt)
  | .double x => wrapped "F64" (x.write doubleStyle)
  | .string s => wrapped "String" (quoted s)
  | .dateTime t => wrapped "DateTime" (dateTime t)
  | .object o => wrapped "Object" (wrapped "ObjectRef" ("#" ++ toString o.number))

/-- An instance, from the name of its type and the texts of its slots. -/
def node (typeName : String) (slots : List String) : String :=
  wrapped "Instance"
    ("Instance \x7b type: " ++ quoted typeName ++ ", values: [" ++ ", ".intercalate slots ++
      "] \x7d")

mutual

/-- A tree, where `names` gives the full names of types. -/
def tree (names : TypeId → String) : Tree → String
  | .leaf s => scalar s
  | .node _ t slots => node (names t) (trees names slots)

/-- Trees in order. -/
def trees (names : TypeId → String) : List Tree → List String
  | [] => []
  | x :: xs => tree names x :: trees names xs

end

/-- A type with its number. -/
def typeId (u : Universe) (t : TypeId) : String :=
  wrapped "TypeHandle" (u.fullName t ++ "#" ++ toString t.number)

/-- A template with its number. -/
def template (u : Universe) (t : Template) : String := wrapped "GenericTemplate" (typeId u t.type)

/-- A naming. -/
def naming (n : Naming) : String :=
  "FactoryConfig \x7b type_name_prefix: " ++ quoted n.typePrefix ++
    ", generic_parameter_suffix: " ++ quoted n.parameterSuffix ++ " \x7d"

/-- A registry, by its naming and the number of types it holds. -/
def registry {σ : Type} (r : Registry σ) : String :=
  "TypeFactory \x7b config: " ++ naming r.naming ++ ", cached_types: " ++
    toString r.memo.length ++ ", .. \x7d"

/-- A foundry, by the index of the next template. -/
def foundry {σ : Type} (f : Foundry σ) : String :=
  "TypeBuilder \x7b templates_built: " ++ toString f.nextIndex ++ ", .. \x7d"

end Inspection

/-- The inspection text of a value. -/
def World.inspect? (w : World) (v : Value) : Option String :=
  (w.heap.tree? v).map (Inspection.tree w.types.fullName)

end RecordTypes
