import RecordTypes.Value

/-!
# Kinds of types

A type is a primitive, a class, a record type or a type parameter.  A record type is a template,
whose properties are typed by parameters, or a template closed over types.  Both have a layout: the
properties in the order of their positions, and the members that come with the parent.
-/

namespace RecordTypes

/-- The last place in a list at which a test holds. -/
def lastIdx? {α : Type} (p : α → Bool) : List α → Option Nat
  | [] => none
  | a :: rest =>
    match lastIdx? p rest with
    | some i => some (i + 1)
    | none => if p a then some 0 else none

/-- A parameter of a constructor. -/
structure Parameter where
  name : String
  type : TypeId
  position : Nat
  deriving DecidableEq

/-- Parameters numbered in the order given. -/
def Parameter.numbered (parameters : List (String × TypeId)) : List Parameter :=
  parameters.mapIdx fun i p => ⟨p.1, p.2, i⟩

/-- A member of a class, and the value the parameterless constructor gives it. -/
structure Member where
  name : String
  type : TypeId
  initial : Value
  canWrite : Bool
  deriving DecidableEq

/-- What is declared with a class. -/
structure ClassInfo where
  /-- The class derived from; none means `Object`. -/
  base : Option TypeId := none
  members : List Member := []
  /-- The parameter lists of the constructors declared. -/
  constructors : List (List Parameter) := []
  isSealed : Bool := false
  deriving DecidableEq

/-- Whether a class can be made without arguments: so declared, or no constructor declared. -/
def ClassInfo.hasDefaultConstructor (c : ClassInfo) : Bool :=
  c.constructors.isEmpty || c.constructors.any List.isEmpty

/-- A member of a class that a record type derives from. -/
structure InheritedMember where
  /-- The class that declares the member. -/
  owner : TypeId
  member : Member
  deriving DecidableEq

/-- A property of a record type. -/
structure Property where
  name : String
  type : TypeId
  /-- Where the property comes in the constructor, the hash code and the text. -/
  position : Nat
  canWrite : Bool
  /-- Whether a member of that name is inherited. -/
  hidesInherited : Bool := false
  deriving DecidableEq

/-- Whether a record type is open, and what it is closed over. -/
inductive Shape where
  | template (parameters : List TypeId)
  | closed (template : TypeId) (arguments : List TypeId)
  deriving DecidableEq

/-- Whether the shape is that of a template. -/
def Shape.isTemplate : Shape → Bool
  | template _ => true
  | closed _ _ => false

/-- The layout of a record type. -/
structure Layout where
  /-- In the order of their positions. -/
  properties : List Property
  /-- The type derived from; none means `Object`. -/
  parent : Option TypeId
  /-- The members of the parent and its bases, the most basic class first. -/
  inherited : List InheritedMember
  isMutable : Bool
  shape : Shape
  deriving DecidableEq

namespace Layout

/-- The layout of given properties: they are sorted by position, where equal positions keep their
order, and flagged if a member of their name is inherited. -/
def arrange (properties : List Property) (parent : Option TypeId)
    (inherited : List InheritedMember) (isMutable : Bool) (shape : Shape) : Layout where
  properties :=
    (properties.mergeSort fun p q => p.position ≤ q.position).map fun p =>
      { p with hidesInherited := inherited.any fun m => m.member.name = p.name }
  parent := parent
  inherited := inherited
  isMutable := isMutable
  shape := shape

/-- The number of properties. -/
def arity (l : Layout) : Nat := l.properties.length

/-- The place of a property in the layout; of several with one name, that of the last. -/
def index? (l : Layout) (name : String) : Option Nat := lastIdx? (·.name = name) l.properties

/-- The property of a name; of several, the last. -/
def property? (l : Layout) (name : String) : Option Property := do l.properties[← l.index? name]?

/-- The constructor takes one argument per property. -/
def constructor (l : Layout) : List Parameter :=
  Parameter.numbered (l.properties.map fun p => (p.name, p.type))

end Layout

/-- What a type is. -/
inductive Kind where
  | primitive (p : Primitive)
  | nominal (info : ClassInfo)
  | record (layout : Layout)
  | parameter (position : Nat)
  deriving DecidableEq

end RecordTypes
