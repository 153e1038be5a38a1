import RecordTypes.Universe.Kind

/-!
# The universe of types

All types declared so far.  A type, once declared, never changes and never goes; new types take the
next identity.  The primitives belong to every universe.
-/

namespace RecordTypes

/-- A type that is about to be declared. -/
structure Descriptor where
  name : String
  kind : Kind
  deriving DecidableEq

/-- A declared type. -/
structure TypeEntry extends Descriptor where
  /-- The name with the types that a closed record type is closed over. -/
  fullName : String
  deriving DecidableEq

/-- The types declared so far, the oldest first. -/
structure Universe where
  entries : Array TypeEntry := #[]

namespace Universe

/-- What is known of a type; nothing, if it was not declared. -/
def entry? (u : Universe) : TypeId → Option TypeEntry
  | .builtin p => some ⟨⟨p.name, .primitive p⟩, p.fullName⟩
  | .declared n => u.entries[n]?

/-- The identity that the next type will take. -/
def next (u : Universe) : TypeId := .declared u.entries.size

/-- What a type is. -/
def kind? (u : Universe) (t : TypeId) : Option Kind := (u.entry? t).map (·.kind)

/-- The simple name of a type. -/
def name (u : Universe) (t : TypeId) : String := ((u.entry? t).map (·.name)).getD ""

/-- The full name of a type. -/
def fullName (u : Universe) (t : TypeId) : String := ((u.entry? t).map (·.fullName)).getD ""

/-- The full name that a type will have: a closed record type lists the types it is closed over. -/
def fullNameOf (u : Universe) (d : Descriptor) : String :=
  match d.kind with
  | .record { shape := .closed _ arguments, .. } =>
    d.name ++ "[" ++ ",".intercalate (arguments.map u.fullName) ++ "]"
  | _ => d.name

/-- Adds a type. -/
def add (u : Universe) (d : Descriptor) : Universe :=
  ⟨u.entries.push ⟨d, u.fullNameOf d⟩⟩

/-- Adds types in order. -/
def addAll (u : Universe) (ds : List Descriptor) : Universe := ds.foldl add u

/-- The layout of a record type. -/
def layout? (u : Universe) (t : TypeId) : Option Layout :=
  match u.kind? t with
  | some (.record l) => some l
  | _ => none

/-- What was declared with a class. -/
def class? (u : Universe) (t : TypeId) : Option ClassInfo :=
  match u.kind? t with
  | some (.nominal c) => some c
  | _ => none

/-- Whether a record type is open, and what it is closed over. -/
def shape? (u : Universe) (t : TypeId) : Option Shape := (u.layout? t).map (·.shape)

/-- Whether a type is a record type, open or closed. -/
def isRecord (u : Universe) (t : TypeId) : Bool := (u.layout? t).isSome

/-- Whether a type is a template. -/
def isTemplate (u : Universe) (t : TypeId) : Bool := (u.shape? t).any (·.isTemplate)

/-- Whether a type is a type parameter. -/
def isParameter (u : Universe) (t : TypeId) : Bool :=
  match u.kind? t with
  | some (.parameter _) => true
  | _ => false

/-- Whether a type stands for no values of its own: a template or a type parameter. -/
def isOpen (u : Universe) (t : TypeId) : Bool := u.isTemplate t || u.isParameter t

/-- The properties of a record type, in order. -/
def properties (u : Universe) (t : TypeId) : List Property :=
  ((u.layout? t).map (·.properties)).getD []

/-- The types that a closed record type is closed over. -/
def arguments (u : Universe) (t : TypeId) : List TypeId :=
  match u.shape? t with
  | some (.closed _ arguments) => arguments
  | _ => []

/-- The parameters of a template. -/
def parameters (u : Universe) (t : TypeId) : List TypeId :=
  match u.shape? t with
  | some (.template parameters) => parameters
  | _ => []

/-- The template of a record type; a template is its own. -/
def template? (u : Universe) (t : TypeId) : Option TypeId :=
  match u.shape? t with
  | some (.closed template _) => some template
  | some (.template _) => some t
  | none => none

/-- The parameter lists of the constructors of a type. -/
def constructors (u : Universe) (t : TypeId) : List (List Parameter) :=
  match u.kind? t with
  | some (.record l) => [l.constructor]
  | some (.nominal c) => c.constructors
  | _ => []

/-- Whether an instance of a type can be made without arguments. -/
def hasDefaultConstructor (u : Universe) (t : TypeId) : Bool :=
  match u.kind? t with
  | some (.primitive p) => p = .object
  | some (.nominal c) => c.hasDefaultConstructor
  | some (.record l) => l.constructor.isEmpty
  | _ => false

end Universe

end RecordTypes
