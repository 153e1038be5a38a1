import RecordTypes.Universe.Ancestry
import RecordTypes.Heap.Tree
import RecordTypes.Fault
import RecordTypes.Fields

/-!
# Types and instances together

A world is a universe of types and a heap of instances of them.  Here classes are declared and
record types are given instances.

A request for an instance has a result, which may be a fault, and leaves a heap behind either way.
Its checks come before the instance is made, in the order in which they stand here.
-/

namespace RecordTypes

/-- The types and the instances made so far. -/
structure World where
  types : Universe := {}
  heap : Heap := {}

namespace World

/-- Whether a slot of a type takes a value. -/
def fits (w : World) (t : TypeId) (v : Value) : Bool := w.types.admits t (w.heap.typeOf? v)

/-- The full name of a value's type. -/
def typeName (w : World) (v : Value) : String :=
  match w.heap.typeOf? v with
  | some t => w.types.fullName t
  | none => "null"

/-- The text of a value. -/
def text? (w : World) (v : Value) : Option String :=
  (w.heap.tree? v).map (Tree.text fun t => (w.types.properties t).map (·.name))

/-- Refuses a value that a slot named `name` of type `t` does not take. -/
def checkFits (w : World) (name : String) (t : TypeId) (v : Value) : Except Fault Unit :=
  if w.fits t v then .ok () else .error (.unfit name (w.types.fullName t) (w.typeName v))

/-- Refuses a list of arguments for the first one that does not fit its parameter. -/
def checkArguments (w : World) : List Parameter → List Value → Except Fault Unit
  | p :: ps, v :: vs => do
    w.checkFits p.name p.type v
    checkArguments w ps vs
  | _, _ => .ok ()

/-- Refuses a list of members for the first one whose initial value does not fit. -/
def checkMembers (w : World) (owner : String) : List Member → Except Fault Unit
  | [] => .ok ()
  | m :: ms => do
    w.checkFits (owner ++ "." ++ m.name) m.type m.initial
    checkMembers w owner ms

/-- Refuses a base that is not a class. -/
def checkBase (w : World) (name : String) : Option TypeId → Except Fault Unit
  | none => .ok ()
  | some b =>
    if (w.types.class? b).isSome then .ok ()
    else .error (.misuse (.baseNotClass name (w.types.fullName b)))

/-- Declares a class. -/
def declareClass (w : World) (name : String) (c : ClassInfo) :
    Except Fault (TypeId × Universe) := do
  w.checkBase name c.base
  w.checkMembers name c.members
  return (w.types.next, w.types.add ⟨name, .nominal c⟩)

/-- Makes an instance of a closed record type from one argument per property. -/
def create (w : World) (t : TypeId) (arguments : List Value) : Except Fault InstanceId × Heap :=
  match w.types.layout? t with
  | none => (.error (.misuse (.notRecord (w.types.fullName t))), w.heap)
  | some l =>
    if l.shape.isTemplate then
      (.error (.misuse (.unboundTemplate (w.types.fullName t))), w.heap)
    else if arguments.length ≠ l.constructor.length then
      (.error (.argumentCount (w.types.fullName t) l.constructor.length arguments.length), w.heap)
    else
      match w.checkArguments l.constructor arguments with
      | .error e => (.error e, w.heap)
      | .ok () =>
        let (made, heap) := w.heap.allocate t arguments l.inherited
        (.ok made, heap)

/-- The arguments for constructor parameters, found by name. -/
def argumentsFor (values : Fields Value) : List Parameter → Except Fault (List Value)
  | [] => .ok []
  | p :: ps =>
    match values.get? p.name with
    | none => .error (.missingArgument p.name)
    | some v => do return v :: (← argumentsFor values ps)

/-- Makes an instance of a closed record type from values for the names of its properties. -/
def createNamed (w : World) (t : TypeId) (values : Fields Value) :
    Except Fault InstanceId × Heap :=
  match w.types.layout? t with
  | none => (.error (.misuse (.notClosed (w.types.fullName t))), w.heap)
  | some l =>
    if l.shape.isTemplate then
      (.error (.misuse (.notClosed (w.types.fullName t))), w.heap)
    else
      match values.names.find? fun name => (l.index? name).isNone with
      | some name => (.error (.unknownProperty (w.types.fullName t) name), w.heap)
      | none =>
        match argumentsFor values l.constructor with
        | .error e => (.error e, w.heap)
        | .ok arguments => w.create t arguments

end World

end RecordTypes
