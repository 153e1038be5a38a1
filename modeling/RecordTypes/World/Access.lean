import RecordTypes.World.Basic

/-!
# Reading and writing slots

A name is looked up among the properties first and then among the inherited members, where the most
derived class wins.  A view sees an instance as one of its ancestors: only members that the ancestor
declares or inherits are visible, and properties are not.

A request to write has a result, which may be a fault, and leaves a heap behind either way.  It is
checked that the slot may be written, that it takes the value and, for a property, that there is a
slot at its position; then the slot is written.
-/

namespace RecordTypes

/-- An instance seen as one of its ancestors. -/
structure View where
  target : InstanceId
  ancestor : TypeId
  deriving DecidableEq

namespace World

/-- The layout of an instance. -/
def layoutOf? (w : World) (r : InstanceId) : Option Layout := w.types.layout? (w.heap.cell r).type

/-- The inherited members of an instance. -/
def inheritedOf (w : World) (r : InstanceId) : List InheritedMember :=
  ((w.layoutOf? r).map (·.inherited)).getD []

/-- The full name of the type of an instance. -/
def ownerName (w : World) (r : InstanceId) : String := w.types.fullName (w.heap.cell r).type

/-- Whether an ancestor declares or inherits a member; without an ancestor all members count. -/
def isVisible (w : World) (ancestor : Option TypeId) (m : InheritedMember) : Bool :=
  match ancestor with
  | none => true
  | some a => m.owner = a || w.types.derives a m.owner

/-- The inherited slot of a name, among those visible from an ancestor. -/
def inheritedIdx? (w : World) (r : InstanceId) (ancestor : Option TypeId) (name : String) :
    Option Nat :=
  lastIdx? (fun m => m.member.name = name && w.isVisible ancestor m) (w.inheritedOf r)

/-- Reads the inherited slot of a name. -/
def readInherited (w : World) (r : InstanceId) (ancestor : Option TypeId) (name : String) :
    Option Value := do
  (w.heap.cell r).inherited[← w.inheritedIdx? r ancestor name]?

/-- Writes an inherited slot, the `i`-th. -/
def writeInherited (w : World) (r : InstanceId) (i : Nat) (name : String) (v : Value) :
    Except Fault Unit × Heap :=
  match (w.inheritedOf r)[i]? with
  | none => (.error (.unknownProperty (w.ownerName r) name), w.heap)
  | some m =>
    if !m.member.canWrite then
      (.error (.readOnly (w.ownerName r) name), w.heap)
    else
      match w.checkFits name m.member.type v with
      | .error e => (.error e, w.heap)
      | .ok () => (.ok (), w.heap.setInherited r i v)

/-- Writes the own slot at the position of a property. -/
def writeOwn (w : World) (r : InstanceId) (p : Property) (name : String) (v : Value) :
    Except Fault Unit × Heap :=
  if !p.canWrite then
    (.error (.readOnly (w.ownerName r) name), w.heap)
  else
    match w.checkFits name p.type v with
    | .error e => (.error e, w.heap)
    | .ok () =>
      if p.position < (w.heap.cell r).own.length then
        (.ok (), w.heap.setOwn r p.position v)
      else
        (.error (.noSlot p.position (w.heap.cell r).own.length), w.heap)

/-- The value of a property, or else of an inherited member, of an instance. -/
def slot? (w : World) (r : InstanceId) (name : String) : Option Value :=
  match (w.layoutOf? r).bind (·.index? name) with
  | some i => (w.heap.cell r).own[i]?
  | none => w.readInherited r none name

/-- Reads a property or an inherited member of an instance. -/
def read (w : World) (r : InstanceId) (name : String) : Except Fault Value :=
  match w.slot? r name with
  | some v => .ok v
  | none => .error (.unknownProperty (w.ownerName r) name)

/-- Writes a property or an inherited member of an instance.  A property is written at its
position. -/
def write (w : World) (r : InstanceId) (name : String) (v : Value) : Except Fault Unit × Heap :=
  match (w.layoutOf? r).bind (·.property? name) with
  | some p => w.writeOwn r p name v
  | none =>
    match w.inheritedIdx? r none name with
    | some i => w.writeInherited r i name v
    | none => (.error (.unknownProperty (w.ownerName r) name), w.heap)

/-- The properties of an instance with their values, in order. -/
def fields (w : World) (r : InstanceId) : List (String × Value) :=
  ((w.types.properties (w.heap.cell r).type).map (·.name)).zip (w.heap.cell r).own

/-- Sees an instance as an ancestor. -/
def viewAs (w : World) (r : InstanceId) (ancestor : TypeId) : Except Fault View :=
  if w.types.derives (w.heap.cell r).type ancestor then .ok ⟨r, ancestor⟩
  else .error (.misuse (.notAncestor (w.ownerName r) (w.types.fullName ancestor)))

/-- Reads a member through a view. -/
def readVia (w : World) (view : View) (name : String) : Except Fault Value :=
  match w.readInherited view.target view.ancestor name with
  | some v => .ok v
  | none => .error (.unknownProperty (w.types.fullName view.ancestor) name)

/-- Writes a member through a view. -/
def writeVia (w : World) (view : View) (name : String) (v : Value) : Except Fault Unit × Heap :=
  match w.inheritedIdx? view.target view.ancestor name with
  | some i => w.writeInherited view.target i name v
  | none => (.error (.unknownProperty (w.types.fullName view.ancestor) name), w.heap)

end World

end RecordTypes
