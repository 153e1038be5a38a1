import RecordTypes.Universe.Kind

/-!
# The heap

Instances live in a heap of cells and are shared by reference: a value that refers to an instance
sees every later write to it.  A cell has one slot per property of its type and one per inherited
member.  Cells are never freed, and plain objects have nothing but their number, so the heap only
counts them.
-/

namespace RecordTypes

/-- What an instance holds. -/
structure Cell where
  type : TypeId
  /-- One value per property, in order. -/
  own : List Value
  /-- One value per inherited member, in order. -/
  inherited : List Value
  deriving DecidableEq

/-- All instances, and the number of plain objects, made so far. -/
structure Heap where
  cells : Array Cell := #[]
  objects : Nat := 0

namespace Heap

/-- What an instance holds; a reference to no instance is taken for one to a bare object. -/
def cell (h : Heap) (r : InstanceId) : Cell := h.cells[r.index]?.getD ⟨.object, [], []⟩

/-- The reference that the next instance will have. -/
def next (h : Heap) : InstanceId := ⟨h.cells.size⟩

/-- Makes a plain object. -/
def newObject (h : Heap) : ObjectId × Heap := (⟨h.objects + 1⟩, { h with objects := h.objects + 1 })

/-- Changes what an instance holds. -/
def modify (h : Heap) (r : InstanceId) (f : Cell → Cell) : Heap :=
  { h with cells := h.cells.modify r.index f }

/-- Writes the `i`-th own slot of an instance. -/
def setOwn (h : Heap) (r : InstanceId) (i : Nat) (v : Value) : Heap :=
  h.modify r fun c => { c with own := c.own.set i v }

/-- Writes the `i`-th inherited slot of an instance. -/
def setInherited (h : Heap) (r : InstanceId) (i : Nat) (v : Value) : Heap :=
  h.modify r fun c => { c with inherited := c.inherited.set i v }

/-- The type of a value; null has none. -/
def typeOf? (h : Heap) : Value → Option TypeId
  | .scalar s => s.primitive?.map .builtin
  | .ref r => some (h.cell r).type

/-- The values that inherited members start with, when `objects` objects were made before, and the
number made after: a member whose default is an object gets a new one. -/
def initials (objects : Nat) : List InheritedMember → List Value × Nat
  | [] => ([], objects)
  | m :: rest =>
    if m.member.initial.isObject then
      let (values, made) := initials (objects + 1) rest
      (.scalar (.object ⟨objects + 1⟩) :: values, made)
    else
      let (values, made) := initials objects rest
      (m.member.initial :: values, made)

/-- Makes an instance with given own slots. -/
def allocate (h : Heap) (type : TypeId) (own : List Value) (members : List InheritedMember) :
    InstanceId × Heap :=
  let (inherited, objects) := initials h.objects members
  (h.next, ⟨h.cells.push ⟨type, own, inherited⟩, objects⟩)

end Heap

end RecordTypes
