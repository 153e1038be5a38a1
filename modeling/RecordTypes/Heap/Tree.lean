import RecordTypes.Heap.Basic

/-!
# Values unfolded

A value unfolds to a tree: a scalar is a leaf, and a reference is a node with a subtree per own
slot of its instance.  Equality, hash code and text of a value are those of its tree, and each is
one recursion over it.  Inherited slots play no part.

`Heap.tree?` is defined where no instance is met within itself; then no path is longer than the heap
is large, so the number of cells bounds the recursion.
-/

namespace RecordTypes

/-- A value with all that it reaches through own slots. -/
inductive Tree where
  | leaf (s : Scalar)
  | node (r : InstanceId) (type : TypeId) (slots : List Tree)

namespace Tree

mutual

/-- Equality field by field: leaves as scalars, nodes if they are one instance, or of one type with
equal slots. -/
def same : Tree → Tree → Bool
  | leaf a, leaf b => a.same b
  | node r t xs, node r' t' ys => r = r' || (t = t' && sameAll xs ys)
  | _, _ => false

/-- Equality of as many trees in order. -/
def sameAll : List Tree → List Tree → Bool
  | [], [] => true
  | x :: xs, y :: ys => same x y && sameAll xs ys
  | _, _ => false

end

mutual

/-- The hash code: that of a node is made of those of its slots. -/
def hash : Tree → Int32
  | leaf s => s.hash
  | node _ _ slots => Hash.fields (hashes slots)

/-- The hash codes of trees in order. -/
def hashes : List Tree → List Int32
  | [] => []
  | x :: xs => hash x :: hashes xs

end

/-- The text of a node, from the names of its properties and the texts of its slots. -/
def nodeText (names texts : List String) : String :=
  match texts with
  | [] => "\x7b \x7d"
  | _ => "\x7b " ++ ", ".intercalate (names.zipWith (fun n t => n ++ " = " ++ t) texts) ++ " \x7d"

mutual

/-- The text, where `names` gives the names of the properties of a type. -/
def text (names : TypeId → List String) : Tree → String
  | leaf s => s.text
  | node _ t slots => nodeText (names t) (texts names slots)

/-- The texts of trees in order. -/
def texts (names : TypeId → List String) : List Tree → List String
  | [] => []
  | x :: xs => text names x :: texts names xs

end

mutual

/-- Whether a plain object occurs in a tree. -/
def holdsObject : Tree → Bool
  | leaf (.object _) => true
  | leaf _ => false
  | node _ _ slots => anyHoldsObject slots

/-- Whether a plain object occurs in one of several trees. -/
def anyHoldsObject : List Tree → Bool
  | [] => false
  | x :: xs => holdsObject x || anyHoldsObject xs

end

/-- The places of the trees that equal no earlier tree. -/
def distinctFrom (seen : List Tree) (i : Nat) : List Tree → List Nat
  | [] => []
  | x :: xs =>
    if seen.any (same · x) then distinctFrom seen (i + 1) xs
    else i :: distinctFrom (x :: seen) (i + 1) xs

/-- The places of the first trees of each sort. -/
def distinct (xs : List Tree) : List Nat := distinctFrom [] 0 xs

end Tree

namespace Heap

/-- Unfolds a value through at most `depth` instances on a path. -/
def treeWithin (h : Heap) : Nat → Value → Option Tree
  | _, .scalar s => some (.leaf s)
  | 0, .ref _ => none
  | depth + 1, .ref r =>
    ((h.cell r).own.mapM (treeWithin h depth)).map (.node r (h.cell r).type)

/-- The tree of a value; there is none if an instance is met within itself. -/
def tree? (h : Heap) (v : Value) : Option Tree := h.treeWithin (h.cells.size + 1) v

/-- Deep equality of two values. -/
def same? (h : Heap) (a b : Value) : Option Bool := do return (← h.tree? a).same (← h.tree? b)

/-- The hash code of a value. -/
def hash? (h : Heap) (v : Value) : Option Int32 := (h.tree? v).map Tree.hash

end Heap

end RecordTypes
