import RecordTypes.Universe.Basic

/-!
# Ancestry

Every type but `Object` has a base type, and every base type is older than what derives from it.
Following the base types of `t` therefore takes at most `t.rank` steps.  A type can stand for
another if it is that type, an ancestor of it, or `Object`.
-/

namespace RecordTypes

namespace Universe

/-- The base type: the one declared, or `Object`; `Object` itself has none. -/
def base? (u : Universe) (t : TypeId) : Option TypeId :=
  match u.kind? t with
  | some (.primitive .object) | none => none
  | some (.nominal c) => some (c.base.getD .object)
  | some (.record l) => some (l.parent.getD .object)
  | some (.primitive _) | some (.parameter _) => some .object

/-- The first `fuel` proper ancestors of a type, the nearest first. -/
def ancestorsWithin (u : Universe) : Nat → TypeId → List TypeId
  | 0, _ => []
  | fuel + 1, t =>
    match u.base? t with
    | none => []
    | some b => b :: ancestorsWithin u fuel b

/-- The proper ancestors of a type, the nearest first. -/
def ancestors (u : Universe) (t : TypeId) : List TypeId := u.ancestorsWithin t.rank t

/-- Whether a type derives from another, which is not itself. -/
def derives (u : Universe) (t ancestor : TypeId) : Bool := (u.ancestors t).contains ancestor

/-- Whether a slot of type `t` takes the values of type `actual`. -/
def isAssignable (u : Universe) (t actual : TypeId) : Bool :=
  t = actual || t = .object || u.derives actual t

/-- Whether a slot of a type takes null. -/
def isNullable (u : Universe) (t : TypeId) : Bool :=
  match u.kind? t with
  | some (.primitive p) => !p.isValueType
  | some (.nominal _) | some (.record _) => true
  | some (.parameter _) | none => false

/-- Whether a slot of type `t` takes a value of type `actual`, which is none for null. -/
def admits (u : Universe) (t : TypeId) : Option TypeId → Bool
  | none => u.isNullable t
  | some actual => u.isAssignable t actual

/-- The first `fuel` classes met from a type on along declared bases, the most derived first. -/
def classesWithin (u : Universe) : Nat → TypeId → List (TypeId × ClassInfo)
  | 0, _ => []
  | fuel + 1, t =>
    match u.class? t with
    | none => []
    | some c => (t, c) :: (c.base.map (classesWithin u fuel)).getD []

/-- A class and the classes it derives from, the most derived first. -/
def classes (u : Universe) (t : TypeId) : List (TypeId × ClassInfo) :=
  u.classesWithin (t.rank + 1) t

/-- The members of a class and the classes it derives from, the most basic class first. -/
def members (u : Universe) (t : TypeId) : List InheritedMember :=
  (u.classes t).reverse.flatMap fun (owner, c) => c.members.map fun m => ⟨owner, m⟩

/-- The layout of given properties over a parent. -/
def layout (u : Universe) (properties : List Property) (parent : Option TypeId)
    (isMutable : Bool) (shape : Shape) : Layout :=
  .arrange properties parent ((parent.map u.members).getD []) isMutable shape

end Universe

end RecordTypes
