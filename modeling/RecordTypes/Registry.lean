import RecordTypes.Foundry
import RecordTypes.Memo
import RecordTypes.World.Basic

/-!
# Registries

A registry gives equal requests the same type.  A record type is found in two steps, both by way of
the memo: first the template for the names, the mutability and the parent, then the template closed
over the types of the fields.  Objects are made from named values, whose types make up the type of
the object.
-/

namespace RecordTypes

/-- A type that is known to be a template. -/
structure Template where
  type : TypeId
  deriving DecidableEq

/-- Takes a type for a template, if it is one. -/
def Universe.asTemplate (u : Universe) (t : TypeId) : Except Fault Template := do
  u.checkTemplate t
  return ⟨t⟩

/-- Whether a closed type was made from a template. -/
def Universe.isMadeFrom (u : Universe) (t : TypeId) (template : Template) : Bool :=
  !u.isTemplate t && u.template? t = some template.type

/-- What a type is requested with, besides its fields. -/
structure Options where
  isMutable : Bool := false
  /-- The class to derive from; none means `Object`. -/
  parent : Option TypeId := none
  deriving DecidableEq

/-- A memo in front of a foundry, and the naming of new types. -/
structure Registry (σ : Type) where
  naming : Naming := .standard
  memo : Memo := {}
  foundry : Foundry σ

namespace Registry

variable {σ : Type}

/-- A registry that has made nothing. -/
def new (naming : Naming) (backend : σ) : Registry σ := { naming, foundry := { backend } }

/-- Names new types in another way from here on. -/
def rename (r : Registry σ) (naming : Naming) : Registry σ := { r with naming }

/-- The template for names, mutability and parent. -/
def templateFor (b : Backend σ) (r : Registry σ) (u : Universe) (names : List String)
    (options : Options) : Except Fault Template × Registry σ × Universe :=
  let parent := properParent options.parent
  let (result, memo, foundry, u) :=
    r.memo.resolve (.template names options.isMutable parent)
      (fun _ s => Foundry.castTemplate b r.naming names options.isMutable parent s.1 s.2)
      (r.foundry, u)
  (result.bind u.asTemplate, { r with memo, foundry }, u)

/-- The template for names that must not repeat. -/
def template (b : Backend σ) (r : Registry σ) (u : Universe) (names : List String)
    (options : Options) : Except Fault Template × Registry σ × Universe :=
  match checkNames names with
  | .error e => (.error e, r, u)
  | .ok () => templateFor b r u names options

/-- A template closed over types. -/
def close (b : Backend σ) (r : Registry σ) (u : Universe) (template : Template)
    (arguments : List TypeId) : Except Fault TypeId × Registry σ × Universe :=
  let (result, memo, foundry, u) :=
    r.memo.resolve (.closed template.type arguments)
      (fun _ s => Foundry.castClosed b template.type arguments s.1 s.2) (r.foundry, u)
  (result, { r with memo, foundry }, u)

/-- The record type of given fields. -/
def recordType (b : Backend σ) (r : Registry σ) (u : Universe) (fields : Fields TypeId)
    (options : Options) : Except Fault TypeId × Registry σ × Universe :=
  match templateFor b r u fields.names options with
  | (.error e, r, u) => (.error e, r, u)
  | (.ok template, r, u) => close b r u template fields.values

/-- The type of the slot that is made for a value: its own type, or `Object` for null. -/
def slotType (h : Heap) (v : Value) : TypeId := (h.typeOf? v).getD .object

/-- An object with given fields, of the record type that their values call for. -/
def make (b : Backend σ) (r : Registry σ) (w : World) (values : Fields Value) :
    Except Fault InstanceId × Registry σ × World :=
  match recordType b r w.types (values.map (slotType w.heap)) {} with
  | (.error e, r, types) => (.error e, r, { w with types })
  | (.ok t, r, types) =>
    let (made, heap) := { w with types }.create t values.values
    (made, r, ⟨types, heap⟩)

/-- An object with given fields: of a given type, where the values are bound by name, or of the
record type that the values call for. -/
def object (b : Backend σ) (r : Registry σ) (w : World) (values : Fields Value) :
    Option TypeId → Except Fault InstanceId × Registry σ × World
  | none => make b r w values
  | some t =>
    let (made, heap) := w.createNamed t values
    (made, r, { w with heap })

end Registry

end RecordTypes
