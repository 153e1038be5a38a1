import RecordTypes.Backend.Basic
import RecordTypes.Naming

/-!
# The foundry

A foundry checks requests, names templates and has its backend cast the types.  A request that fails
the checks does not reach the backend.
-/

namespace RecordTypes

/-- `Object` as a parent says no more than no parent. -/
def properParent (parent : Option TypeId) : Option TypeId := parent.filter (· ≠ .object)

/-- The first name in a list that stood there before. -/
def firstRepeated? : List String → List String → Option String
  | _, [] => none
  | seen, name :: rest =>
    if seen.contains name then some name else firstRepeated? (name :: seen) rest

/-- Refuses names of which one is repeated. -/
def checkNames (names : List String) : Except Fault Unit :=
  match firstRepeated? [] names with
  | some name => .error (.misuse (.repeatedProperty name))
  | none => .ok ()

namespace Universe

/-- Refuses a parent, unless it is `Object` or a class that is not sealed and can be made without
arguments. -/
def checkParent (u : Universe) (parent : TypeId) : Except Fault Unit :=
  let name := u.fullName parent
  match u.kind? parent with
  | some (.primitive .object) => .ok ()
  | some (.nominal c) =>
    if c.isSealed then .error (.misuse (.sealedParent name))
    else if !c.hasDefaultConstructor then .error (.misuse (.parentNeedsArguments name))
    else .ok ()
  | some (.record _) => .error (.misuse (.recordParent name))
  | some (.primitive _) => .error (.misuse (.sealedParent name))
  | some (.parameter _) | none => .error (.misuse (.parameterParent name))

/-- Refuses an optional parent. -/
def checkParent? (u : Universe) : Option TypeId → Except Fault Unit
  | none => .ok ()
  | some parent => u.checkParent parent

/-- Refuses what is not a template. -/
def checkTemplate (u : Universe) (t : TypeId) : Except Fault Unit :=
  if u.isTemplate t then .ok () else .error (.misuse (.notTemplate (u.fullName t)))

/-- Refuses arguments for a template if there are too many, too few or open ones. -/
def checkArguments (u : Universe) (template : TypeId) (arguments : List TypeId) :
    Except Fault Unit :=
  let arity := (u.properties template).length
  if arguments.length ≠ arity then
    .error (.argumentCount (u.fullName template) arity arguments.length)
  else
    match arguments.find? u.isOpen with
    | some t => .error (.misuse (.openArgument (u.fullName t) (u.fullName template)))
    | none => .ok ()

/-- Refuses a request for a template: for its parent first, then for its names. -/
def checkDefinition (u : Universe) (parent : Option TypeId) (names : List String) :
    Except Fault Unit := do
  u.checkParent? parent
  checkNames names

/-- Refuses a request to close a type: for not being a template first, then for the arguments. -/
def checkClosing (u : Universe) (t : TypeId) (arguments : List TypeId) : Except Fault Unit := do
  u.checkTemplate t
  u.checkArguments t arguments

end Universe

/-- The request for a template of a given index. -/
def Naming.request (n : Naming) (index : Nat) (names : List String) (isMutable : Bool)
    (parent : Option TypeId) : TemplateRequest where
  name := n.typeName index names.length
  propertyNames := names
  parameterNames := names.map n.parameterName
  isMutable := isMutable
  parent := parent

/-- What makes types: the state of a backend, and the index that names the next template. -/
structure Foundry (σ : Type) where
  nextIndex : Nat := 0
  backend : σ

namespace Foundry

variable {σ : Type}

/-- Makes a template: a request that passes the checks takes the next index, whether or not the
backend can answer it. -/
def castTemplate (b : Backend σ) (n : Naming) (names : List String) (isMutable : Bool)
    (parent : Option TypeId) (f : Foundry σ) (u : Universe) :
    Except Fault TypeId × Foundry σ × Universe :=
  let parent := properParent parent
  match u.checkDefinition parent names with
  | .error e => (.error e, f, u)
  | .ok () =>
    let request := n.request f.nextIndex names isMutable parent
    let (casting, backend) := b.define f.backend u request
    let (result, u) := u.cast casting
    (result, ⟨f.nextIndex + 1, backend⟩, u)

/-- Closes a template over types. -/
def castClosed (b : Backend σ) (template : TypeId) (arguments : List TypeId) (f : Foundry σ)
    (u : Universe) : Except Fault TypeId × Foundry σ × Universe :=
  match u.checkClosing template arguments with
  | .error e => (.error e, f, u)
  | .ok () =>
    let (casting, backend) := b.close f.backend u template arguments
    let (result, u) := u.cast casting
    (result, { f with backend }, u)

end Foundry

end RecordTypes
