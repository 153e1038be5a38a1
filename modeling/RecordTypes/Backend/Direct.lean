import RecordTypes.Backend.Basic
import RecordTypes.Universe.Ancestry

/-!
# The direct backend

The plain way to make record types: a template gets one type parameter per property, declared before
it, and closing a template types its properties by the arguments.  No state is kept.
-/

namespace RecordTypes

namespace Direct

/-- The properties of a template over the type parameters that will be declared next, where
`position` places the `i`-th of them. -/
def openProperties (u : Universe) (request : TemplateRequest) (position : Nat → Nat) :
    List Property :=
  request.propertyNames.mapIdx fun i name =>
    { name
      type := .declared (u.entries.size + i)
      position := position i
      canWrite := request.isMutable }

/-- A template whose properties are placed by `position`. -/
def defineWith (u : Universe) (request : TemplateRequest) (position : Nat → Nat) : Casting :=
  let parameters := request.parameterNames.mapIdx fun i _ => .declared (u.entries.size + i)
  let layout := u.layout (openProperties u request position) request.parent request.isMutable
    (.template parameters)
  ⟨request.parameterNames.mapIdx fun i name => ⟨name, .parameter i⟩,
    .ok ⟨request.name, .record layout⟩⟩

/-- A template with its properties in order. -/
def define (u : Universe) (request : TemplateRequest) : Casting :=
  let properties := request.propertyNames.length
  let parameters := request.parameterNames.length
  if parameters = properties then defineWith u request id
  else
    .fail ("template " ++ request.name ++ " has " ++ toString properties ++ " properties but " ++
      toString parameters ++ " type parameters")

/-- The properties of a layout, typed by arguments in order. -/
def closedProperties (l : Layout) (arguments : List TypeId) : List Property :=
  l.properties.zipWith
    (fun p t => { name := p.name, type := t, position := p.position, canWrite := p.canWrite })
    arguments

/-- A template closed over types. -/
def close (u : Universe) (template : TypeId) (arguments : List TypeId) : Casting :=
  match u.layout? template with
  | none => .fail (u.fullName template ++ " is not a generated template")
  | some l =>
    if l.arity = arguments.length then
      .single ⟨u.name template, .record (u.layout (closedProperties l arguments) l.parent
        l.isMutable (.closed template arguments))⟩
    else
      .fail (u.fullName template ++ " takes " ++ toString l.arity ++ " type arguments, got " ++
        toString arguments.length)

end Direct

/-- The backend that makes exactly what it is asked for. -/
def directBackend : Backend Unit where
  define _ u request := (Direct.define u request, ())
  close _ u template arguments := (Direct.close u template arguments, ())

end RecordTypes
