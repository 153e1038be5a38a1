import RecordTypes.Backend.Direct

/-!
# Scripted backends

A backend that follows a script, to try out how its callers cope with a backend that fails or
answers oddly.  It keeps a log of its calls; when the script has run out, it works as the direct
backend does.
-/

namespace RecordTypes

namespace Scripted

/-- How to answer a request for a template. -/
inductive DefineAction where
  /-- As the direct backend does. -/
  | regular
  /-- Not at all, for a reason. -/
  | fail (reason : String)
  /-- With a type parameter. -/
  | parameter
  /-- Directly, but with the last type parameter left out. -/
  | dropParameter
  /-- Directly, but with properties placed in reverse. -/
  | reverse
  deriving DecidableEq

/-- How to answer a request to close a template. -/
inductive CloseAction where
  /-- As the direct backend does. -/
  | regular
  /-- Not at all, for a reason. -/
  | fail (reason : String)
  /-- With a type parameter. -/
  | parameter
  /-- Directly, but with the last argument left out. -/
  | dropArgument
  /-- Directly, but with `Int32` for the template. -/
  | notTemplate
  deriving DecidableEq

/-- A call that was made. -/
inductive Call where
  | define (request : TemplateRequest)
  | close (template : TypeId) (arguments : List TypeId)
  deriving DecidableEq

end Scripted

/-- What is left of a script, and the calls so far, the newest first. -/
structure Script where
  define : List Scripted.DefineAction := []
  close : List Scripted.CloseAction := []
  log : List Scripted.Call := []
  deriving DecidableEq

namespace Scripted

/-- Answers a request for a template. -/
def define (action : DefineAction) (u : Universe) (request : TemplateRequest) : Casting :=
  match action with
  | .regular => Direct.define u request
  | .fail reason => .fail reason
  | .parameter => .single ⟨request.name, .parameter 0⟩
  | .dropParameter =>
    Direct.define u { request with parameterNames := request.parameterNames.dropLast }
  | .reverse => Direct.defineWith u request fun i => request.propertyNames.length - 1 - i

/-- Answers a request to close a template. -/
def close (action : CloseAction) (u : Universe) (template : TypeId) (arguments : List TypeId) :
    Casting :=
  match action with
  | .regular => Direct.close u template arguments
  | .fail reason => .fail reason
  | .parameter => .single ⟨u.name template, .parameter 0⟩
  | .dropArgument => Direct.close u template arguments.dropLast
  | .notTemplate => Direct.close u (.builtin .int32) arguments

end Scripted

/-- The backend that follows a script. -/
def scriptedBackend : Backend Script where
  define s u request :=
    (Scripted.define (s.define.headD .regular) u request,
      { s with define := s.define.tail, log := .define request :: s.log })
  close s u template arguments :=
    (Scripted.close (s.close.headD .regular) u template arguments,
      { s with close := s.close.tail, log := .close template arguments :: s.log })

end RecordTypes
