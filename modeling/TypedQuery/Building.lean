import TypedQuery.Compatibility
import TypedQuery.Event
import TypedQuery.Failure
import TypedQuery.Operation
import TypedQuery.Wire.Encode

/-!
Building of requests from a root field and the values of its arguments in order.
-/

set_option autoImplicit false

namespace TypedQuery

inductive Argument where
  | absent
  | present (host : HostType) (value : Except String Json)

namespace Argument

def ofWire (records : RecordTable) (type : WireType) (value : WireValue) : Argument :=
  match value.encode with
  | .ok .null => .absent
  | encoded => .present (type.host records) encoded

def isPresent : Argument → Bool
  | .absent => false
  | .present _ (.ok .null) => false
  | .present _ _ => true

def bind (declared : ArgumentDescriptor) (argument : Argument) : Except UsageError (Option Json) :=
  match argument.isPresent, argument with
  | true, .present host value =>
      if !isCompatible declared.type host then
        .error (.argumentTypeMismatch declared.name host.name declared.type.leaf)
      else if !host.isRepresentable then .error (.argumentNotRepresentable declared.name host.name)
      else match value with
        | .ok value => .ok (some value)
        | .error reason => .error (.malformedArgument declared.name reason)
  | _, _ => if declared.type.isNonNull then .error (.argumentRequired declared.name) else .ok none

def bindAll : List ArgumentDescriptor → List Argument →
    Except UsageError (List (ArgumentDescriptor × Json))
  | [], _ => .ok []
  | declared :: rest, arguments => do
      let value ← bind declared (arguments.headD .absent)
      let others ← bindAll rest arguments.tail
      .ok (match value with
        | some value => (declared, value) :: others
        | none => others)

end Argument

structure Target where
  kind : OperationKind
  field : FieldDescriptor
  name : String
  operationName : String
  result : HostType
  depth : Nat

namespace Target

def operation (models : ModelTable) (target : Target) (bound : List ArgumentDescriptor) :
    Operation :=
  { kind := target.kind
    name := target.operationName
    definitions := bound.map fun declared => ⟨declared.name, declared.type⟩
    root := .mk target.name (bound.map fun declared => ⟨declared.name, declared.name⟩)
      (synthesize models target.result target.depth) }

def presentCount (arguments : List Argument) : Nat := arguments.countP Argument.isPresent

def build (models : ModelTable) (target : Target) (arguments : List Argument) :
    Except UsageError Request :=
  let field := target.field
  if !isCompatible field.type target.result then
    .error (.resultTypeMismatch target.result.name field.type.leaf)
  else if !target.result.isRepresentable then .error (.resultNotRepresentable target.result.name)
  else if 0 < presentCount (arguments.drop field.arguments.length) then
    .error (.tooManyArguments field.name field.arguments.length (presentCount arguments))
  else do
    let bound ← Argument.bindAll field.arguments arguments
    .ok { query := (target.operation models (bound.map Prod.fst)).render
          operationName := target.operationName
          values := Json.ofFields (bound.map fun (declared, value) => (declared.name, value)) }

def event (target : Target) (request : Request) : Event :=
  ⟨.debug, "built GraphQL request",
    [("operation", target.operationName), ("kind", target.kind.keyword),
      ("variables", toString request.values.length)]⟩

end Target

end TypedQuery
