import TypedQuery.Event
import TypedQuery.Failure
import TypedQuery.Wire.Decode

/-!
Typed decoding of one member of a response. Keys that the host's models do not declare are refused
before the value is decoded.
-/

set_option autoImplicit false

namespace TypedQuery

structure ResultType (α : Type) where
  host : HostType
  read : Json → Except String α

def WireType.read (records : RecordTable) (wire : WireType) (value : Json) : Except String WireValue :=
  (wire.decode records value).mapError Mismatch.message

def ResultType.ofWire (records : RecordTable) (wire : WireType) : ResultType WireValue :=
  ⟨wire.host records, wire.read records⟩

structure UndeclaredKey where
  key : String
  model : String
deriving DecidableEq, Repr

def UndeclaredKey.message (fault : UndeclaredKey) : String :=
  s!"unknown field `{fault.key}` in {fault.model}"

mutual
def checkShape (models : ModelTable) (host : HostType) : Json → Except UndeclaredKey Unit
  | .arr items =>
      match host with
      | .list element => checkItems models element items
      | _ => .ok ()
  | .obj fields =>
      match host with
      | .model ref => checkFields models (models.describe ref) fields
      | _ => .ok ()
  | _ => .ok ()
def checkItems (models : ModelTable) (element : HostType) : List Json → Except UndeclaredKey Unit
  | [] => .ok ()
  | item :: rest => do
      checkShape models element item
      checkItems models element rest
def checkFields (models : ModelTable) (descriptor : ModelDescriptor) :
    List (String × Json) → Except UndeclaredKey Unit
  | [] => .ok ()
  | (key, value) :: rest =>
      match descriptor.field? key with
      | none => .error ⟨key, descriptor.name⟩
      | some field => do
          checkShape models field.type value
          checkFields models descriptor rest
end

inductive DecodeFault where
  | nullForNonNull
  | mismatch (cause : String)
deriving DecidableEq, Repr

namespace DecodeFault

def toClientError (request : Request) (response : Response) : DecodeFault → ClientError
  | .nullForNonNull => ⟨ClientError.nullForNonNull, none, some request, some response.pretty⟩
  | .mismatch cause => ⟨ClientError.decodeFailure, some cause, some request, some response.pretty⟩

def event (request : Request) (name : String) : DecodeFault → Event
  | .nullForNonNull =>
      ⟨.warn, "null returned for non-null field",
        [("operation", request.operationName), ("field", name)]⟩
  | .mismatch cause =>
      ⟨.warn, "response shape mismatch", [("operation", request.operationName), ("cause", cause)]⟩

end DecodeFault

def decodeValue {α : Type} (models : ModelTable) (type : ResultType α) (value : Json) :
    Except DecodeFault α :=
  match checkShape models type.host value with
  | .error fault => .error (.mismatch fault.message)
  | .ok () => (type.read value).mapError .mismatch

def decodeMember {α : Type} (models : ModelTable) (type : ResultType α) (response : Response)
    (name : String) (required : Bool) : Except DecodeFault α :=
  match response.field? name with
  | some value => decodeValue models type value
  | none => if required then .error .nullForNonNull else (type.read .null).mapError .mismatch

end TypedQuery
