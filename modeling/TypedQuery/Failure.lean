import TypedQuery.Request
import TypedQuery.Response
import TypedQuery.Json.Printer
import TypedQuery.Wire.Decode

/-!
The failures of a client, by cause. `Failure.message` words them and `Failure.reasons` lists what
each of them complains of.
-/

set_option autoImplicit false

namespace TypedQuery

inductive UsageError where
  | blankName
  | unknownOperation (name : String)
  | argumentRequired (argument : String)
  | resultTypeMismatch (host expected : String)
  | resultNotRepresentable (host : String)
  | argumentTypeMismatch (argument host expected : String)
  | argumentNotRepresentable (argument host : String)
  | malformedArgument (argument reason : String)
  | tooManyArguments (field : String) (declared supplied : Nat)
deriving DecidableEq, Repr, Inhabited

def UsageError.message : UsageError → String
  | .blankName => "operation name must not be blank"
  | .unknownOperation name => "No query or mutation \"" ++ name ++ "\" was found."
  | .argumentRequired argument =>
      s!"Argument is null, but GraphQL is requiring {argument} to be non-null."
  | .resultTypeMismatch host expected =>
      s!"Result type {host} doesn't match GraphQL result type {expected}"
  | .resultNotRepresentable host => s!"Result type {host} isn't a GraphQL model"
  | .argumentTypeMismatch argument host expected =>
      s!"Argument type {host} doesn't match GraphQL type {expected} of {argument}"
  | .argumentNotRepresentable argument host =>
      s!"Argument type {host} of {argument} isn't a GraphQL model"
  | .malformedArgument argument reason => s!"Argument {argument} could not be encoded: {reason}"
  | .tooManyArguments field declared supplied =>
      s!"{field} declares {declared} argument(s) but {supplied} were supplied"

structure ClientError where
  message : String
  cause : Option String
  request : Option Request
  response : Option String
deriving DecidableEq

namespace ClientError

def new (message : String) : ClientError := ⟨message, none, none, none⟩

def nullForNonNull : String := "Returned null, but GraphQL required non-null."
def decodeFailure : String := "Json Serialization Exception while reading GraphQL response"
def transportFailure : String := "Exception while processing request"

end ClientError

structure StampedError where
  error : ClientError
  id : Uuid
  timestamp : Instant
deriving DecidableEq

namespace StampedError

def toJson (stamped : StampedError) : Json :=
  .obj [("message", .str stamped.error.message),
    ("cause", Json.ofOption .str stamped.error.cause),
    ("request", Json.ofOption Request.toJson stamped.error.request),
    ("response", Json.ofOption .str stamped.error.response),
    ("id", .str stamped.id.text), ("timestamp", .str stamped.timestamp.text)]

def toGraphqlError (stamped : StampedError) : Json :=
  .obj [("message", .str stamped.error.message),
    ("extensions", .obj [("id", .str stamped.id.text),
      ("exception", Json.ofOption .str stamped.error.cause),
      ("response", Json.ofOption .str stamped.error.response),
      ("request", Json.ofOption Request.toJson stamped.error.request),
      ("timestamp", .str stamped.timestamp.text)])]

def shape : RecordShape :=
  ⟨"ClientError", .foreign "ClientError",
    [⟨"message", .string, .required⟩, ⟨"cause", .option .string, .required⟩,
      ⟨"request", .option (.record "GraphqlRequest"), .required⟩,
      ⟨"response", .option .string, .required⟩, ⟨"id", .uuid, .required⟩,
      ⟨"timestamp", .instant, .required⟩], false⟩

def records : RecordTable := RecordTable.ofShapes [shape, Request.shape]

def textOf? : WireValue → Option (Option String)
  | .absent => some none
  | .str text => some (some text)
  | _ => none

def requestOf? : WireValue → Option (Option Request)
  | .absent => some none
  | value => (Request.ofWire? value).map some

def ofWire? : WireValue → Option StampedError
  | .record [("message", .str message), ("cause", cause), ("request", request),
      ("response", response), ("id", .uuid id), ("timestamp", .instant timestamp)] => do
      let cause ← textOf? cause
      let request ← requestOf? request
      let response ← textOf? response
      some ⟨⟨message, cause, request, response⟩, id, timestamp⟩
  | _ => none

def ofJson (value : Json) : Except Mismatch StampedError := do
  match ofWire? (← WireType.decode records (.record "ClientError") value) with
  | some stamped => .ok stamped
  | none => .error (.type (Found.ofJson value) "struct ClientError")

end StampedError

structure SchemaError where
  reason : String
deriving DecidableEq, Repr

def SchemaError.message (error : SchemaError) : String :=
  "failed to parse GraphQL schema: " ++ error.reason

inductive ConfigError where
  | unreadable (path reason : String)
  | malformedProfile
  | invalid (field reason : String)
  | missingVariable (name : String)
  | header (name reason : String)
  | http (reason : String)
deriving DecidableEq, Repr

def ConfigError.message : ConfigError → String
  | .unreadable path reason => s!"failed to read profile {path}: {reason}"
  | .malformedProfile => "failed to parse profile TOML"
  | .invalid field reason => s!"invalid profile field `{field}`: {reason}"
  | .missingVariable name => s!"environment variable `{name}` is not set"
  | .header name reason => s!"invalid header `{name}`: {reason}"
  | .http reason => s!"failed to build HTTP client: {reason}"

inductive Failure where
  | usage (error : UsageError)
  | client (error : ClientError)
  | remote (errors : List Json)
  | validation (summary : String) (errors : List String)
  | schema (error : SchemaError)
  | config (error : ConfigError)
deriving DecidableEq, Inhabited

namespace Failure

def message : Failure → String
  | .usage error => error.message
  | .client error => error.message
  | .remote errors => "GraphQL errors: " ++ (Json.arr errors).compact
  | .validation summary _ => "Schema validation failed: " ++ summary
  | .schema error => error.message
  | .config error => error.message

def remoteReason (error : Json) : String :=
  match error.get? "message" with
  | some (.str text) => text
  | _ => error.compact

def reasons : Failure → List String
  | .validation _ errors => errors
  | .remote errors => errors.map remoteReason
  | other => [other.message]

def isUsage : Failure → Bool
  | .usage _ => true
  | _ => false

def isRetryable : Failure → Bool
  | .client error => error.message = ClientError.transportFailure
  | _ => false

end Failure

end TypedQuery
