import TypedQuery.Json.Printer
import TypedQuery.Json.Record
import TypedQuery.Wire.Type

/-!
A request as it goes over the wire: one JSON object with the query text, the operation's name and
the values of the variables in the order of their definition.
-/

set_option autoImplicit false

namespace TypedQuery

structure Request where
  query : String
  operationName : String
  values : Json.Fields
deriving DecidableEq

namespace Request

def new (query operationName : String) : Request := ⟨query, operationName, []⟩

def withVariable (request : Request) (name : String) (value : Json) : Request :=
  { request with values := Json.put name value request.values }

def toJson (request : Request) : Json :=
  .obj [("query", .str request.query), ("operationName", .str request.operationName),
    ("variables", .obj request.values)]

def wire (request : Request) : String := request.toJson.compact

def slots : Json.RecordSlots :=
  ⟨"GraphqlRequest",
    [⟨"query", [], .text, none⟩, ⟨"operationName", [], .text, none⟩,
      ⟨"variables", [], .object, some (.obj [])⟩]⟩

def ofSlots? : List Json → Option Request
  | [.str query, .str operationName, .obj values] => some ⟨query, operationName, values⟩
  | _ => none

def parse (text : String) : Except Json.ReadFault Request := do
  let values ← slots.parse (Json.sourceOf text)
  match ofSlots? values with
  | some request => .ok request
  | none => .error (.malformed .expectedValue)

def shape : RecordShape :=
  ⟨"GraphqlRequest", .foreign "GraphqlRequest",
    [⟨"query", .string, .required⟩, ⟨"operationName", .string, .required⟩,
      ⟨"variables", .map (.any (.foreign "Value")), .filled (.map [])⟩], false⟩

def variableOf? : String × WireValue → Option (String × Json)
  | (name, .any value) => some (name, value)
  | _ => none

def ofWire? : WireValue → Option Request
  | .record [("query", .str query), ("operationName", .str operationName),
      ("variables", .map values)] =>
      (values.mapM variableOf?).map fun values => ⟨query, operationName, values⟩
  | _ => none

end Request

end TypedQuery
