import TypedQuery.Json.Printer
import TypedQuery.Json.Record

/-!
A response as the server sent it. Its errors stay as they came. Keys may be capitalised, either may
be missing, and a null stands for no data or no errors.
-/

set_option autoImplicit false

namespace TypedQuery

structure Response where
  data : Option Json
  errors : List Json
deriving DecidableEq

namespace Response

def isOk (response : Response) : Bool := response.errors.isEmpty

def field? (response : Response) (name : String) : Option Json :=
  match response.data.bind (Json.get? name) with
  | some .null => none
  | found => found

def toJson (response : Response) : Json :=
  .obj [("data", response.data.getD .null), ("errors", .arr response.errors)]

def pretty (response : Response) : String := response.toJson.pretty

def compact (response : Response) : String := response.toJson.compact

def slots : Json.RecordSlots :=
  ⟨"GraphqlResponse",
    [⟨"data", ["Data"], .anything, some .null⟩, ⟨"errors", ["Errors"], .items, some (.arr [])⟩]⟩

def ofSlots? : List Json → Option Response
  | [.null, .arr errors] => some ⟨none, errors⟩
  | [data, .arr errors] => some ⟨some data, errors⟩
  | _ => none

def read (source : Json.Source) : Except Json.ReadFault Response := do
  let values ← slots.parse source
  match ofSlots? values with
  | some response => .ok response
  | none => .error (.malformed .expectedValue)

def parse (text : String) : Except Json.ReadFault Response := read (Json.sourceOf text)

end Response

end TypedQuery
