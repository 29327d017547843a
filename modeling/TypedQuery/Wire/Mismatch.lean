import TypedQuery.Json.Basic
import TypedQuery.Number.Shortest
import TypedQuery.Text.Quoted
import TypedQuery.Time
import TypedQuery.Uuid

/-!
Why a JSON value is not a value of a wire type.
-/

set_option autoImplicit false

namespace TypedQuery

inductive Found where
  | null
  | bool (value : Bool)
  | int (value : Int)
  | double (value : Double)
  | str (text : String)
  | sequence
  | map
deriving DecidableEq, Repr

def Found.ofJson : Json → Found
  | .null => .null
  | .bool value => .bool value
  | .int value => .int value
  | .double value => .double value
  | .str text => .str text
  | .arr _ => .sequence
  | .obj _ => .map

def Found.describe : Found → String
  | .null => "null"
  | .bool value => s!"boolean `{value}`"
  | .int value => s!"integer `{value}`"
  | .double value => s!"floating point `{value.text}`"
  | .str text => "string " ++ Text.quoted text
  | .sequence => "sequence"
  | .map => "map"

inductive Mismatch where
  | type (found : Found) (expected : String)
  | range (value : Int) (expected : String)
  | variantCount
  | shortArray (length : Nat) (record : String) (fields : Nat)
  | longArray (length : Nat)
  | missingField (key : String)
  | unknownField (key : String) (known : List String)
  | duplicateField (key : String)
  | unknownVariant (name : String) (known : List String)
  | time (fault : TimeFault)
  | uuid (fault : UuidFault)
deriving DecidableEq, Repr

namespace Mismatch

def ticked (name : String) : String := "`" ++ name ++ "`"

def oneOf (nothing : String) : List String → String
  | [] => nothing
  | [only] => "expected " ++ ticked only
  | [first, second] => "expected " ++ ticked first ++ " or " ++ ticked second
  | names => "expected one of " ++ String.intercalate ", " (names.map ticked)

def message : Mismatch → String
  | .type found expected => "invalid type: " ++ found.describe ++ ", expected " ++ expected
  | .range value expected => s!"invalid value: integer `{value}`, expected " ++ expected
  | .variantCount => "invalid value: map, expected map with a single key"
  | .shortArray length record fields =>
      s!"invalid length {length}, expected struct {record} with {fields} element" ++
        if fields = 1 then "" else "s"
  | .longArray length => s!"invalid length {length}, expected fewer elements in array"
  | .missingField key => "missing field " ++ ticked key
  | .unknownField key known =>
      "unknown field " ++ ticked key ++ ", " ++ oneOf "there are no fields" known
  | .duplicateField key => "duplicate field " ++ ticked key
  | .unknownVariant name known =>
      "unknown variant " ++ ticked name ++ ", " ++ oneOf "there are no variants" known
  | .time fault => fault.message
  | .uuid fault => "UUID parsing failed: " ++ fault.message

end Mismatch

end TypedQuery
