import TypedQuery.Host
import TypedQuery.Json.Basic
import TypedQuery.Time
import TypedQuery.Uuid

/-!
Types of values that cross the wire, and those values. A record type names a shape in a table, so
records may be recursive.
-/

set_option autoImplicit false

namespace TypedQuery

structure IntRange where
  name : String
  low : Int
  high : Int
deriving DecidableEq, Repr

namespace IntRange

def signed (bits : Nat) : IntRange :=
  ⟨"i" ++ toString bits, -(Nat.pow 2 (bits - 1) : Int), Nat.pow 2 (bits - 1) - 1⟩
def unsigned (bits : Nat) : IntRange := ⟨"u" ++ toString bits, 0, Nat.pow 2 bits - 1⟩
def size : IntRange := ⟨"usize", 0, Nat.pow 2 64 - 1⟩

def contains (range : IntRange) (n : Int) : Bool := range.low ≤ n && n ≤ range.high

end IntRange

inductive WireType where
  | int (range : IntRange)
  | single
  | double
  | bool
  | string
  | instant
  | civil
  | uuid
  | option (inner : WireType)
  | list (element : WireType)
  | map (value : WireType)
  | record (name : String)
  | choice (name : String) (variants : List String)
  | any (host : HostType)
  | unencodable
deriving Inhabited

inductive WireValue where
  | int (value : Int)
  | double (value : Double)
  | bool (value : Bool)
  | str (text : String)
  | instant (value : Instant)
  | civil (value : CivilTime)
  | uuid (value : Uuid)
  | absent
  | list (items : List WireValue)
  | map (entries : List (String × WireValue))
  | record (fields : List (String × WireValue))
  | variant (name : String)
  | any (value : Json)
  | unencodable
deriving Inhabited

inductive Missing where
  | required
  | filled (value : WireValue)

structure WireField where
  key : String
  type : WireType
  missing : Missing

structure RecordShape where
  name : String
  host : HostType
  fields : List WireField
  closed : Bool

abbrev RecordTable := List (String × RecordShape)

namespace RecordShape

def field? (shape : RecordShape) (key : String) : Option WireField :=
  shape.fields.find? (·.key = key)

end RecordShape

namespace RecordTable

def ofShapes (shapes : List RecordShape) : RecordTable :=
  shapes.map fun shape => (shape.name, shape)

def shape (records : RecordTable) (name : String) : RecordShape :=
  (List.lookup name records).getD ⟨name, .foreign name, [], false⟩

def strict (records : RecordTable) : RecordTable :=
  records.map fun (name, shape) => (name, { shape with closed := true })

end RecordTable

namespace WireType

def present : WireType → WireType
  | .option inner => inner.present
  | other => other

def isOption : WireType → Bool
  | .option _ => true
  | _ => false

def host (records : RecordTable) : WireType → HostType
  | .int _ => .scalar .int
  | .single | .double => .scalar .float
  | .bool => .scalar .boolean
  | .string | .uuid | .unencodable => .scalar .string
  | .instant | .civil => .scalar .dateTime
  | .option inner => inner.host records
  | .list element => .list (element.host records)
  | .map _ => .foreign "map"
  | .record name => (records.shape name).host
  | .choice name _ => .enumeration name
  | .any host => host

end WireType

namespace WireValue

def optional {α : Type} (wrap : α → WireValue) : Option α → WireValue
  | none => .absent
  | some value => wrap value

def field? (key : String) : WireValue → Option WireValue
  | .record fields => fields.lookup key
  | _ => none

end WireValue

end TypedQuery
