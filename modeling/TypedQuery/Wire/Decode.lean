import TypedQuery.Wire.Type
import TypedQuery.Wire.Mismatch

/-!
Reading typed values from JSON values. Keys are visited in payload order, and the first failure
wins; what is missing is looked for after that, in the order of declaration.
-/

set_option autoImplicit false

namespace TypedQuery

namespace WireType

def expectation (records : RecordTable) : WireType → String
  | .int range => range.name
  | .single => "f32"
  | .double => "f64"
  | .bool => "a boolean"
  | .string => "a string"
  | .instant => "an RFC 3339 formatted date and time string"
  | .civil => "a formatted date and time string"
  | .uuid => "a formatted UUID string"
  | .option inner => inner.expectation records
  | .list _ => "a sequence"
  | .map _ => "a map"
  | .record name => "struct " ++ (records.shape name).name
  | .choice _ _ => "string or map"
  | .any _ | .unencodable => "any value"

def mismatch (records : RecordTable) (type : WireType) (found : Found) : Mismatch :=
  .type found (type.expectation records)

def pickVariant (variants : List String) (name : String) : Except Mismatch WireValue :=
  if variants.contains name then .ok (.variant name) else .error (.unknownVariant name variants)

/-- Integers are not rounded into a range, but any number is a floating-point one. -/
def decodeInt (records : RecordTable) (n : Int) : WireType → Except Mismatch WireValue
  | .int range => if range.contains n then .ok (.int n) else .error (.range n range.name)
  | .single => .ok (.double (Double.singleOfInt n))
  | .double => .ok (.double (Double.ofInt n))
  | other => .error (other.mismatch records (.int n))

def decodeDouble (records : RecordTable) (x : Double) : WireType → Except Mismatch WireValue
  | .single => .ok (.double x.toSingle)
  | .double => .ok (.double x)
  | other => .error (other.mismatch records (.double x))

def decodeText (records : RecordTable) (text : String) : WireType → Except Mismatch WireValue
  | .string => .ok (.str text)
  | .instant => match Instant.parse text with
      | .ok value => .ok (.instant value)
      | .error fault => .error (.time fault)
  | .civil => match CivilTime.parse text with
      | .ok value => .ok (.civil value)
      | .error fault => .error (.time fault)
  | .uuid => match Uuid.parse text with
      | .ok value => .ok (.uuid value)
      | .error fault => .error (.uuid fault)
  | .choice _ variants => pickVariant variants text
  | other => .error (other.mismatch records (.str text))

def assemble (read : List (String × WireValue)) :
    List WireField → Except Mismatch (List (String × WireValue))
  | [] => .ok []
  | field :: rest => do
      let value ← match read.lookup field.key, field.missing with
        | some value, _ => Except.ok value
        | none, .filled value => .ok value
        | none, .required =>
            if field.type.isOption then .ok WireValue.absent else .error (.missingField field.key)
      let others ← assemble read rest
      .ok ((field.key, value) :: others)

def fillRest (shape : RecordShape) (index : Nat) :
    List WireField → Except Mismatch (List (String × WireValue))
  | [] => .ok []
  | field :: rest =>
      match field.missing with
      | .required => .error (.shortArray index shape.name shape.fields.length)
      | .filled value => do
          let others ← fillRest shape (index + 1) rest
          .ok ((field.key, value) :: others)

mutual
def decode (records : RecordTable) (type : WireType) : Json → Except Mismatch WireValue
  | .null =>
      match type with
      | .option _ => .ok .absent
      | .any _ => .ok (.any .null)
      | .unencodable => .ok .unencodable
      | other => .error (other.mismatch records .null)
  | .bool value =>
      match type.present with
      | .bool => .ok (.bool value)
      | .any _ => .ok (.any (.bool value))
      | .unencodable => .ok .unencodable
      | other => .error (other.mismatch records (.bool value))
  | .int value =>
      match type.present with
      | .any _ => .ok (.any (.int value))
      | .unencodable => .ok .unencodable
      | other => decodeInt records value other
  | .double value =>
      match type.present with
      | .any _ => .ok (.any (.double value))
      | .unencodable => .ok .unencodable
      | other => decodeDouble records value other
  | .str text =>
      match type.present with
      | .any _ => .ok (.any (.str text))
      | .unencodable => .ok .unencodable
      | other => decodeText records text other
  | .arr items =>
      match type.present with
      | .any _ => .ok (.any (.arr items))
      | .unencodable => .ok .unencodable
      | .list element => do
          let values ← decodeItems records element items
          .ok (.list values)
      | .record name => do
          let shape := records.shape name
          let fields ← decodeColumns records shape items.length 0 shape.fields items
          .ok (.record fields)
      | other => .error (other.mismatch records .sequence)
  | .obj fields =>
      match type.present with
      | .any _ => .ok (.any (.obj fields))
      | .unencodable => .ok .unencodable
      | .map value => do
          let entries ← decodeEntries records value fields
          .ok (.map entries)
      | .record name => do
          let shape := records.shape name
          let read ← decodeFields records shape fields
          let values ← assemble read shape.fields
          .ok (.record values)
      | .choice _ variants => decodeVariant variants fields
      | other => .error (other.mismatch records .map)
def decodeItems (records : RecordTable) (element : WireType) :
    List Json → Except Mismatch (List WireValue)
  | [] => .ok []
  | item :: rest => do
      let value ← decode records element item
      let values ← decodeItems records element rest
      .ok (value :: values)
def decodeColumns (records : RecordTable) (shape : RecordShape) (length index : Nat) :
    List WireField → List Json → Except Mismatch (List (String × WireValue))
  | [], [] => .ok []
  | [], _ :: _ => .error (.longArray length)
  | fields, [] => fillRest shape index fields
  | field :: fields, item :: rest => do
      let value ← decode records field.type item
      let values ← decodeColumns records shape length (index + 1) fields rest
      .ok ((field.key, value) :: values)
def decodeEntries (records : RecordTable) (value : WireType) :
    List (String × Json) → Except Mismatch (List (String × WireValue))
  | [] => .ok []
  | (key, item) :: rest => do
      let first ← decode records value item
      let others ← decodeEntries records value rest
      .ok ((key, first) :: others)
def decodeFields (records : RecordTable) (shape : RecordShape) :
    List (String × Json) → Except Mismatch (List (String × WireValue))
  | [] => .ok []
  | (key, item) :: rest =>
      match shape.field? key with
      | some field => do
          let first ← decode records field.type item
          let others ← decodeFields records shape rest
          .ok ((key, first) :: others)
      | none =>
          if shape.closed then .error (.unknownField key (shape.fields.map (·.key)))
          else decodeFields records shape rest
def decodeVariant (variants : List String) :
    List (String × Json) → Except Mismatch WireValue
  | [(name, content)] => do
      let value ← pickVariant variants name
      match content with
      | .null => .ok value
      | other => .error (.type (Found.ofJson other) "unit")
  | _ => .error .variantCount
end

end WireType

end TypedQuery
