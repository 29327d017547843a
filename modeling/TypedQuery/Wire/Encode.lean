import TypedQuery.Wire.Type

/-!
Writing typed values as JSON values. A number that is not finite is written as null, and so is an
absent value.
-/

set_option autoImplicit false

namespace TypedQuery

namespace WireValue

def keyNotText : String := "key must be a string"

mutual
def encode : WireValue → Except String Json
  | .int value => .ok (.int value)
  | .double value => .ok (if value.isFinite then .double value else .null)
  | .bool value => .ok (.bool value)
  | .str text => .ok (.str text)
  | .instant value => .ok (.str value.text)
  | .civil value => .ok (.str value.text)
  | .uuid value => .ok (.str value.text)
  | .absent => .ok .null
  | .list items => do .ok (.arr (← encodeItems items))
  | .map entries => do .ok (.obj (← encodeFields entries))
  | .record fields => do .ok (.obj (← encodeFields fields))
  | .variant name => .ok (.str name)
  | .any value => .ok value
  | .unencodable => .error keyNotText
def encodeItems : List WireValue → Except String (List Json)
  | [] => .ok []
  | item :: rest => do
      let first ← encode item
      let others ← encodeItems rest
      .ok (first :: others)
def encodeFields : List (String × WireValue) → Except String (List (String × Json))
  | [] => .ok []
  | (key, item) :: rest => do
      let first ← encode item
      let others ← encodeFields rest
      .ok ((key, first) :: others)
end

end WireValue

end TypedQuery
