import TypedQuery.Json.Reader
import TypedQuery.Wire.Mismatch

/-!
Reading of a record straight from text: its fields are checked as they come, so the first thing that
is wrong in the text is what is reported. A record is an object, or an array of the fields in order.
-/

set_option autoImplicit false

namespace TypedQuery.Json

inductive ReadFault where
  | malformed (fault : Fault)
  | mismatch (cause : Mismatch)
deriving DecidableEq, Repr

def ReadFault.message : ReadFault → String
  | .malformed fault => fault.message
  | .mismatch cause => cause.message

inductive SlotKind where
  | text
  | object
  | items
  | anything

structure Slot where
  key : String
  aliases : List String
  kind : SlotKind
  missing : Option Json

structure RecordSlots where
  name : String
  slots : List Slot

namespace RecordSlots

def slot? (record : RecordSlots) (key : String) : Option Slot :=
  record.slots.find? fun slot => slot.key = key || slot.aliases.contains key

def malformed {α : Type} (fault : Fault) : Except ReadFault α := .error (.malformed fault)

def lift {α : Type} (read : Except Fault α) : Except ReadFault α := read.mapError .malformed

def refuse {α : Type} (expected : String) (token : Token) : Except ReadFault α :=
  let found : Except Fault Found := match token with
    | .openArr => .ok .sequence
    | .openObj => .ok .map
    | .literal value => .ok (Found.ofJson value)
    | .number value => value.map Found.ofJson
    | .text text => text.map .str
    | .bad _ fault _ => .error fault
    | .closeArr | .closeObj | .comma | .colon => .error .expectedValue
  match found with
  | .ok found => .error (.mismatch (.type found expected))
  | .error fault => malformed fault

def innerLimit : Nat := nestingLimit - 1

def readSlot (kind : SlotKind) (tokens : List Token) : Except ReadFault (Json × List Token) :=
  match kind, tokens with
  | _, [] => malformed .endInValue
  | .text, .text text :: rest => lift (text.map fun text => (.str text, rest))
  | .text, token :: _ => refuse "a string" token
  | .object, .openObj :: rest => lift (readValue innerLimit (.openObj :: rest))
  | .object, token :: _ => refuse "a map" token
  | .items, .literal .null :: rest => .ok (.arr [], rest)
  | .items, .openArr :: rest => lift (readValue innerLimit (.openArr :: rest))
  | .items, token :: _ => refuse "a sequence" token
  | .anything, tokens => lift (readValue innerLimit tokens)

abbrev Read := List (String × Json)

def slotValue (read : Read) (slot : Slot) : Except ReadFault Json :=
  match (read.lookup slot.key).or slot.missing with
  | none => .error (.mismatch (.missingField slot.key))
  | some value => .ok value

def finish (record : RecordSlots) (read : Read) : Except ReadFault (List Json) :=
  record.slots.mapM (slotValue read)

def readMember (record : RecordSlots) (read : Read) (key : String) (tokens : List Token) :
    Except ReadFault (Read × List Token) :=
  let slot := record.slot? key
  if slot.any fun slot => (read.lookup slot.key).isSome then
    .error (.mismatch (.duplicateField ((slot.map (·.key)).getD key)))
  else
    match tokens with
    | [] => malformed .endInObject
    | .colon :: rest =>
        match slot with
        | some slot => (readSlot slot.kind rest).map fun (value, rest) =>
            (read ++ [(slot.key, value)], rest)
        | none => lift ((skipValue rest).map fun rest => (read, rest))
    | _ => malformed .expectedColon

def readMembers (record : RecordSlots) :
    Nat → Read → List Token → Except ReadFault (List Json × List Token)
  | 0, _, _ => malformed .endInObject
  | _ + 1, _, [] => malformed .endInValue
  | limit + 1, read, .text key :: rest => do
      let key ← lift key
      let (read, rest) ← record.readMember read key rest
      match rest with
      | [] => malformed .endInObject
      | .closeObj :: rest => (record.finish read).map (·, rest)
      | .comma :: rest => readMembers record limit read rest
      | _ => malformed .expectedObjectEnd
  | _ + 1, _, .bad true fault _ :: _ => malformed fault
  | _ + 1, _, .closeObj :: _ => malformed .trailingComma
  | _ + 1, _, _ => malformed .keyNotString

def fillRest (record : RecordSlots) (index : Nat) : List Slot → Except ReadFault (List Json)
  | [] => .ok []
  | slot :: rest =>
      match slot.missing with
      | none => .error (.mismatch (.shortArray index record.name record.slots.length))
      | some value => (record.fillRest (index + 1) rest).map (value :: ·)

def readColumns (record : RecordSlots) (index : Nat) :
    List Slot → List Token → Except ReadFault (List Json × List Token)
  | [], .closeArr :: rest => .ok ([], rest)
  | [], .comma :: .closeArr :: _ => malformed .trailingComma
  | [], [] => malformed .endInList
  | [], _ => malformed .trailingText
  | _ :: _, [] => malformed .endInList
  | slots, .closeArr :: rest => (record.fillRest index slots).map (·, rest)
  | slot :: slots, tokens => do
      let tokens ← if index = 0 then Except.ok tokens else match tokens with
        | .comma :: .closeArr :: _ => malformed .trailingComma
        | .comma :: [] => malformed .endInValue
        | .comma :: rest => .ok rest
        | _ => malformed .expectedListEnd
      let (value, rest) ← readSlot slot.kind tokens
      let (values, rest) ← record.readColumns (index + 1) slots rest
      .ok (value :: values, rest)

def readTokens (record : RecordSlots) : List Token → Except ReadFault (List Json × List Token)
  | [] => malformed .endInValue
  | .openObj :: [] => malformed .endInObject
  | .openObj :: .closeObj :: rest => (record.finish []).map (·, rest)
  | .openObj :: rest => record.readMembers rest.length [] rest
  | .openArr :: rest => record.readColumns 0 record.slots rest
  | token :: _ => refuse ("struct " ++ record.name) token

def parse (record : RecordSlots) (source : Source) : Except ReadFault (List Json) := do
  let (values, rest) ← record.readTokens (tokens source)
  if rest.isEmpty then .ok values else malformed .trailingText

end RecordSlots

end TypedQuery.Json
