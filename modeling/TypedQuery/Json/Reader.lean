import TypedQuery.Json.Token

/-!
Reading of JSON values from tokens, one token at a time: a stack of open containers and what may
come next. `readValue` builds a value, `skipValue` only steps over one and checks less.
-/

set_option autoImplicit false

namespace TypedQuery.Json

inductive Frame where
  | list (items : List Json)
  | object (fields : Fields) (key : String)

inductive Expect where
  | value
  | firstItem
  | nextItem
  | afterItem
  | firstKey
  | nextKey
  | colon

structure Position where
  frames : List Frame
  expect : Expect

def nestingLimit : Nat := 127

namespace Position

def deliver (value : Json) : List Frame → Position ⊕ Json
  | [] => .inr value
  | .list items :: frames => .inl ⟨.list (value :: items) :: frames, .afterItem⟩
  | .object fields key :: frames => .inl ⟨.object (put key value fields) key :: frames, .afterItem⟩

def openFrame (limit : Nat) (frame : Frame) (expect : Expect) (frames : List Frame) :
    Except Fault (Position ⊕ Json) :=
  if frames.length < limit then .ok (.inl ⟨frame :: frames, expect⟩) else .error .tooDeep

def onValue (limit : Nat) (frames : List Frame) : Token → Except Fault (Position ⊕ Json)
  | .openArr => openFrame limit (.list []) .firstItem frames
  | .openObj => openFrame limit (.object [] "") .firstKey frames
  | .literal value => .ok (deliver value frames)
  | .number value => value.map (deliver · frames)
  | .text value => value.map fun text => deliver (.str text) frames
  | .bad _ fault _ => .error fault
  | .closeArr | .closeObj | .comma | .colon => .error .expectedValue

def onKey (frames : List Frame) : Token → Except Fault (Position ⊕ Json)
  | .text key => key.map fun key => match frames with
      | .object fields _ :: outer => .inl ⟨.object fields key :: outer, .colon⟩
      | frames => .inl ⟨frames, .colon⟩
  | .bad true fault _ => .error fault
  | _ => .error .keyNotString

def onSeparator : List Frame → Token → Except Fault (Position ⊕ Json)
  | .list items :: frames, .comma => .ok (.inl ⟨.list items :: frames, .nextItem⟩)
  | .list items :: frames, .closeArr => .ok (deliver (.arr items.reverse) frames)
  | .list _ :: _, _ => .error .expectedListEnd
  | .object fields key :: frames, .comma => .ok (.inl ⟨.object fields key :: frames, .nextKey⟩)
  | .object fields _ :: frames, .closeObj => .ok (deliver (.obj fields) frames)
  | .object _ _ :: _, _ => .error .expectedObjectEnd
  | [], _ => .error .trailingText

def step (limit : Nat) (position : Position) (token : Token) : Except Fault (Position ⊕ Json) :=
  match position.expect, token with
  | .firstItem, .closeArr => .ok (deliver (.arr []) position.frames.tail)
  | .nextItem, .closeArr => .error .trailingComma
  | .firstKey, .closeObj => .ok (deliver (.obj []) position.frames.tail)
  | .nextKey, .closeObj => .error .trailingComma
  | .value, token | .firstItem, token | .nextItem, token => onValue limit position.frames token
  | .firstKey, token | .nextKey, token => onKey position.frames token
  | .colon, .colon => .ok (.inl ⟨position.frames, .value⟩)
  | .colon, _ => .error .expectedColon
  | .afterItem, token => onSeparator position.frames token

def endFault (position : Position) : Fault :=
  match position.expect, position.frames with
  | .value, _ | .nextItem, _ | .nextKey, _ => .endInValue
  | .firstItem, _ => .endInList
  | .firstKey, _ | .colon, _ => .endInObject
  | .afterItem, .object _ _ :: _ => .endInObject
  | .afterItem, _ => .endInList

end Position

def readFrom (limit : Nat) (position : Position) : List Token → Except Fault (Json × List Token)
  | [] => .error position.endFault
  | token :: rest =>
      match position.step limit token with
      | .error fault => .error fault
      | .ok (.inr value) => .ok (value, rest)
      | .ok (.inl next) => readFrom limit next rest

def readValue (limit : Nat) (tokens : List Token) : Except Fault (Json × List Token) :=
  readFrom limit ⟨[], .value⟩ tokens

inductive Skipped where
  | list
  | object

structure SkipPosition where
  frames : List Skipped
  expect : Expect

namespace SkipPosition

def close : List Skipped → Option SkipPosition
  | [] => none
  | frames => some ⟨frames, .afterItem⟩

def onValue (frames : List Skipped) : Token → Except Fault (Option SkipPosition)
  | .openArr => .ok (some ⟨.list :: frames, .firstItem⟩)
  | .openObj => .ok (some ⟨.object :: frames, .firstKey⟩)
  | .literal _ | .number _ | .text _ => .ok (close frames)
  | .bad _ _ fault => .error fault
  | .closeArr | .closeObj | .comma | .colon => .error .expectedValue

def onKey (frames : List Skipped) : Token → Except Fault (Option SkipPosition)
  | .text _ => .ok (some ⟨frames, .colon⟩)
  | .bad true _ fault => .error fault
  | _ => .error .keyNotString

def onSeparator : List Skipped → Token → Except Fault (Option SkipPosition)
  | .list :: frames, .comma => .ok (some ⟨.list :: frames, .nextItem⟩)
  | .list :: frames, .closeArr => .ok (close frames)
  | .list :: _, _ => .error .expectedListEnd
  | .object :: frames, .comma => .ok (some ⟨.object :: frames, .nextKey⟩)
  | .object :: frames, .closeObj => .ok (close frames)
  | .object :: _, _ => .error .expectedObjectEnd
  | [], _ => .error .trailingText

def step (position : SkipPosition) (token : Token) : Except Fault (Option SkipPosition) :=
  match position.expect, token with
  | .firstItem, .closeArr => .ok (close position.frames.tail)
  | .firstKey, .closeObj => .ok (close position.frames.tail)
  | .value, token | .firstItem, token | .nextItem, token => onValue position.frames token
  | .firstKey, token | .nextKey, token => onKey position.frames token
  | .colon, .colon => .ok (some ⟨position.frames, .value⟩)
  | .colon, _ => .error .expectedColon
  | .afterItem, token => onSeparator position.frames token

def endFault (position : SkipPosition) : Fault :=
  match position.expect, position.frames with
  | .value, _ | .nextItem, _ => .endInValue
  | .firstItem, _ => .endInList
  | .firstKey, _ | .nextKey, _ | .colon, _ => .endInObject
  | .afterItem, .object :: _ => .endInObject
  | .afterItem, _ => .endInList

end SkipPosition

def skipFrom (position : SkipPosition) : List Token → Except Fault (List Token)
  | [] => .error position.endFault
  | token :: rest =>
      match position.step token with
      | .error fault => .error fault
      | .ok none => .ok rest
      | .ok (some next) => skipFrom next rest

def skipValue (tokens : List Token) : Except Fault (List Token) := skipFrom ⟨[], .value⟩ tokens

def parse (text : String) : Except Fault Json := do
  let (value, rest) ← readValue nestingLimit (tokens (sourceOf text))
  if rest.isEmpty then .ok value else .error .trailingText

end TypedQuery.Json
