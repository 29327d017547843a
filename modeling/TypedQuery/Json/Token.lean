import TypedQuery.Json.Number

/-!
The tokens of JSON text. A source is a list of characters in which `none` stands for a byte that is
part of no character. A token says both what a reader makes of it and what one makes of it that only
steps over values: the latter looks neither at surrogates, nor at broken characters, nor at a
number's size.
-/

set_option autoImplicit false

namespace TypedQuery.Json

abbrev Source := List (Option Char)

def sourceOf (text : String) : Source := text.toList.map some

inductive Token where
  | openArr
  | closeArr
  | openObj
  | closeObj
  | comma
  | colon
  | literal (value : Json)
  | number (value : Except Fault Json)
  | text (value : Except Fault String)
  /-- Nothing follows a fault. `quoted` tells a string from other values. -/
  | bad (quoted : Bool) (reading skipping : Fault)

def isSpace (c : Char) : Bool := c = ' ' || c = '\n' || c = '\t' || c = '\r'

def hexValue? (c : Char) : Option Nat :=
  if '0' ≤ c ∧ c ≤ '9' then some (c.toNat - 48)
  else if 'a' ≤ c ∧ c ≤ 'f' then some (c.toNat - 87)
  else if 'A' ≤ c ∧ c ≤ 'F' then some (c.toNat - 55)
  else none

def sourceBytes (source : Source) : Nat :=
  source.foldr (fun c total => (match c with | some c => c.utf8Size | none => 1) + total) 0

def isHigh (unit : Nat) : Bool := 0xd800 ≤ unit && unit ≤ 0xdbff
def isLow (unit : Nat) : Bool := 0xdc00 ≤ unit && unit ≤ 0xdfff

def simpleEscape? : Char → Option Char
  | '"' => some '"'
  | '\\' => some '\\'
  | '/' => some '/'
  | 'b' => some '\x08'
  | 'f' => some '\x0c'
  | 'n' => some '\n'
  | 'r' => some '\r'
  | 't' => some '\t'
  | _ => none

abbrev Content := Except Fault (List (Option Char))

namespace Content

def push (c : Option Char) (content : Content) : Content := content.map (c :: ·)

def spoil (fault : Fault) (content : Content) : Content :=
  match content with
  | .ok _ => .error fault
  | .error earlier => .error earlier

def fault (later : Fault) : Content → Fault
  | .ok _ => later
  | .error earlier => earlier

def finish (content : Content) : Except Fault String :=
  match content with
  | .error fault => .error fault
  | .ok reversed =>
      match reversed.reverse.mapM id with
      | some chars => .ok (String.ofList chars)
      | none => .error .invalidCodePoint

end Content

/-- Where in a string a scan stands: between characters, after a backslash, within the four digits
of an escape, or after a high surrogate. What comes after a backslash keeps a high surrogate that
waits for its pair. -/
inductive Spot where
  | plain
  | escape (high : Option Nat)
  | unit (high : Option Nat) (count value : Nat)
  | paired (high : Nat)

structure Scan where
  content : Content
  spot : Spot

namespace Scan

def fail (scan : Scan) (fault : Fault) : Token := .bad true (scan.content.fault fault) fault

def plainStep (content : Content) : Option Char → Scan ⊕ Token
  | some '"' => .inr (.text content.finish)
  | some '\\' => .inl ⟨content, .escape none⟩
  | some c =>
      if c.toNat < 0x20 then .inr (fail ⟨content, .plain⟩ .controlCharacter)
      else .inl ⟨content.push (some c), .plain⟩
  | none => .inl ⟨content.push none, .plain⟩

def endUnit (content : Content) (unit : Nat) : Option Nat → Scan
  | none =>
      if isLow unit then ⟨content.spoil .loneSurrogate, .plain⟩
      else if isHigh unit then ⟨content, .paired unit⟩
      else ⟨content.push (some (Char.ofNat unit)), .plain⟩
  | some high =>
      if isLow unit then
        let code := (high - 0xd800) * 1024 + (unit - 0xdc00) + 0x10000
        ⟨content.push (some (Char.ofNat code)), .plain⟩
      else ⟨content.spoil .loneSurrogate, .plain⟩

def step (scan : Scan) (c : Option Char) (rest : Source) : Scan ⊕ Token :=
  match scan.spot with
  | .plain => plainStep scan.content c
  | .paired high =>
      if c = some '\\' then .inl ⟨scan.content, .escape (some high)⟩
      else plainStep (scan.content.spoil .hexEscapeEnd) c
  | .escape high =>
      if c = some 'u' then .inl ⟨scan.content, .unit high 0 0⟩
      else
        let content := if high.isSome then scan.content.spoil .hexEscapeEnd else scan.content
        match c.bind simpleEscape? with
        | some plain => .inl ⟨content.push (some plain), .plain⟩
        | none => .inr (fail ⟨content, .plain⟩ .invalidEscape)
  | .unit high count value =>
      match c.bind hexValue? with
      | none => .inr (scan.fail
          (if count + sourceBytes (c :: rest) < 4 then .endInString else .invalidEscape))
      | some digit =>
          let value := value * 16 + digit
          .inl (if count = 3 then endUnit scan.content value high
            else ⟨scan.content, .unit high (count + 1) value⟩)

end Scan

def scanText (scan : Scan) : Source → Token × Source
  | [] => (scan.fail .endInString, [])
  | c :: rest =>
      match scan.step c rest with
      | .inl next => scanText next rest
      | .inr token => (token, rest)

def isDigit : Option Char → Bool
  | some c => '0' ≤ c ∧ c ≤ '9'
  | none => false

def spanDigits (source : Source) : List Char × Source :=
  ((source.takeWhile isDigit).filterMap id, source.dropWhile isDigit)

def digitFault (rest : Source) : Token × Source :=
  (.bad false (if rest.isEmpty then .endInValue else .invalidNumber) .invalidNumber, [])

def scanExponent (number : Decimal) (source : Source) : Token × Source :=
  let (negative, rest) := match source with
    | some '-' :: rest => (true, rest)
    | some '+' :: rest => (false, rest)
    | rest => (false, rest)
  let (digits, after) := spanDigits rest
  if digits.isEmpty then digitFault rest
  else (.number { number with exponent := some (negative, digits) }.value, after)

def scanAfterFraction (number : Decimal) : Source → Token × Source
  | some 'e' :: rest => scanExponent number rest
  | some 'E' :: rest => scanExponent number rest
  | rest => (.number number.value, rest)

def scanNumber (negative : Bool) (source : Source) : Token × Source :=
  let (whole, rest) := spanDigits source
  match whole with
  | [] => digitFault source
  | '0' :: _ :: _ => (.bad false .invalidNumber .invalidNumber, [])
  | _ =>
      match rest with
      | some '.' :: rest =>
          let (fraction, after) := spanDigits rest
          if fraction.isEmpty then digitFault rest
          else scanAfterFraction ⟨negative, whole, some fraction, none⟩ after
      | _ => scanAfterFraction ⟨negative, whole, none, none⟩ rest

def scanLiteral (value : Json) : List Char → Source → Token × Source
  | [], rest => (.literal value, rest)
  | _ :: _, [] => (.bad false .endInValue .endInValue, [])
  | c :: expected, found :: rest =>
      if found = some c then scanLiteral value expected rest
      else (.bad false .expectedLiteral .expectedLiteral, [])

def scanToken (first : Option Char) (rest : Source) : Token × Source :=
  match first with
  | some '[' => (.openArr, rest)
  | some ']' => (.closeArr, rest)
  | some '\x7b' => (.openObj, rest)
  | some '\x7d' => (.closeObj, rest)
  | some ',' => (.comma, rest)
  | some ':' => (.colon, rest)
  | some '"' => scanText ⟨.ok [], .plain⟩ rest
  | some '-' => scanNumber true rest
  | some 'n' => scanLiteral .null ['u', 'l', 'l'] rest
  | some 't' => scanLiteral (.bool true) ['r', 'u', 'e'] rest
  | some 'f' => scanLiteral (.bool false) ['a', 'l', 's', 'e'] rest
  | _ =>
      if isDigit first then scanNumber false (first :: rest)
      else (.bad false .expectedValue .expectedValue, [])

def tokensWithin : Nat → Source → List Token
  | 0, _ => []
  | limit + 1, source =>
      match source.dropWhile (fun c => c.any isSpace) with
      | [] => []
      | first :: rest =>
          let (token, after) := scanToken first rest
          token :: tokensWithin limit after

/-- The tokens of a source: no token is without characters, so their number is within its length. -/
def tokens (source : Source) : List Token := tokensWithin source.length source

end TypedQuery.Json
