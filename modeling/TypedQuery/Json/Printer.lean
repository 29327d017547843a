import TypedQuery.Json.Basic
import TypedQuery.Number.Shortest

/-!
JSON text: compact, without any blank, and pretty, indented by two spaces. Strings escape the quote,
the backslash and the control characters, and nothing else.
-/

set_option autoImplicit false

namespace TypedQuery.Json

def hexDigit (n : Nat) : Char := (Nat.toDigits 16 n).headD '0'

def escapeChar (c : Char) : List Char :=
  if c = '"' then ['\\', '"']
  else if c = '\\' then ['\\', '\\']
  else if c = '\n' then ['\\', 'n']
  else if c = '\r' then ['\\', 'r']
  else if c = '\t' then ['\\', 't']
  else if c = '\x08' then ['\\', 'b']
  else if c = '\x0c' then ['\\', 'f']
  else if c.toNat < 0x20 then
    ['\\', 'u', '0', '0', hexDigit (c.toNat / 16), hexDigit (c.toNat % 16)]
  else [c]

def quote (text : String) : List Char := ['"'] ++ text.toList.flatMap escapeChar ++ ['"']

mutual
def compactChars : Json → List Char
  | .null => ['n', 'u', 'l', 'l']
  | .bool true => ['t', 'r', 'u', 'e']
  | .bool false => ['f', 'a', 'l', 's', 'e']
  | .int n => (toString n).toList
  | .double x => if x.isFinite then x.text.toList else ['n', 'u', 'l', 'l']
  | .str text => quote text
  | .arr items => ['['] ++ compactItems items ++ [']']
  | .obj fields => ['\x7b'] ++ compactFields fields ++ ['\x7d']
def compactItems : List Json → List Char
  | [] => []
  | [item] => compactChars item
  | item :: rest => compactChars item ++ [','] ++ compactItems rest
def compactFields : List (String × Json) → List Char
  | [] => []
  | [(key, value)] => quote key ++ [':'] ++ compactChars value
  | (key, value) :: rest => quote key ++ [':'] ++ compactChars value ++ [','] ++ compactFields rest
end

def compact (value : Json) : String := String.ofList (compactChars value)

def newLine (depth : Nat) : List Char := '\n' :: List.replicate (2 * depth) ' '

mutual
def prettyChars (depth : Nat) : Json → List Char
  | .arr [] => ['[', ']']
  | .arr (item :: rest) => ['['] ++ prettyItems (depth + 1) (item :: rest) ++ newLine depth ++ [']']
  | .obj [] => ['\x7b', '\x7d']
  | .obj (field :: rest) =>
      ['\x7b'] ++ prettyFields (depth + 1) (field :: rest) ++ newLine depth ++ ['\x7d']
  | .null => ['n', 'u', 'l', 'l']
  | .bool b => compactChars (.bool b)
  | .int n => compactChars (.int n)
  | .double x => compactChars (.double x)
  | .str text => quote text
def prettyItems (depth : Nat) : List Json → List Char
  | [] => []
  | [item] => newLine depth ++ prettyChars depth item
  | item :: rest => newLine depth ++ prettyChars depth item ++ [','] ++ prettyItems depth rest
def prettyFields (depth : Nat) : List (String × Json) → List Char
  | [] => []
  | [(key, value)] => newLine depth ++ quote key ++ [':', ' '] ++ prettyChars depth value
  | (key, value) :: rest =>
      newLine depth ++ quote key ++ [':', ' '] ++ prettyChars depth value ++ [','] ++
        prettyFields depth rest
end

def pretty (value : Json) : String := String.ofList (prettyChars 0 value)

end TypedQuery.Json
