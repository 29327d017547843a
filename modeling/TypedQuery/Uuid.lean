/-!
Identifiers of 128 bits. They are read from 32 digits, from five hyphenated groups, and from these
groups in braces or after `urn:uuid:` in letters of any case, and written in groups of lower-case
digits.
-/

set_option autoImplicit false

namespace TypedQuery

structure Uuid where
  value : BitVec 128
deriving DecidableEq, Repr

inductive UuidFault where
  | character (found : Char) (place : Nat)
  | totalLength (length : Nat)
  | groupCount (count : Nat)
  | groupLength (group length : Nat)
deriving DecidableEq, Repr

namespace Uuid

def groups : List Nat := [8, 4, 4, 4, 12]

def hexValue? (c : Char) : Option Nat :=
  if '0' ≤ c ∧ c ≤ '9' then some (c.toNat - 48)
  else if 'a' ≤ c ∧ c ≤ 'f' then some (c.toNat - 87)
  else if 'A' ≤ c ∧ c ≤ 'F' then some (c.toNat - 55)
  else none

def ofHex? (digits : List Char) : Option Uuid :=
  if digits.length = 32 then
    (digits.foldlM (fun n c => (hexValue? c).map (n * 16 + ·)) 0).map fun n => ⟨BitVec.ofNat 128 n⟩
  else none

def splitHyphens : List Char → List (List Char)
  | [] => [[]]
  | c :: rest =>
      if c = '-' then [] :: splitHyphens rest
      else match splitHyphens rest with
        | first :: others => (c :: first) :: others
        | [] => [[c]]

def ofGroups? (text : List Char) : Option Uuid :=
  let parts := splitHyphens text
  if parts.map List.length = groups then ofHex? parts.flatten else none

def urn : List Char := ['u', 'r', 'n', ':', 'u', 'u', 'i', 'd', ':']

def unbrace? (text : List Char) : Option (List Char) :=
  match text with
  | '\x7b' :: rest => if rest.getLast? = some '\x7d' then some rest.dropLast else none
  | _ => none

def afterUrn? (text : List Char) : Option (List Char) :=
  if (text.take urn.length).map Char.toLower = urn then some (text.drop urn.length) else none

def body (text : List Char) : List Char × Bool :=
  match (unbrace? text).or (afterUrn? text) with
  | some inner => (inner, false)
  | none => (text, true)

def byteLength (text : List Char) : Nat := text.foldr (fun c total => c.utf8Size + total) 0

def strayFrom (place : Nat) : List Char → Option (Char × Nat)
  | [] => none
  | c :: rest =>
      if c = '-' || (hexValue? c).isSome then strayFrom (place + c.utf8Size) rest
      else some (c, place)

def wrongGroup (total : Nat) (parts : List (List Char)) : UuidFault :=
  let rec go (group start : Nat) (bound : Nat) : List (List Char) → List Nat → UuidFault
    | part :: parts, size :: sizes =>
        let stop := bound + part.length
        if sizes.isEmpty then .groupLength group (total - start)
        else if stop = start + size then go (group + 1) (start + size + 1) (stop + 1) parts sizes
        else .groupLength group (stop - start)
    | _, _ => .groupLength group (total - start)
  go 0 0 0 parts groups

def hyphenatedLength : Nat := groups.foldr (· + ·) 4

/-- What is wrong with a text that is no identifier. One that is longer than every form, or that has
neither hyphens nor wrapping nor the length of a form, is only told its length. -/
def faultOf (text : List Char) : UuidFault :=
  let length := byteLength text
  if hyphenatedLength + urn.length < length then .totalLength length
  else
    let (inner, alone) := body text
    match strayFrom 0 inner with
    | some (c, place) => .character c place
    | none =>
        let parts := splitHyphens inner
        if parts.length = 1 && alone && length ≠ hyphenatedLength then .totalLength length
        else if parts.length ≠ 5 then .groupCount parts.length
        else wrongGroup length parts

def parse (text : String) : Except UuidFault Uuid :=
  let chars := text.toList
  let (inner, alone) := body chars
  match (if alone then ofHex? chars else none).or (ofGroups? inner) with
  | some uuid => .ok uuid
  | none => .error (faultOf chars)

def hexDigits (uuid : Uuid) : List Char :=
  let digits := Nat.toDigits 16 uuid.value.toNat
  List.replicate (32 - digits.length) '0' ++ digits

def hyphenated : List Char → List Nat → List Char
  | digits, [] => digits
  | digits, [_] => digits
  | digits, size :: sizes => digits.take size ++ ['-'] ++ hyphenated (digits.drop size) sizes

def text (uuid : Uuid) : String := String.ofList (hyphenated uuid.hexDigits groups)

end Uuid

def UuidFault.message : UuidFault → String
  | .character found place => s!"invalid character: found `{found}` at {place}"
  | .totalLength length => s!"invalid length: found {length}"
  | .groupCount count => s!"invalid group count: expected 5, found {count}"
  | .groupLength group length =>
      s!"invalid group length in group {group}: expected {Uuid.groups.getD group 0}, found {length}"

end TypedQuery
