import TypedQuery.Json.Number
import TypedQuery.Rule
import TypedQuery.Time
import TypedQuery.Toml.Table

/-!
The grammar of TOML 1.0. A document is read as a JSON object; a date or time is an object with one
member of a reserved name.
-/

set_option autoImplicit false

namespace TypedQuery.Toml

open Rule

def isBlank (c : Char) : Bool := c = ' ' || c = '\t'

def isText (c : Char) : Bool := c = '\t' || (0x20 ≤ c.toNat && c.toNat ≠ 0x7f)

def blanks : Rule Unit := do let _ ← spanOf isBlank

def newLine : Rule Unit := exactly ['\n'] <|> exactly ['\r', '\n']

def comment : Rule Unit := do
  let _ ← char '#'
  let _ ← spanOf isText

def atEnd : Rule Unit := notNext fun _ => true

def lineEnd : Rule Unit := do
  blanks
  let _ ← maybe comment
  newLine <|> atEnd

def gap : Rule Unit := do
  let _ ← many ((do let _ ← charOf isBlank) <|> newLine <|> comment)

/-! Strings. -/

def hexDigit : Rule Nat := do
  let c ← charOf fun c => c.isDigit || ('a' ≤ c && c ≤ 'f') || ('A' ≤ c && c ≤ 'F')
  pure (if c.isDigit then c.toNat - 48 else if 'a' ≤ c then c.toNat - 87 else c.toNat - 55)

def hexNumber : Nat → Nat → Rule Nat
  | 0, value => pure value
  | digits + 1, value => do
      let digit ← hexDigit
      hexNumber digits (value * 16 + digit)

def codePoint (digits : Nat) : Rule Char := do
  let code ← hexNumber digits 0
  if code < 0xd800 ∨ (0xdfff < code ∧ code < 0x110000) then pure (Char.ofNat code) else failure

def escapeSequence : Rule Char := do
  let _ ← char '\\'
  match ← charOf fun _ => true with
  | 'b' => pure '\x08'
  | 't' => pure '\t'
  | 'n' => pure '\n'
  | 'f' => pure '\x0c'
  | 'r' => pure '\r'
  | '"' => pure '"'
  | '\\' => pure '\\'
  | 'u' => codePoint 4
  | 'U' => codePoint 8
  | _ => failure

def plainBasic : Rule Char := charOf fun c => isText c && c ≠ '"' && c ≠ '\\'
def plainLiteral : Rule Char := charOf fun c => isText c && c ≠ '\''

def basicString : Rule (List Char) := do
  let _ ← char '"'
  let text ← many (plainBasic <|> escapeSequence)
  let _ ← char '"'
  pure text

def literalString : Rule (List Char) := do
  let _ ← char '\''
  let text ← many plainLiteral
  let _ ← char '\''
  pure text

/-- A backslash before a line end drops all blanks and line ends that follow. -/
def foldedLine : Rule (List Char) := do
  let _ ← char '\\'
  blanks
  newLine
  let _ ← many ((do let _ ← charOf isBlank) <|> newLine)
  pure []

def innerQuotes (quote : Char) : Rule (List Char) :=
  (do exactly [quote, quote]; notNext (· = quote); pure [quote, quote])
  <|> (do exactly [quote]; notNext (· = quote); pure [quote])

def closingQuotes (quote : Char) : Rule (List Char) :=
  (do exactly (List.replicate 5 quote); pure [quote, quote])
  <|> (do exactly (List.replicate 4 quote); pure [quote])
  <|> (do exactly (List.replicate 3 quote); pure [])

def tripleString (quote : Char) (content : Rule (List Char)) : Rule (List Char) := do
  exactly (List.replicate 3 quote)
  let _ ← maybe newLine
  let text ← many (content <|> (do newLine; pure ['\n']) <|> innerQuotes quote)
  let last ← closingQuotes quote
  pure (text.flatten ++ last)

def single (rule : Rule Char) : Rule (List Char) := do let c ← rule; pure [c]

def anyString : Rule (List Char) :=
  tripleString '"' (single plainBasic <|> foldedLine <|> single escapeSequence)
  <|> basicString
  <|> tripleString '\'' (single plainLiteral)
  <|> literalString

/-! Keys. -/

def isBare (c : Char) : Bool := c.isAlphanum || c = '-' || c = '_'

def bareKey : Rule (List Char) := do
  let first ← charOf isBare
  let others ← spanOf isBare
  pure (first :: others)

def simpleKey : Rule String := String.ofList <$> (bareKey <|> basicString <|> literalString)

def keyPart : Rule String := do blanks; let key ← simpleKey; blanks; pure key

def nestingLimit : Nat := 79

def dottedKey : Rule (List String × String) := do
  let first ← keyPart
  let others ← many (do let _ ← char '.'; keyPart)
  let all := first :: others
  if all.length ≤ nestingLimit then pure (all.dropLast, all.getLastD first) else failure

/-! Numbers, dates and times. -/

def digitsOf (isDigit : Char → Bool) : Rule (List Char) := do
  let first ← charOf isDigit
  let others ← many (charOf isDigit <|> (do let _ ← char '_'; charOf isDigit))
  pure (first :: others)

def wholeDigits : Rule (List Char) :=
  (do
    notNext (· = '0')
    digitsOf Char.isDigit)
  <|> (do let c ← char '0'; pure [c])

def sign : Rule (Option Char) := maybe (charOf fun c => c = '+' || c = '-')

def inWord (n : Int) : Rule Json :=
  if -(Nat.pow 2 63 : Int) ≤ n ∧ n < Nat.pow 2 63 then pure (.int n) else failure

def decimalInteger : Rule Json := do
  let sign ← sign
  let digits ← wholeDigits
  let n : Int := Json.natOfDigits digits
  inWord (if sign = some '-' then -n else n)

def radixValue (radix : Nat) (digits : List Char) : Nat :=
  digits.foldl (fun n c => n * radix +
    (if c.isDigit then c.toNat - 48 else if 'a' ≤ c then c.toNat - 87 else c.toNat - 55)) 0

def radixInteger (mark : Char) (radix : Nat) (isDigit : Char → Bool) : Rule Json := do
  exactly ['0', mark]
  let digits ← digitsOf isDigit
  inWord (radixValue radix digits)

def integer : Rule Json :=
  radixInteger 'x' 16 (fun c => c.isDigit || ('a' ≤ c && c ≤ 'f') || ('A' ≤ c && c ≤ 'F'))
  <|> radixInteger 'o' 8 (fun c => '0' ≤ c && c ≤ '7')
  <|> radixInteger 'b' 2 (fun c => c = '0' || c = '1')
  <|> decimalInteger

def exponentPart : Rule Int := do
  let _ ← charOf fun c => c = 'e' || c = 'E'
  let sign ← sign
  let digits ← digitsOf Char.isDigit
  let n : Int := Json.natOfDigits digits
  pure (if sign = some '-' then -n else n)

def fractionPart : Rule (List Char) := do let _ ← char '.'; digitsOf Char.isDigit

/-- The double nearest to `digits * 10 ^ exponent`, the exponent kept to where that can matter. -/
def realOf (negative : Bool) (digits : List Char) (exponent : Int) : Double :=
  let n := Json.natOfDigits digits
  if 0 ≤ exponent then Double.ofRatio negative (n * Nat.pow 10 (min exponent 400).toNat) 1
  else Double.ofRatio negative n (Nat.pow 10 (min (-exponent) (400 + digits.length)).toNat)

def decimalFloat : Rule Json := do
  let sign ← sign
  let whole ← wholeDigits
  let fraction ← maybe fractionPart
  let exponent ← maybe exponentPart
  if fraction.isNone && exponent.isNone then failure
  else
    let places := fraction.getD []
    let value := realOf (sign = some '-') (whole ++ places) (exponent.getD 0 - places.length)
    if value = Double.infinity false then failure else pure (.double value)

def namedFloat : Rule Json := do
  let sign ← sign
  (do exactly ['i', 'n', 'f']; pure (.double (Double.infinity (sign = some '-'))))
  <|> (do exactly ['n', 'a', 'n']; pure (.double Double.nan))

def fixedDigits (count : Nat) : Rule Nat := do
  let digits := (← get).take count
  if digits.length = count && digits.all Char.isDigit then do
    modify (·.drop count)
    pure (Json.natOfDigits digits)
  else failure

def within (low high : Nat) (rule : Rule Nat) : Rule Nat := do
  let n ← rule
  if low ≤ n ∧ n ≤ high then pure n else failure

def dateText : Rule (List Char) := do
  let year ← fixedDigits 4
  let _ ← char '-'
  let month ← within 1 12 (fixedDigits 2)
  let _ ← char '-'
  let day ← within 1 (CivilTime.daysInMonth year month) (fixedDigits 2)
  pure (Time.pad 4 year ++ ['-'] ++ Time.pad 2 month ++ ['-'] ++ Time.pad 2 day)

def secondFraction : Rule (List Char) := do
  let _ ← char '.'
  let first ← charOf Char.isDigit
  let others ← spanOf Char.isDigit
  let kept := (((first :: others).take 9).reverse.dropWhile (· = '0')).reverse
  pure (if kept.isEmpty then [] else '.' :: kept)

def clockText : Rule (List Char) := do
  let hour ← within 0 23 (fixedDigits 2)
  let _ ← char ':'
  let minute ← within 0 59 (fixedDigits 2)
  let _ ← char ':'
  let second ← within 0 60 (fixedDigits 2)
  let fraction ← maybe secondFraction
  pure (Time.pad 2 hour ++ [':'] ++ Time.pad 2 minute ++ [':'] ++ Time.pad 2 second ++
    fraction.getD [])

def offsetText : Rule (List Char) :=
  (do let _ ← charOf fun c => c = 'Z' || c = 'z'; pure ['Z'])
  <|> (do
    let sign ← charOf fun c => c = '+' || c = '-'
    let hour ← within 0 23 (fixedDigits 2)
    let _ ← char ':'
    let minute ← within 0 59 (fixedDigits 2)
    let shown := if hour = 0 ∧ minute = 0 then '+' else sign
    pure (shown :: Time.pad 2 hour ++ [':'] ++ Time.pad 2 minute))

def dateTimeText : Rule (List Char) :=
  (do
    let date ← dateText
    let clock ← maybe (do
      let _ ← charOf fun c => c = 'T' || c = 't' || c = ' '
      let clock ← clockText
      let offset ← maybe offsetText
      pure ('T' :: clock ++ offset.getD []))
    pure (date ++ clock.getD []))
  <|> clockText

def dateTimeKey : String := "$__toml_private_datetime"

def dateTime : Rule Json := do
  let text ← dateTimeText
  pure (.obj [(dateTimeKey, .str (String.ofList text))])

/-! Values. -/

def listItems (value : Rule Json) : Rule (List Json) := do
  let item : Rule Json := do gap; let value ← value; gap; pure value
  match ← maybe item with
  | none => do gap; pure []
  | some first => do
      let others ← many (do let _ ← char ','; item)
      let _ ← maybe (char ',')
      gap
      pure (first :: others)

def pairOf (value : Rule Json) : Rule Table.Pair := do
  let (path, key) ← dottedKey
  let _ ← char '='
  blanks
  let value ← value
  pure ⟨path, key, value⟩

def inlineTable (value : Rule Json) : Rule Json := do
  let pair : Rule Table.Pair := do let pair ← pairOf value; blanks; pure pair
  let _ ← char '\x7b'
  let first ← maybe pair
  let others ← match first with
    | none => do blanks; pure []
    | some _ => many (do let _ ← char ','; pair)
  let _ ← char '\x7d'
  match Table.root.enterAll (first.toList ++ others) with
  | some table => pure table.toJson
  | none => failure

def plainValue : Rule Json :=
  (do let text ← anyString; pure (.str (String.ofList text)))
  <|> (do exactly "true".toList; pure (.bool true))
  <|> (do exactly "false".toList; pure (.bool false))
  <|> dateTime
  <|> decimalFloat
  <|> namedFloat
  <|> integer

def valueWithin : Nat → Rule Json
  | 0 => plainValue
  | depth + 1 =>
      plainValue
      <|> (do
        let _ ← char '['
        let items ← listItems (valueWithin depth)
        let _ ← char ']'
        pure (.arr items))
      <|> inlineTable (valueWithin depth)

def value : Rule Json := valueWithin nestingLimit

/-! Documents. -/

def pairLine : Rule Table.Pair := do
  let pair ← pairOf value
  lineEnd
  pure pair

def emptyLine : Rule Unit := do
  blanks
  let _ ← maybe comment
  newLine

def pairs : Rule (List Table.Pair) := do
  let lines ← many ((do emptyLine; pure none) <|> (some <$> pairLine))
  pure (lines.filterMap id)

def header : Rule (Bool × List String × String) :=
  (do
    exactly ['[', '[']
    let (path, key) ← dottedKey
    exactly [']', ']']
    lineEnd
    pure (true, path, key))
  <|> (do
    exactly ['[']
    let (path, key) ← dottedKey
    exactly [']']
    lineEnd
    pure (false, path, key))

def sectionRule : Rule Table.Section := do
  blanks
  let (isArray, path, key) ← header
  let pairs ← pairs
  pure ⟨path, key, isArray, pairs⟩

def document : Rule (List Table.Pair × List Table.Section) := do
  let _ ← maybe (char '\ufeff')
  let first ← pairs
  let sections ← many sectionRule
  blanks
  let _ ← maybe comment
  atEnd
  pure (first, sections)

def parse? (text : String) : Option Json := do
  let ((pairs, sections), _) ← document.run text.toList
  let table ← Table.root.enterAll pairs
  let table ← sections.foldlM Table.addSection table
  some table.toJson

end TypedQuery.Toml
