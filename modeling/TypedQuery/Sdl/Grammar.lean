import TypedQuery.Sdl.Document
import TypedQuery.Sdl.Lexeme

/-!
The grammar of schema documents. Keywords need no boundary after them, and a type reference holds no
blanks.
-/

set_option autoImplicit false

namespace TypedQuery.Sdl

open Rule

def digits1 : Rule (List Char) := do
  let first ← charOf Char.isDigit
  let others ← spanOf Char.isDigit
  pure (first :: others)

def wholeDigits : Rule (List Char) := (do let c ← char '0'; pure [c]) <|> digits1

def fractionDigits : Rule (List Char) := do let _ ← char '.'; digits1

def exponentDigits : Rule (Bool × List Char) := do
  let _ ← charOf fun c => c = 'e' || c = 'E'
  let sign ← maybe (charOf fun c => c = '+' || c = '-')
  let digits ← digits1
  pure (sign = some '-', digits)

def number : Rule Json.Decimal := token do
  let sign ← maybe (char '-')
  let whole ← wholeDigits
  let fraction ← maybe fractionDigits
  let exponent ← maybe exponentDigits
  notNext isNameStart
  pure ⟨sign.isSome, whole, fraction, exponent⟩

def tripleQuote : List Char := ['"', '"', '"']

def blockRest : List Char → Option (List Char)
  | [] => none
  | '\\' :: '"' :: '"' :: '"' :: rest => blockRest rest
  | '"' :: '"' :: '"' :: rest => some rest
  | _ :: rest => blockRest rest

def isHex (c : Char) : Bool := c.isDigit || ('a' ≤ c && c ≤ 'f') || ('A' ≤ c && c ≤ 'F')

def isSurrogate (a b : Char) : Bool :=
  (a = 'd' || a = 'D') && (b = '8' || b = '9' || ('a' ≤ b && b ≤ 'f') || ('A' ≤ b && b ≤ 'F'))

def isSimpleEscape (c : Char) : Bool :=
  c = '"' || c = '\\' || c = '/' || c = 'b' || c = 'f' || c = 'n' || c = 'r' || c = 't'

def stringRest : List Char → Option (List Char)
  | [] => none
  | '"' :: rest => some rest
  | '\\' :: 'u' :: a :: b :: c :: d :: rest =>
      if isHex a && isHex b && isHex c && isHex d && !isSurrogate a b then stringRest rest else none
  | '\\' :: c :: rest => if isSimpleEscape c then stringRest rest else none
  | '\\' :: [] => none
  | c :: rest => if isLineEnd c then none else stringRest rest

def ending (rest : List Char → Option (List Char)) : Rule Unit := do
  match rest (← get) with
  | some after => set after
  | none => failure

def string : Rule Unit :=
  token ((do exactly tripleQuote; ending blockRest) <|> (do let _ ← char '"'; ending stringRest))

/-- A name other than the literals, which it may not even begin with. -/
def enumValue : Rule String := token do
  let input ← get
  if ["true", "false", "null"].any fun literal => literal.toList.isPrefixOf input then failure
  else String.ofList <$> nameChars

def valueWithin : Nat → Rule ConstValue
  | 0 => failure
  | depth + 1 =>
      (ConstValue.number <$> number)
      <|> (do string; pure .string)
      <|> (do keyword "true"; pure (.boolean true))
      <|> (do keyword "false"; pure (.boolean false))
      <|> (do keyword "null"; pure .null)
      <|> (ConstValue.choice <$> enumValue)
      <|> (do
        keyword "["
        let items ← many (valueWithin depth)
        keyword "]"
        pure (.list items))
      <|> (do
        keyword "\x7b"
        let fields ← many (do
          let key ← name
          keyword ":"
          let value ← valueWithin depth
          pure (key, value))
        keyword "\x7d"
        pure (.object fields))

def value : Rule ConstValue := do valueWithin (← get).length

def typeWithin : Nat → Rule TypeRef
  | 0 => failure
  | depth + 1 => do
      let base ← (TypeRef.named <$> String.ofList <$> nameChars) <|> (do
        let _ ← char '['
        let element ← typeWithin depth
        let _ ← char ']'
        pure (.list element))
      match ← maybe (char '!') with
      | some _ => pure (.nonNull base)
      | none => pure base

def typeRef : Rule TypeRef := token do typeWithin (← get).length

def directive : Rule Directive := do
  keyword "@"
  let directive ← name
  let arguments ← maybe (do
    keyword "("
    let arguments ← many1 (do
      let key ← name
      keyword ":"
      let value ← value
      pure (key, value))
    keyword ")"
    pure arguments)
  pure ⟨directive, arguments.getD []⟩

def directives : Rule (List Directive) := many1 directive

def maybeDirectives : Rule (List Directive) := (·.getD []) <$> maybe directives

def description : Rule (Option Unit) := maybe string

def inputValue : Rule InputValue := do
  let _ ← description
  let key ← name
  keyword ":"
  let type ← typeRef
  let default ← maybe (do keyword "="; value)
  let directives ← maybeDirectives
  pure ⟨key, type, default, directives⟩

def arguments : Rule (List InputValue) := do
  keyword "("
  let values ← many1 inputValue
  keyword ")"
  pure values

def field : Rule Field := do
  let _ ← description
  let key ← name
  let arguments ← maybe arguments
  keyword ":"
  let type ← typeRef
  let directives ← maybeDirectives
  pure ⟨key, arguments.getD [], type, directives⟩

def fields : Rule (List Field) := do
  keyword "\x7b"
  let fields ← many1 field
  keyword "\x7d"
  pure fields

def namesBy (mark : String) : Rule (List String) := do
  let _ ← maybe (keyword mark)
  let first ← name
  let others ← many (do keyword mark; name)
  pure (first :: others)

def interfaces : Rule (List String) := do keyword "implements"; namesBy "&"

def root : Rule (RootKind × String) := do
  let kind ← (do keyword "query"; pure RootKind.query)
    <|> (do keyword "mutation"; pure RootKind.mutation)
    <|> (do keyword "subscription"; pure RootKind.subscription)
  keyword ":"
  let type ← name
  pure (kind, type)

def roots : Rule (List (RootKind × String)) := do
  keyword "\x7b"
  let roots ← many1 root
  keyword "\x7d"
  pure roots

def schemaBlock : Rule SchemaBlock :=
  (do
    keyword "schema"
    let directives ← maybeDirectives
    let roots ← roots
    pure ⟨false, directives, roots⟩)
  <|> (do
    keyword "extend"
    keyword "schema"
    (do
      let directives ← maybeDirectives
      let roots ← roots
      pure ⟨true, directives, roots⟩)
    <|> (do
      let directives ← directives
      pure ⟨true, directives, []⟩))

def extension {α : Type} (empty : α) (body : Rule α) : Rule (List Directive × α) :=
  (do
    let directives ← maybeDirectives
    let body ← body
    pure (directives, body))
  <|> (do
    let directives ← directives
    pure (directives, empty))

def scalarType : Rule TypeDefinition :=
  (do
    let _ ← description
    keyword "scalar"
    let type ← name
    let directives ← maybeDirectives
    pure ⟨false, type, directives, .scalar⟩)
  <|> (do
    keyword "extend"
    keyword "scalar"
    let type ← name
    let directives ← directives
    pure ⟨true, type, directives, .scalar⟩)

def objectType : Rule TypeDefinition :=
  (do
    let _ ← description
    keyword "type"
    let type ← name
    let interfaces ← maybe interfaces
    let directives ← maybeDirectives
    let fields ← maybe fields
    pure ⟨false, type, directives, .object (interfaces.getD []) (fields.getD [])⟩)
  <|> (do
    keyword "extend"
    keyword "type"
    let type ← name
    (do
      let interfaces ← maybe interfaces
      let (directives, fields) ← extension [] fields
      pure ⟨true, type, directives, .object (interfaces.getD []) fields⟩)
    <|> (do
      let interfaces ← interfaces
      pure ⟨true, type, [], .object interfaces []⟩))

def interfaceType : Rule TypeDefinition :=
  (do
    let _ ← description
    keyword "interface"
    let type ← name
    let interfaces ← maybe interfaces
    let directives ← maybeDirectives
    let fields ← maybe fields
    pure ⟨false, type, directives, .interface (interfaces.getD []) (fields.getD [])⟩)
  <|> (do
    keyword "extend"
    keyword "interface"
    let type ← name
    let interfaces ← maybe interfaces
    let (directives, fields) ← extension [] fields
    pure ⟨true, type, directives, .interface (interfaces.getD []) fields⟩)

def members : Rule (List String) := do keyword "="; namesBy "|"

def unionType : Rule TypeDefinition :=
  (do
    let _ ← description
    keyword "union"
    let type ← name
    let directives ← maybeDirectives
    let members ← maybe members
    pure ⟨false, type, directives, .union (members.getD [])⟩)
  <|> (do
    keyword "extend"
    keyword "union"
    let type ← name
    let (directives, members) ← extension [] members
    pure ⟨true, type, directives, .union members⟩)

def enumValues : Rule (List (String × List Directive)) := do
  keyword "\x7b"
  let values ← many1 (do
    let _ ← description
    let value ← enumValue
    let directives ← maybeDirectives
    pure (value, directives))
  keyword "\x7d"
  pure values

def enumType : Rule TypeDefinition :=
  (do
    let _ ← description
    keyword "enum"
    let type ← name
    let directives ← maybeDirectives
    let values ← maybe enumValues
    pure ⟨false, type, directives, .enumeration (values.getD [])⟩)
  <|> (do
    keyword "extend"
    keyword "enum"
    let type ← name
    let (directives, values) ← extension [] enumValues
    pure ⟨true, type, directives, .enumeration values⟩)

def inputFields : Rule (List InputValue) := do
  keyword "\x7b"
  let fields ← many1 inputValue
  keyword "\x7d"
  pure fields

def inputType : Rule TypeDefinition :=
  (do
    let _ ← description
    keyword "input"
    let type ← name
    let directives ← maybeDirectives
    let fields ← maybe inputFields
    pure ⟨false, type, directives, .input (fields.getD [])⟩)
  <|> (do
    keyword "extend"
    keyword "input"
    let type ← name
    let (directives, fields) ← extension [] inputFields
    pure ⟨true, type, directives, .input fields⟩)

def typeDefinition : Rule TypeDefinition :=
  scalarType <|> objectType <|> interfaceType <|> unionType <|> enumType <|> inputType

def locations : List String :=
  ["QUERY", "MUTATION", "SUBSCRIPTION", "FIELD_DEFINITION", "FIELD", "FRAGMENT_DEFINITION",
    "FRAGMENT_SPREAD", "INLINE_FRAGMENT", "VARIABLE_DEFINITION", "SCHEMA", "SCALAR", "OBJECT",
    "ARGUMENT_DEFINITION", "INTERFACE", "UNION", "ENUM_VALUE", "ENUM", "INPUT_OBJECT",
    "INPUT_FIELD_DEFINITION"]

def location : Rule Unit := locations.foldr (fun text rest => keyword text <|> rest) failure

def directiveDefinition : Rule Definition := do
  let _ ← description
  keyword "directive"
  keyword "@"
  let directive ← name
  let arguments ← maybe arguments
  let _ ← maybe (keyword "repeatable")
  keyword "on"
  let _ ← maybe (keyword "|")
  location
  let _ ← many (do keyword "|"; location)
  pure (.directive directive (arguments.getD []))

def definition : Rule Definition :=
  (Definition.schema <$> schemaBlock)
  <|> (Definition.type <$> typeDefinition)
  <|> directiveDefinition

def document : Rule Document := do
  let definitions ← many1 definition
  skip
  if (← get).isEmpty then pure definitions else failure

/-- Reads a document. The definitions are checked in order once all of the text has been read. -/
def parseDocument (text : String) : Except SdlFault Document :=
  match document.run text.toList with
  | none => .error .grammar
  | some (definitions, _) =>
      match definitions.findSome? Definition.fault? with
      | some fault => .error fault
      | none => .ok definitions

end TypedQuery.Sdl
