import TypedQuery.Rule

/-!
The tokens of schema documents and what may stand between them.
-/

set_option autoImplicit false

namespace TypedQuery.Sdl

def isNameStart (c : Char) : Bool := c.isAlpha || c = '_'
def isNameChar (c : Char) : Bool := c.isAlphanum || c = '_'
def isLineEnd (c : Char) : Bool := c = '\n' || c = '\r'

def isIgnored (c : Char) : Bool :=
  c = ' ' || c = '\t' || c = ',' || c = '\ufeff' || isLineEnd c

def skipFrom (inComment : Bool) : List Char → List Char
  | [] => []
  | c :: rest =>
      if inComment then if isLineEnd c then skipFrom false rest else skipFrom true rest
      else if isIgnored c then skipFrom false rest
      else if c = '#' then skipFrom true rest
      else c :: rest

def skip : Rule Unit := modify (skipFrom false)

def token {α : Type} (rule : Rule α) : Rule α := do skip; rule

/-- A keyword or mark. It ends where its text ends, whatever follows. -/
def keyword (text : String) : Rule Unit := token (Rule.exactly text.toList)

def nameChars : Rule (List Char) := do
  let first ← Rule.charOf isNameStart
  let others ← Rule.spanOf isNameChar
  pure (first :: others)

def name : Rule String := token (String.ofList <$> nameChars)

end TypedQuery.Sdl
