/-!
Rules of a parsing grammar: a rule takes a prefix of the text or fails. A choice takes its first
alternative that matches, a repetition takes as much as it can, and neither is reconsidered.
-/

set_option autoImplicit false

namespace TypedQuery

abbrev Rule := StateT (List Char) Option

namespace Rule

variable {α : Type}

def maybe (rule : Rule α) : Rule (Option α) := (some <$> rule) <|> pure none

def manyWithin (rule : Rule α) : Nat → Rule (List α)
  | 0 => pure []
  | limit + 1 =>
      (do
        let first ← rule
        let others ← manyWithin rule limit
        pure (first :: others)) <|> pure []

/-- Matches a rule as often as it matches; every match takes a character. -/
def many (rule : Rule α) : Rule (List α) := do manyWithin rule (← get).length

def many1 (rule : Rule α) : Rule (List α) := do
  let first ← rule
  let others ← many rule
  pure (first :: others)

def charOf (isMember : Char → Bool) : Rule Char := do
  match ← get with
  | c :: rest => if isMember c then do set rest; pure c else failure
  | [] => failure

def char (c : Char) : Rule Char := charOf (· = c)

def exactly (text : List Char) : Rule Unit := do
  let input ← get
  if text.isPrefixOf input then set (input.drop text.length) else failure

def notNext (isMember : Char → Bool) : Rule Unit := do
  match ← get with
  | c :: _ => if isMember c then failure else pure ()
  | [] => pure ()

def spanOf (isMember : Char → Bool) : Rule (List Char) := do
  let input ← get
  set (input.dropWhile isMember)
  pure (input.takeWhile isMember)

end Rule

end TypedQuery
