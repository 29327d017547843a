import TypedQuery.Json.Basic
import TypedQuery.Text.CaseMapping

/-!
Redaction: the values under keys that contain one of some names, in whatever case, are replaced.
-/

set_option autoImplicit false

namespace TypedQuery

def redactedText : String := "[REDACTED]"

def defaultRedacted : List String := ["password", "api_key", "secret", "token", "authorization"]

def containsText (part : List Char) : List Char → Bool
  | [] => part.isEmpty
  | c :: rest => part.isPrefixOf (c :: rest) || containsText part rest

def isSensitive (names : List String) (key : String) : Bool :=
  let lowered := (Text.lower key).toList
  names.any fun name => containsText (Text.lower name).toList lowered

mutual
def redact (names : List String) : Json → Json
  | .arr items => .arr (redactItems names items)
  | .obj fields => .obj (redactFields names fields)
  | other => other
def redactItems (names : List String) : List Json → List Json
  | [] => []
  | item :: rest => redact names item :: redactItems names rest
def redactFields (names : List String) : List (String × Json) → List (String × Json)
  | [] => []
  | (key, value) :: rest =>
      (key, if isSensitive names key then .str redactedText else redact names value) ::
        redactFields names rest
end

end TypedQuery
