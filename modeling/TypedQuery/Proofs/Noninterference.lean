import TypedQuery.Exchange
import TypedQuery.Proofs.Redaction

/-!
What can be told from a redacted value, and so from a logged request: everything but what stands
under sensitive keys. Two values have the same redacted form exactly when they differ there only.
-/

set_option autoImplicit false

namespace TypedQuery

def SensitiveKey (names : List String) (key : String) : Prop := ∃ name ∈ names, Text.Mentions key name

mutual
-- Two values that differ only in what stands under hidden keys.
inductive Json.Alike (hidden : String → Prop) : Json → Json → Prop
  | same (value : Json) : Alike hidden value value
  | arr (items others : List Json) : AlikeItems hidden items others → Alike hidden (.arr items) (.arr others)
  | obj (fields others : List (String × Json)) :
      AlikeFields hidden fields others → Alike hidden (.obj fields) (.obj others)
inductive Json.AlikeItems (hidden : String → Prop) : List Json → List Json → Prop
  | nil : AlikeItems hidden [] []
  | cons (first second : Json) (rest others : List Json) :
      Alike hidden first second → AlikeItems hidden rest others → AlikeItems hidden (first :: rest) (second :: others)
inductive Json.AlikeFields (hidden : String → Prop) : List (String × Json) → List (String × Json) → Prop
  | nil : AlikeFields hidden [] []
  | concealed (key : String) (first second : Json) (rest others : List (String × Json)) :
      hidden key → AlikeFields hidden rest others → AlikeFields hidden ((key, first) :: rest) ((key, second) :: others)
  | shown (key : String) (first second : Json) (rest others : List (String × Json)) :
      Alike hidden first second → AlikeFields hidden rest others →
      AlikeFields hidden ((key, first) :: rest) ((key, second) :: others)
end

inductive Json.Node where
  | scalar (value : Json)
  | items (length : Nat)
  | members (keys : List String)
deriving DecidableEq

def Json.node : Json → Node
  | .arr items => .items items.length
  | .obj fields => .members (fields.map Prod.fst)
  | value => .scalar value

theorem sensitive_key_iff (names : List String) (key : String) : SensitiveKey names key ↔ isSensitive names key :=
  (sensitive_iff names key).symm

mutual
theorem alike_redacted (names : List String) (value other : Json) (alike : value.Alike (SensitiveKey names) other) :
    redact names value = redact names other := by
  cases alike with
  | same => rfl
  | arr items others each => rw [redact, redact, alike_items_redacted names items others each]
  | obj fields others each => rw [redact, redact, alike_fields_redacted names fields others each]
theorem alike_items_redacted (names : List String) (items others : List Json)
    (alike : Json.AlikeItems (SensitiveKey names) items others) : redactItems names items = redactItems names others := by
  cases alike with
  | nil => rfl
  | cons first second rest more head tail =>
      rw [redactItems, redactItems, alike_redacted names first second head, alike_items_redacted names rest more tail]
theorem alike_fields_redacted (names : List String) (fields others : List (String × Json))
    (alike : Json.AlikeFields (SensitiveKey names) fields others) :
    redactFields names fields = redactFields names others := by
  cases alike with
  | nil => rfl
  | concealed key first second rest more hidden tail =>
      rw [redactFields, redactFields, alike_fields_redacted names rest more tail,
        if_pos ((sensitive_key_iff names key).mp hidden), if_pos ((sensitive_key_iff names key).mp hidden)]
  | shown key first second rest more head tail =>
      rw [redactFields, redactFields, alike_redacted names first second head, alike_fields_redacted names rest more tail]
end

mutual
theorem redact_alike (names : List String) (value : Json) : value.Alike (SensitiveKey names) (redact names value) := by
  cases value with
  | arr items => exact .arr _ _ (redact_items_alike names items)
  | obj fields => exact .obj _ _ (redact_fields_alike names fields)
  | _ => exact .same _
theorem redact_items_alike (names : List String) (items : List Json) :
    Json.AlikeItems (SensitiveKey names) items (redactItems names items) := by
  cases items with
  | nil => exact .nil
  | cons item rest => exact .cons _ _ _ _ (redact_alike names item) (redact_items_alike names rest)
theorem redact_fields_alike (names : List String) (fields : List (String × Json)) :
    Json.AlikeFields (SensitiveKey names) fields (redactFields names fields) := by
  cases fields with
  | nil => exact .nil
  | cons entry rest =>
      obtain ⟨key, value⟩ := entry
      rw [redactFields]
      split
      · rename_i sensitive
        exact .concealed _ _ _ _ _ ((sensitive_key_iff names key).mpr sensitive) (redact_fields_alike names rest)
      · exact .shown _ _ _ _ _ (redact_alike names value) (redact_fields_alike names rest)
end

mutual
theorem redacted_alike (names : List String) (value other : Json) (same : redact names value = redact names other) :
    value.Alike (SensitiveKey names) other := by
  cases value with
  | arr items =>
      cases other with
      | arr others => exact .arr _ _ (redacted_items_alike names items others (by simpa [redact] using same))
      | _ => simp [redact] at same
  | obj fields =>
      cases other with
      | obj others => exact .obj _ _ (redacted_fields_alike names fields others (by simpa [redact] using same))
      | _ => simp [redact] at same
  | _ =>
      -- A scalar is left as it is, and nothing else becomes one.
      cases other with
      | arr others => simp [redact] at same
      | obj others => simp [redact] at same
      | _ => cases same <;> exact .same _
theorem redacted_items_alike (names : List String) (items others : List Json)
    (same : redactItems names items = redactItems names others) :
    Json.AlikeItems (SensitiveKey names) items others := by
  cases items with
  | nil =>
      cases others with
      | nil => exact .nil
      | cons item rest => simp [redactItems] at same
  | cons item rest =>
      cases others with
      | nil => simp [redactItems] at same
      | cons other more =>
          obtain ⟨head, tail⟩ := List.cons.inj same
          exact .cons _ _ _ _ (redacted_alike names item other head) (redacted_items_alike names rest more tail)
theorem redacted_fields_alike (names : List String) (fields others : List (String × Json))
    (same : redactFields names fields = redactFields names others) :
    Json.AlikeFields (SensitiveKey names) fields others := by
  cases fields with
  | nil =>
      cases others with
      | nil => exact .nil
      | cons entry rest => simp [redactFields] at same
  | cons entry rest =>
      cases others with
      | nil => simp [redactFields] at same
      | cons entry' more =>
          obtain ⟨key, value⟩ := entry
          obtain ⟨key', value'⟩ := entry'
          obtain ⟨head, tail⟩ := List.cons.inj same
          obtain ⟨rfl, values⟩ := Prod.mk.inj head
          have remaining := redacted_fields_alike names rest more tail
          cases sensitive : isSensitive names key with
          | true => exact .concealed _ _ _ _ _ ((sensitive_key_iff names key).mpr sensitive) remaining
          | false => exact .shown _ _ _ _ _ (redacted_alike names value value' (by simpa [sensitive] using values)) remaining
end

end TypedQuery
