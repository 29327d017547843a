import TypedQuery.Proofs.Naming
import TypedQuery.Redaction

/-!
What redaction keeps out of sight. The value under a key that contains a listed name is replaced
wherever it stands, by itself or with a value around it, and has no influence on the result. Which
raw names of fields lead to such keys depends on their naming.
-/

set_option autoImplicit false

namespace TypedQuery

inductive Json.Step where
  | item (index : Nat)
  | member (key : String)
deriving DecidableEq, Repr

def Json.at? : List Step → Json → Option Json
  | [], value => some value
  | .item index :: rest, .arr items => items[index]?.bind (at? rest)
  | .member key :: rest, .obj fields => (List.lookup key fields).bind (at? rest)
  | _ :: _, _ => none

mutual
def Json.blank (hidden : String → Bool) : Json → Json
  | .arr items => .arr (blankItems hidden items)
  | .obj fields => .obj (blankFields hidden fields)
  | other => other
def Json.blankItems (hidden : String → Bool) : List Json → List Json
  | [] => []
  | item :: rest => item.blank hidden :: blankItems hidden rest
def Json.blankFields (hidden : String → Bool) : List (String × Json) → List (String × Json)
  | [] => []
  | (key, value) :: rest => (key, if hidden key then .null else value.blank hidden) :: blankFields hidden rest
end

def Text.Mentions (text name : String) : Prop := (lower name).toList <:+: (lower text).toList

-- What stands under a key, at the end of any path, is replaced in the result, by itself or with a value
-- around it; and the result is the same whatever stands there.
structure Conceals (names : List String) (key : String) : Prop where
  replaced : ∀ (value : Json) (path : List Json.Step) (stored : Json),
    value.at? (path ++ [.member key]) = some stored →
    ∃ outer name inner, path ++ [.member key] = outer ++ .member name :: inner ∧
      (redact names value).at? (outer ++ [.member name]) = some (.str redactedText)
  unseen : ∀ value other : Json, value.blank (· = key) = other.blank (· = key) →
    redact names value = redact names other

theorem contains_text_iff (part text : List Char) : containsText part text ↔ part <:+: text := by
  induction text with
  | nil => simp [containsText]
  | cons c rest ih => rw [containsText, Bool.or_eq_true, List.isPrefixOf_iff_prefix, ih, List.infix_cons_iff]

instance (text name : String) : Decidable (Text.Mentions text name) :=
  decidable_of_iff _ (contains_text_iff (Text.lower name).toList (Text.lower text).toList)

theorem sensitive_iff (names : List String) (key : String) :
    isSensitive names key ↔ ∃ name ∈ names, Text.Mentions key name := by
  simp only [isSensitive, List.any_eq_true, contains_text_iff, Text.Mentions]

theorem redact_items (names : List String) (items : List Json) :
    redactItems names items = items.map (redact names) := by
  induction items with
  | nil => rfl
  | cons item rest ih => rw [redactItems, ih, List.map_cons]

theorem redact_lookup (names : List String) (key : String) (fields : List (String × Json)) :
    List.lookup key (redactFields names fields) =
      (List.lookup key fields).map fun value =>
        if isSensitive names key then .str redactedText else redact names value := by
  induction fields with
  | nil => rfl
  | cons entry rest ih =>
      obtain ⟨name, value⟩ := entry
      rw [redactFields, List.lookup_cons, List.lookup_cons, ih]
      by_cases same : key = name
      · subst same
        simp
      · have different : (key == name) = false := by simpa using same
        simp [different]

theorem redacted_above (names : List String) (key : String) (sensitive : isSensitive names key) (value : Json)
    (path : List Json.Step) (stored : Json) (found : value.at? path = some stored) (member : .member key ∈ path) :
    ∃ outer name inner, path = outer ++ .member name :: inner ∧
      (redact names value).at? (outer ++ [.member name]) = some (.str redactedText) := by
  induction path generalizing value with
  | nil => simp at member
  | cons step rest ih =>
      cases step with
      | item index =>
          cases value with
          | arr items =>
              obtain ⟨item, there, below⟩ := Option.bind_eq_some_iff.mp found
              obtain ⟨outer, name, inner, same, mark⟩ := ih item below (by simpa using member)
              refine ⟨.item index :: outer, name, inner, by rw [same, List.cons_append], ?_⟩
              rw [redact, redact_items, List.cons_append, Json.at?, List.getElem?_map, there]
              exact mark
          | _ => simp [Json.at?] at found
      | member name =>
          cases value with
          | obj fields =>
              obtain ⟨inside, there, below⟩ := Option.bind_eq_some_iff.mp found
              cases concealed : isSensitive names name with
              | true =>
                  refine ⟨[], name, rest, rfl, ?_⟩
                  rw [redact, List.nil_append, Json.at?, redact_lookup, there]
                  simp [concealed, Json.at?]
              | false =>
                  have further : .member key ∈ rest := by
                    rcases List.mem_cons.mp member with same | further
                    · cases same
                      simp [concealed] at sensitive
                    · exact further
                  obtain ⟨outer, above, inner, same, mark⟩ := ih inside below further
                  refine ⟨.member name :: outer, above, inner, by rw [same, List.cons_append], ?_⟩
                  rw [redact, List.cons_append, Json.at?, redact_lookup, there]
                  simpa [concealed] using mark
          | _ => simp [Json.at?] at found

mutual
theorem redact_blank (names : List String) (hidden : String → Bool)
    (covered : ∀ key, hidden key → isSensitive names key) (value : Json) :
    redact names (value.blank hidden) = redact names value := by
  cases value with
  | arr items => rw [Json.blank, redact, redact, redact_blank_items names hidden covered items]
  | obj fields => rw [Json.blank, redact, redact, redact_blank_fields names hidden covered fields]
  | _ => rfl
theorem redact_blank_items (names : List String) (hidden : String → Bool)
    (covered : ∀ key, hidden key → isSensitive names key) (items : List Json) :
    redactItems names (Json.blankItems hidden items) = redactItems names items := by
  cases items with
  | nil => rfl
  | cons item rest =>
      rw [Json.blankItems, redactItems, redactItems, redact_blank names hidden covered item,
        redact_blank_items names hidden covered rest]
theorem redact_blank_fields (names : List String) (hidden : String → Bool)
    (covered : ∀ key, hidden key → isSensitive names key) (fields : List (String × Json)) :
    redactFields names (Json.blankFields hidden fields) = redactFields names fields := by
  cases fields with
  | nil => rfl
  | cons entry rest =>
      obtain ⟨key, value⟩ := entry
      rw [Json.blankFields, redactFields, redactFields, redact_blank_fields names hidden covered rest]
      cases concealed : hidden key with
      | false => simp [redact_blank names hidden covered value]
      | true => simp [covered key concealed]
end

theorem sensitive_concealed (names : List String) (key : String) (sensitive : isSensitive names key) :
    Conceals names key where
  replaced value path stored found :=
    redacted_above names key sensitive value _ stored found (List.mem_append_right _ List.mem_cons_self)
  unseen value other same := by
    have covered : ∀ other, decide (other = key) → isSensitive names other := by
      intro other same
      rwa [of_decide_eq_true same]
    rw [← redact_blank names (· = key) covered value, same, redact_blank names (· = key) covered other]

theorem harmless_exposed (names : List String) (key : String) (harmless : isSensitive names key = false) :
    ¬ Conceals names key := by
  intro concealed
  have same := concealed.unseen (.obj [(key, .str "k-1")]) (.obj [(key, .str "k-2")])
    (by simp [Json.blank, Json.blankFields])
  simp [redact, redactFields, harmless] at same

theorem camel_mentions (raw name : String) (mentioned : Text.Mentions raw name)
    (whole : '_' ∉ (Text.lower name).toList) (steady : ∀ c ∈ raw.toList, Text.Steady c) :
    Text.Mentions (Naming.lowerCamelCase.apply raw) name := by
  have kept : (Text.lower name).toList.filter (· ≠ '_') = (Text.lower name).toList := by
    rw [List.filter_eq_self]
    intro c member
    rw [decide_eq_true_eq]
    rintro rfl
    exact whole member
  rw [Text.Mentions, lowered_camel raw steady, ← kept]
  exact mentioned.filter _

theorem conceals_iff (names : List String) (key : String) :
    Conceals names key ↔ ∃ name ∈ names, Text.Mentions key name := by
  rw [← sensitive_iff]
  cases sensitive : isSensitive names key with
  | true => exact iff_of_true (sensitive_concealed names key sensitive) rfl
  | false => exact iff_of_false (harmless_exposed names key sensitive) Bool.false_ne_true

theorem wire_name_concealed (names : List String) (naming : Naming) (raw : String) :
    (Conceals names (naming.apply raw) ↔ ∃ name ∈ names, Text.Mentions (naming.apply raw) name) ∧
      ∀ name ∈ names, Text.Mentions raw name →
        (naming = .identity ∨ ('_' ∉ (Text.lower name).toList ∧ ∀ c ∈ raw.toList, Text.Steady c)) →
        Conceals names (naming.apply raw) := by
  refine ⟨conceals_iff names _, ?_⟩
  intro name listed mentioned kept
  refine (conceals_iff names _).mpr ⟨name, listed, ?_⟩
  cases naming with
  | identity => exact mentioned
  | lowerCamelCase =>
      rcases kept with other | ⟨whole, steady⟩
      · cases other
      · exact camel_mentions raw name mentioned whole steady

def secretVariables (secret : Json) : Json :=
  .obj [("inputs", .arr [.obj [("id", .int 1), ("clientSecret", secret)]])]

theorem client_secret_concealed :
    "secret" ∈ defaultRedacted ∧ Text.Mentions "client_secret" "secret" ∧ '_' ∉ (Text.lower "secret").toList ∧
      (∀ c ∈ "client_secret".toList, Text.Steady c) ∧ Naming.lowerCamelCase.apply "client_secret" = "clientSecret" ∧
      (∀ secret other,
        redact defaultRedacted (secretVariables secret) = redact defaultRedacted (secretVariables other)) ∧
      Text.Mentions (Naming.lowerCamelCase.apply "api_key") "apikey" ∧
      Conceals ["apikey"] (Naming.lowerCamelCase.apply "api_key") := by
  have mentioned : Text.Mentions "client_secret" "secret" := by decide +kernel
  have whole : '_' ∉ (Text.lower "secret").toList := by decide +kernel
  have ascii : "client_secret".toList.all (·.toNat < 128) := by decide +kernel
  have steady : ∀ c ∈ "client_secret".toList, Text.Steady c :=
    fun c member => ascii_steady c (by simpa using List.all_eq_true.mp ascii c member)
  have key : Naming.lowerCamelCase.apply "client_secret" = "clientSecret" := by decide +kernel
  have shorter : Text.Mentions (Naming.lowerCamelCase.apply "api_key") "apikey" := by decide +kernel
  obtain ⟨_, concealed⟩ := wire_name_concealed defaultRedacted .lowerCamelCase "client_secret"
  have secret := concealed "secret" (by decide) mentioned (.inr ⟨whole, steady⟩)
  rw [key] at secret
  refine ⟨by decide, mentioned, whole, steady, key, fun first second => secret.unseen _ _ rfl, shorter, ?_⟩
  obtain ⟨exactly, _⟩ := wire_name_concealed ["apikey"] .lowerCamelCase "api_key"
  exact exactly.mpr ⟨"apikey", List.mem_singleton_self _, shorter⟩

theorem dropped_underscore_exposes :
    "api_key" ∈ defaultRedacted ∧ Text.Mentions "api_key" "api_key" ∧
      Naming.lowerCamelCase.apply "api_key" = "apiKey" ∧
      redact defaultRedacted (.obj [("input", .obj [("apiKey", .str "k-1")])]) =
        .obj [("input", .obj [("apiKey", .str "k-1")])] ∧
      ¬ Conceals defaultRedacted (Naming.lowerCamelCase.apply "api_key") ∧
      Text.Mentions "a_ß" "ß" ∧ Naming.lowerCamelCase.apply "a_ß" = "aSS" ∧
      ¬ Conceals ["ß"] (Naming.lowerCamelCase.apply "a_ß") := by
  have key : Naming.lowerCamelCase.apply "api_key" = "apiKey" := by decide +kernel
  have capital : Naming.lowerCamelCase.apply "a_ß" = "aSS" := by decide +kernel
  have around : isSensitive defaultRedacted "input" = false := by decide +kernel
  have harmless : isSensitive defaultRedacted "apiKey" = false := by decide +kernel
  refine ⟨by decide, by decide +kernel, key, ?_, ?_, by decide +kernel, capital, ?_⟩
  · simp [redact, redactFields, around, harmless]
  · rw [key]
    exact harmless_exposed defaultRedacted "apiKey" harmless
  · rw [capital]
    exact harmless_exposed ["ß"] "aSS" (by decide +kernel)

end TypedQuery
