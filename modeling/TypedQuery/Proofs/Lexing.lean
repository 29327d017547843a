import TypedQuery.Proofs.Layout

/-!
Which tokens the rules for single tokens take, and before which they fail.
-/

set_option autoImplicit false

namespace TypedQuery

def TypeRef.undoubled : TypeRef → Bool
  | .named _ => true
  | .list element => element.undoubled
  | .nonNull inner => !inner.isNonNull && inner.undoubled

def TypeRef.Proper (type : TypeRef) : Prop := Sdl.isName type.leaf ∧ type.undoubled

instance (type : TypeRef) : Decidable type.Proper :=
  inferInstanceAs (Decidable (_ ∧ _))

namespace Sdl

open Rule

def front : List Token → List Char
  | [] => []
  | token :: _ => token.chars

def lead (tokens : List Token) : Option Char := (front tokens).head?

-- Texts that no longer token begins with: marks and whole names.
def isKeyword (text : List Char) : Bool := text.length = 1 || !text.isEmpty && text.all isNameChar

theorem mark_not_name (c : Char) (marked : isMark c) : isNameChar c = false :=
  each_mark (isNameChar · = false) (by decide) c marked

theorem name_char_in_word (c : Char) (inside : isNameChar c) : isWordChar c := by
  simp [isWordChar, inside]

theorem spelled_lead (tokens : List Token) (text : List Char) (spells : Spells tokens text) :
    (skipFrom false text).head? = lead tokens := by
  cases tokens with
  | nil => rw [spells_end text spells]; rfl
  | cons token more =>
      obtain ⟨rest, start, stands, _⟩ := spells_token token more text spells
      obtain ⟨c, tail, chars⟩ := starts_cons _ (token_starts token rest stands)
      rw [start, lead, front, chars]
      rfl

theorem front_begins (text : List Char) (tokens : List Token) (layout : List Char) (spells : Spells tokens layout)
    (plain : isKeyword text) (begins : text <+: skipFrom false layout) : text <+: front tokens := by
  cases tokens with
  | nil => rwa [spells_end layout spells] at begins
  | cons token more =>
      obtain ⟨rest, start, stands, _⟩ := spells_token token more layout spells
      rw [start] at begins
      rcases Nat.le_total text.length token.chars.length with short | long
      · exact List.prefix_of_prefix_length_le begins (List.prefix_append _ _) short
      · obtain ⟨tail, rfl⟩ := List.prefix_of_prefix_length_le (List.prefix_append _ _) begins long
        cases tail with
        | nil => simp [front]
        | cons c tail =>
            obtain ⟨last, rfl⟩ := (List.prefix_append_right_inj _).mp begins
            have several : (token.chars ++ c :: tail).length ≠ 1 := by
              obtain ⟨first, others, chars⟩ := starts_cons _ (token_starts token _ stands)
              simp [chars]
            have named : ∀ d ∈ token.chars ++ c :: tail, isNameChar d := by
              rw [isKeyword, decide_eq_false several, Bool.false_or, Bool.and_eq_true] at plain
              exact List.all_eq_true.mp plain.2
            cases token with
            | mark d => exact absurd (named d (by simp [Token.chars])) (ne_true_of_eq_false (mark_not_name d stands))
            | word word =>
                have inside := name_char_in_word c (named c (by simp))
                exact absurd inside (ne_true_of_eq_false stands.2)
            | quote body => exact absurd (named '"' (by simp [Token.chars])) (by decide)

theorem start_starts (c : Char) (start : isNameStart c) : isIgnored c = false ∧ c ≠ '#' := by
  constructor
  · rw [Bool.eq_false_iff]
    intro ignored
    simp only [isIgnored, isLineEnd, Bool.or_eq_true, decide_eq_true_eq] at ignored
    rcases ignored with (((rfl | rfl) | rfl) | rfl) | rfl | rfl <;> exact absurd start (by decide)
  · rintro rfl
    exact absurd start (by decide)

theorem name_starts (name : String) (named : isName name) : StartsToken name.toList := by
  obtain ⟨first, rest, text, start⟩ := name_head name named
  rw [text]
  exact start_starts first start

theorem type_starts (type : TypeRef) (named : isName type.leaf) : StartsToken type.chars := by
  induction type with
  | named name => exact name_starts name named
  | list element => exact ⟨by decide, by decide⟩
  | nonNull inner ih =>
      have starts := ih named
      obtain ⟨c, rest, chars⟩ := starts_cons _ starts
      rw [chars] at starts
      rw [TypeRef.chars, chars]
      exact starts

theorem token_run {α : Type} (rule : Rule α) (text : List Char) :
    (token rule).run text = rule.run (skipFrom false text) :=
  rfl

theorem exactly_run (text input : List Char) :
    (exactly text).run input = if text.isPrefixOf input then some ((), input.drop text.length) else none := by
  change StateT.run (if text.isPrefixOf input then set (input.drop text.length) else failure) input = _
  split <;> rfl

theorem keyword_takes (text : String) (token : Token) (more : List Token) (same : token.chars = text.toList) :
    Takes (keyword text) (token :: more) () more := by
  intro layout spells
  obtain ⟨rest, start, _, spelled⟩ := spells_token token more layout spells
  refine ⟨rest, ?_, spelled⟩
  rw [keyword, token_run, start, same, exactly_run, if_pos (List.isPrefixOf_iff_prefix.mpr (List.prefix_append _ _)),
    List.drop_left]

theorem keyword_refuses (text : String) (tokens : List Token) (plain : isKeyword text.toList)
    (apart : ¬ text.toList <+: front tokens) : Refuses (keyword text) tokens := by
  intro layout spells
  rw [keyword, token_run, exactly_run, if_neg]
  intro begins
  exact apart (front_begins _ tokens layout spells plain (List.isPrefixOf_iff_prefix.mp begins))

theorem lead_refuses (text : String) (tokens : List Token) (plain : isKeyword text.toList)
    (apart : lead tokens ≠ text.toList.head?) : Refuses (keyword text) tokens := by
  apply keyword_refuses text tokens plain
  rintro ⟨rest, same⟩
  apply apart
  rw [lead, ← same]
  cases chars : text.toList with
  | nil => rw [chars] at plain; cases plain
  | cons c tail => rfl

theorem char_of_run (within : Char → Bool) (c : Char) (rest : List Char) (inside : within c) :
    (charOf within).run (c :: rest) = some (c, rest) := by
  change StateT.run (if within c then _ else _) _ = _
  rw [if_pos inside]
  rfl

theorem char_of_refused (within : Char → Bool) (text : List Char) (outside : Leaves within text) :
    (charOf within).run text = none := by
  cases text with
  | nil => rfl
  | cons c rest =>
      change StateT.run (if within c then _ else _) _ = _
      rw [if_neg (ne_true_of_eq_false outside)]
      rfl

theorem span_run (within : Char → Bool) (text rest : List Char) (inside : ∀ c ∈ text, within c)
    (ends : Leaves within rest) : (spanOf within).run (text ++ rest) = some (text, rest) := by
  change some ((text ++ rest).takeWhile within, (text ++ rest).dropWhile within) = _
  have behind : rest.takeWhile within = [] ∧ rest.dropWhile within = rest := by
    cases rest with
    | nil => exact ⟨rfl, rfl⟩
    | cons c tail => simp [show within c = false from ends]
  rw [List.takeWhile_append_of_pos inside, List.dropWhile_append_of_pos inside, behind.1, behind.2, List.append_nil]

theorem leaves_weaker (within wider : Char → Bool) (text : List Char) (weaker : ∀ c, within c → wider c)
    (ends : Leaves wider text) : Leaves within text := by
  cases text with
  | nil => trivial
  | cons c rest =>
      rw [Leaves, Bool.eq_false_iff]
      exact fun inside => ne_true_of_eq_false ends (weaker c inside)

theorem name_chars_run (name : String) (rest : List Char) (named : isName name) (ends : Leaves isNameChar rest) :
    nameChars.run (name.toList ++ rest) = some (name.toList, rest) := by
  obtain ⟨first, others, text, start⟩ := name_head name named
  have inside := name_chars name named
  rw [text, List.forall_mem_cons] at inside
  rw [text, nameChars, run_bind, List.cons_append, char_of_run _ _ _ start, Option.bind_some, run_bind,
    span_run _ _ _ inside.2 ends]
  rfl

theorem start_not_number (c : Char) (start : isNameStart c) : c ≠ '-' ∧ c.isDigit = false := by
  rcases Bool.or_eq_true_iff.mp start with letter | underscore
  · constructor
    · rintro rfl
      exact absurd letter (by decide)
    · delta Char.isAlpha Char.isUpper Char.isLower at letter
      delta Char.isDigit
      grind
  · rw [of_decide_eq_true underscore]
    decide

theorem name_chars_refused (text : List Char) (outside : Leaves isNameStart text) : nameChars.run text = none := by
  rw [nameChars, run_bind, char_of_refused _ _ outside]
  rfl

theorem word_leaves_name (word rest : List Char) (stands : (Token.word word).Stands rest) : Leaves isNameChar rest :=
  leaves_weaker _ _ rest name_char_in_word stands.2

theorem lead_leaves (within : Char → Bool) (tokens : List Token) (text : List Char) (spells : Spells tokens text)
    (outside : ∀ c, lead tokens = some c → within c = false) : Leaves within (skipFrom false text) := by
  have same := spelled_lead tokens text spells
  cases start : skipFrom false text with
  | nil => trivial
  | cons c rest =>
      rw [start] at same
      exact outside c same.symm

theorem name_takes (text : String) (more : List Token) (named : isName text) :
    Takes name (.word text.toList :: more) text more := by
  intro layout spells
  obtain ⟨rest, start, stands, spelled⟩ := spells_token _ more layout spells
  refine ⟨rest, ?_, spelled⟩
  rw [name, token_run, start, Token.chars, run_map, name_chars_run text rest named (word_leaves_name _ rest stands)]
  exact congrArg (fun text => some (text, rest)) String.ofList_toList

theorem name_refuses (tokens : List Token) (outside : ∀ c, lead tokens = some c → isNameStart c = false) :
    Refuses name tokens := by
  intro layout spells
  rw [name, token_run, run_map, name_chars_refused _ (lead_leaves _ tokens layout spells outside)]
  rfl

theorem mark_refuses_name (c : Char) (more : List Token) (marked : isMark c) : Refuses name (.mark c :: more) := by
  apply name_refuses
  intro d found
  obtain rfl : c = d := Option.some.inj found
  exact Bool.eq_false_iff.mpr fun start => ne_true_of_eq_false (mark_not_name c marked) (start_in_name c start)

-- Names that can stand for a value. The reader takes the literals for words even within a longer name.
def isChoice (text : String) : Bool :=
  isName text && !(["true", "false", "null"].any fun literal => literal.toList.isPrefixOf text.toList)

theorem enum_value_run (text : List Char) :
    enumValue.run text =
      if ["true", "false", "null"].any fun literal => literal.toList.isPrefixOf (skipFrom false text) then none
      else (nameChars.run (skipFrom false text)).map fun result => (String.ofList result.1, result.2) := by
  rw [enumValue, token_run]
  change StateT.run (if _ then _ else _) _ = _
  split
  · rfl
  · exact run_map nameChars String.ofList _

theorem enum_value_takes (text : String) (more : List Token) (choice : isChoice text) :
    Takes enumValue (.word text.toList :: more) text more := by
  obtain ⟨named, apart⟩ := Bool.and_eq_true_iff.mp choice
  intro layout spells
  obtain ⟨rest, start, stands, spelled⟩ := spells_token _ more layout spells
  refine ⟨rest, ?_, spelled⟩
  have free : ["true", "false", "null"].any (fun literal => literal.toList.isPrefixOf (skipFrom false layout)) = false := by
    rw [Bool.not_eq_true', List.any_eq_false] at apart
    rw [List.any_eq_false]
    intro literal member begins
    have plain : ["true", "false", "null"].all fun literal => isKeyword literal.toList := by decide
    have short := front_begins _ _ layout spells (List.all_eq_true.mp plain literal member)
      (List.isPrefixOf_iff_prefix.mp begins)
    exact apart literal member (List.isPrefixOf_iff_prefix.mpr short)
  rw [enum_value_run, free, start, Token.chars, name_chars_run text rest named (word_leaves_name _ rest stands)]
  exact congrArg (fun text => some (text, rest)) String.ofList_toList

theorem enum_value_refuses (tokens : List Token) (outside : ∀ c, lead tokens = some c → isNameStart c = false) :
    Refuses enumValue tokens := by
  intro layout spells
  rw [enum_value_run, name_chars_refused _ (lead_leaves _ tokens layout spells outside)]
  split <;> rfl

def typeBase (depth : Nat) : Rule TypeRef :=
  (TypeRef.named <$> String.ofList <$> nameChars) <|> (do
    let _ ← char '['
    let element ← typeWithin depth
    let _ ← char ']'
    pure (.list element))

theorem type_within_run (depth : Nat) (text : List Char) :
    (typeWithin (depth + 1)).run text =
      ((typeBase depth).run text).bind fun base =>
        some (((char '!').run base.2).elim base fun bang => (.nonNull base.1, bang.2)) := by
  change (typeBase depth >>= _).run text = _
  rw [run_bind]
  refine congrArg _ (funext fun base => ?_)
  rw [run_bind, run_maybe]
  cases (char '!').run base.2 <;> rfl

theorem type_base_run (depth : Nat) (type : TypeRef) (rest : List Char) (proper : type.Proper)
    (single : type.isNonNull = false) (enough : type.chars.length ≤ depth + 1) (ends : Leaves isNameChar rest)
    (within : ∀ element : TypeRef, ∀ rest, element.Proper → element.chars.length ≤ depth → Leaves isWordChar rest →
      (typeWithin depth).run (element.chars ++ rest) = some (element, rest)) :
    (typeBase depth).run (type.chars ++ rest) = some (type, rest) := by
  cases type with
  | named name =>
      rw [typeBase, run_or, run_map, run_map, TypeRef.chars, name_chars_run name rest proper.1 ends]
      exact congrArg (fun text => some (TypeRef.named text, rest)) String.ofList_toList
  | list element =>
      have inner := within element (']' :: rest) proper (by simp [TypeRef.chars] at enough; omega) (by exact rfl)
      have text : (TypeRef.list element).chars ++ rest = '[' :: (element.chars ++ ']' :: rest) := by simp [TypeRef.chars]
      rw [typeBase, run_or, run_map, run_map, text, name_chars_refused _ (by exact rfl), Option.map_none, Option.map_none,
        Option.none_or, run_bind, char, char_of_run _ _ _ (by decide), Option.bind_some, run_bind, inner, Option.bind_some,
        run_bind, char, char_of_run _ _ _ (by decide)]
      rfl
  | nonNull inner => cases single

theorem type_chars_positive (type : TypeRef) (proper : type.Proper) : 0 < type.chars.length := by
  cases type with
  | named name =>
      obtain ⟨first, rest, text, _⟩ := name_head name proper.1
      simp [TypeRef.chars, text]
  | list element => simp [TypeRef.chars]
  | nonNull inner => simp [TypeRef.chars]

theorem type_run (depth : Nat) (type : TypeRef) (rest : List Char) (proper : type.Proper)
    (enough : type.chars.length ≤ depth) (ends : Leaves isWordChar rest) :
    (typeWithin depth).run (type.chars ++ rest) = some (type, rest) := by
  induction depth generalizing type rest with
  | zero =>
      have some := type_chars_positive type proper
      omega
  | succ depth ih =>
      have base := type_base_run depth
      have plain := leaves_weaker _ _ rest name_char_in_word ends
      have noBang := leaves_weaker (· = '!') _ rest (by intro c bang; simp_all [isWordChar]) ends
      rw [type_within_run]
      cases single : type.isNonNull with
      | false =>
          rw [base type rest proper single enough plain ih, Option.bind_some, char, char_of_refused _ _ noBang]
          rfl
      | true =>
          cases type with
          | named name => cases single
          | list element => cases single
          | nonNull inner =>
              obtain ⟨single, undoubled⟩ := Bool.and_eq_true_iff.mp proper.2
              rw [TypeRef.chars, List.append_assoc, base inner _ ⟨proper.1, undoubled⟩ (by simpa using single)
                (by simp [TypeRef.chars] at enough; omega) (by exact rfl) ih, Option.bind_some, List.singleton_append,
                char, char_of_run _ _ _ (by decide)]
              rfl

theorem type_takes (type : TypeRef) (more : List Token) (proper : type.Proper) :
    Takes typeRef (.word type.chars :: more) type more := by
  intro layout spells
  obtain ⟨rest, start, stands, spelled⟩ := spells_token _ more layout spells
  refine ⟨rest, ?_, spelled⟩
  rw [typeRef, token_run, start]
  exact type_run _ type rest proper (by simp [Token.chars]) stands.2

end Sdl

end TypedQuery
