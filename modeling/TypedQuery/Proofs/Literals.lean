import TypedQuery.Proofs.Lexing

/-!
Strings and numbers as the language writes them. The rules take each of them whole.
-/

set_option autoImplicit false

namespace TypedQuery.Sdl

open Rule

inductive LineTail : List Char → Prop
  | close : LineTail ['"']
  | char (c : Char) (rest : List Char) :
      c ≠ '"' → c ≠ '\\' → isLineEnd c = false → LineTail rest → LineTail (c :: rest)
  | escape (c : Char) (rest : List Char) : isSimpleEscape c → LineTail rest → LineTail ('\\' :: c :: rest)
  | unicode (a b c d : Char) (rest : List Char) : [a, b, c, d].all isHex → isSurrogate a b = false → LineTail rest →
      LineTail ('\\' :: 'u' :: a :: b :: c :: d :: rest)

inductive BlockTail : List Char → Prop
  | close : BlockTail tripleQuote
  | escaped (rest : List Char) : BlockTail rest → BlockTail ('\\' :: (tripleQuote ++ rest))
  | char (c : Char) (rest : List Char) : ¬ tripleQuote <+: c :: rest → ¬ '\\' :: tripleQuote <+: c :: rest →
      BlockTail rest → BlockTail (c :: rest)

inductive StringTail : List Char → Prop
  | line (text : List Char) : LineTail text → StringTail text
  | block (text : List Char) : BlockTail text → StringTail ('"' :: '"' :: text)

theorem line_tail_plain (text : List Char) (plain : ∀ c ∈ text, c ≠ '"' ∧ c ≠ '\\' ∧ isLineEnd c = false) :
    LineTail (text ++ ['"']) := by
  induction text with
  | nil => exact .close
  | cons c rest ih =>
      rw [List.forall_mem_cons] at plain
      obtain ⟨inside, unescaped, single⟩ := plain.1
      exact .char c _ inside unescaped single (ih plain.2)

theorem string_rest_plain (c : Char) (rest : List Char) (inside : c ≠ '"') (plain : c ≠ '\\') :
    stringRest (c :: rest) = if isLineEnd c then none else stringRest rest := by
  rw [stringRest.eq_def]
  split <;> simp_all

theorem string_rest_escape (c : Char) (rest : List Char) (short : c ≠ 'u') :
    stringRest ('\\' :: c :: rest) = if isSimpleEscape c then stringRest rest else none := by
  rw [stringRest.eq_def]
  split <;> grind

theorem line_tail_read (text rest : List Char) (tail : LineTail text) : stringRest (text ++ rest) = some rest := by
  induction tail with
  | close => rfl
  | char c more inside plain single _ ih =>
      rw [List.cons_append, string_rest_plain c _ inside plain, single, if_neg (by decide), ih]
  | escape c more simple _ ih =>
      have short : c ≠ 'u' := by
        rintro rfl
        exact absurd simple (by decide)
      rw [List.cons_append, List.cons_append, string_rest_escape c _ short, if_pos simple, ih]
  | unicode a b c d more hex whole _ ih =>
      simp only [List.all_cons, List.all_nil, Bool.and_true, ← Bool.and_assoc] at hex
      change (if isHex a && isHex b && isHex c && isHex d && !isSurrogate a b then stringRest (more ++ rest) else none) = _
      rw [hex, whole, Bool.not_false, Bool.and_true, if_pos rfl, ih]

theorem block_tail_length (text : List Char) (tail : BlockTail text) : 3 ≤ text.length := by
  induction tail with
  | close => exact Nat.le_refl 3
  | escaped more _ ih => simp [tripleQuote]
  | char c more _ _ _ ih => simp; omega

theorem block_tail_read (text rest : List Char) (tail : BlockTail text) : blockRest (text ++ rest) = some rest := by
  induction tail with
  | close => rfl
  | escaped more _ ih => exact ih
  | char c more unclosed plain tail ih =>
      have long := block_tail_length more tail
      -- The text is long enough to hold any mark that would begin in it.
      have kept (mark : List Char) (short : mark.length ≤ 4) (absent : ¬ mark <+: c :: more) :
          ¬ mark <+: c :: (more ++ rest) := fun begins =>
        absent (List.prefix_of_prefix_length_le begins ⟨rest, rfl⟩ (by simp only [List.length_cons]; omega))
      rw [List.cons_append, blockRest, ih]
      · rintro other rfl same
        exact kept _ (by decide) plain ⟨other, by rw [same]; rfl⟩
      · rintro other rfl same
        exact kept _ (by decide) unclosed ⟨other, by rw [same]; rfl⟩

theorem line_not_block (text rest : List Char) (tail : LineTail text) (ends : Leaves (· = '"') rest) :
    tripleQuote.isPrefixOf ('"' :: (text ++ rest)) = false := by
  cases tail with
  | close =>
      cases rest with
      | nil => rfl
      | cons c more =>
          have apart : c ≠ '"' := of_decide_eq_false ends
          simp [tripleQuote, List.isPrefixOf, Ne.symm apart]
  | char c more inside _ _ _ => simp [tripleQuote, List.isPrefixOf, Ne.symm inside]
  | escape c more _ _ => rfl
  | unicode a b c d more _ _ _ => rfl

theorem ending_run (rest : List Char → Option (List Char)) (text : List Char) :
    (ending rest).run text = (rest text).map ((), ·) := by
  rw [ending, run_bind, show StateT.run get text = some (text, text) from rfl, Option.bind_some]
  dsimp only
  cases rest text <;> rfl

theorem string_run (text : List Char) :
    string.run text =
      ((if tripleQuote.isPrefixOf (skipFrom false text) then blockRest ((skipFrom false text).drop 3) else none).map
        ((), ·)).or (((char '"').run (skipFrom false text)).bind fun mark => (stringRest mark.2).map ((), ·)) := by
  rw [string, token_run, run_or, run_bind, run_bind, exactly_run]
  simp only [ending_run]
  split <;> rfl

theorem string_takes (tail : List Char) (more : List Token) (good : StringTail tail) :
    Takes string (.quote tail :: more) () more := by
  intro layout spells
  obtain ⟨rest, start, stands, spelled⟩ := spells_token _ more layout spells
  refine ⟨rest, ?_, spelled⟩
  rw [string_run, start, Token.chars]
  cases good with
  | line _ line =>
      rw [List.cons_append, line_not_block tail rest line stands, char, char_of_run _ _ _ (by decide), Option.bind_some,
        line_tail_read tail rest line]
      rfl
  | block text block =>
      rw [if_pos (by exact rfl)]
      change ((blockRest (text ++ rest)).map _).or _ = _
      rw [block_tail_read text rest block]
      rfl

theorem string_refuses (tokens : List Token) (outside : lead tokens ≠ some '"') : Refuses string tokens := by
  intro layout spells
  have same := spelled_lead tokens layout spells
  rw [string_run]
  cases start : skipFrom false layout with
  | nil => rfl
  | cons c rest =>
      have apart : c ≠ '"' := by
        rintro rfl
        exact outside (by rw [← same, start]; rfl)
      rw [if_neg (by simp [tripleQuote, Ne.symm apart]), char, char_of_refused _ _ (by simpa [Leaves] using apart)]
      rfl

def AreDigits (text : List Char) : Prop := text ≠ [] ∧ ∀ c ∈ text, c.isDigit

inductive ExponentText : Option (Bool × List Char) → List Char → Prop
  | none : ExponentText none []
  | some (mark : Char) (sign digits : List Char) : mark = 'e' ∨ mark = 'E' → sign ∈ [[], ['+'], ['-']] →
      AreDigits digits → ExponentText (some (sign = ['-'], digits)) (mark :: (sign ++ digits))

inductive NumberText : Json.Decimal → List Char → Prop
  | written (negative : Bool) (whole : List Char) (fraction : Option (List Char)) (exponent : Option (Bool × List Char))
      (text : List Char) : AreDigits whole → (whole.head? = some '0' → whole = ['0']) →
      (∀ digits, fraction = some digits → AreDigits digits) → ExponentText exponent text →
      NumberText ⟨negative, whole, fraction, exponent⟩
        ((if negative then ['-'] else []) ++ (whole ++ (fraction.elim [] ('.' :: ·) ++ text)))

theorem digits_run (digits rest : List Char) (good : AreDigits digits) (ends : Leaves Char.isDigit rest) :
    digits1.run (digits ++ rest) = some (digits, rest) := by
  obtain ⟨nonempty, inside⟩ := good
  cases digits with
  | nil => exact absurd rfl nonempty
  | cons first others =>
      rw [List.forall_mem_cons] at inside
      rw [digits1, run_bind, List.cons_append, char_of_run _ _ _ inside.1, Option.bind_some, run_bind,
        span_run _ _ _ inside.2 ends]
      rfl

theorem digits_refused (text : List Char) (outside : Leaves Char.isDigit text) : digits1.run text = none := by
  rw [digits1, run_bind, char_of_refused _ _ outside]
  rfl

theorem whole_run (digits rest : List Char) (good : AreDigits digits) (single : digits.head? = some '0' → digits = ['0'])
    (ends : Leaves Char.isDigit rest) : wholeDigits.run (digits ++ rest) = some (digits, rest) := by
  rw [wholeDigits, run_or, run_bind]
  cases digits with
  | nil => exact absurd rfl good.1
  | cons first others =>
      rcases Decidable.em (first = '0') with rfl | other
      · rw [single rfl, List.singleton_append, char, char_of_run _ _ _ (by decide)]
        rfl
      · rw [List.cons_append, char, char_of_refused _ _ (by simpa [Leaves] using other)]
        exact digits_run (first :: others) rest good ends

theorem whole_refused (text : List Char) (outside : Leaves Char.isDigit text) : wholeDigits.run text = none := by
  have zero := leaves_weaker (· = '0') _ text (by rintro c same; simp_all) outside
  rw [wholeDigits, run_or, run_bind, char, char_of_refused _ _ zero, digits_refused text outside]
  rfl

theorem fraction_run (fraction : Option (List Char)) (rest : List Char)
    (good : ∀ digits, fraction = some digits → AreDigits digits) (ends : Leaves Char.isDigit rest)
    (point : Leaves (· = '.') rest) :
    (maybe fractionDigits).run (fraction.elim [] ('.' :: ·) ++ rest) = some (fraction, rest) := by
  rw [run_maybe, fractionDigits, run_bind]
  cases fraction with
  | none => rw [Option.elim_none, List.nil_append, char, char_of_refused _ _ point]; rfl
  | some digits =>
      rw [Option.elim_some, List.cons_append, char, char_of_run _ _ _ (by decide), Option.bind_some,
        digits_run digits rest (good digits rfl) ends]
      rfl

theorem digits_start (digits rest : List Char) (good : AreDigits digits) (within : Char → Bool)
    (outside : ∀ c, within c → c.isDigit = false) : Leaves within (digits ++ rest) := by
  cases digits with
  | nil => exact absurd rfl good.1
  | cons first others =>
      rw [List.cons_append, Leaves, Bool.eq_false_iff]
      exact fun inside => ne_true_of_eq_false (outside first inside) (good.2 first List.mem_cons_self)

theorem minus_run (negative : Bool) (digits rest : List Char) (good : AreDigits digits) :
    (maybe (char '-')).run ((if negative then ['-'] else []) ++ (digits ++ rest)) =
      some (if negative then some '-' else none, digits ++ rest) := by
  rw [run_maybe, char]
  cases negative with
  | false =>
      have plain := digits_start digits rest good (· = '-') (by rintro c same; simp_all)
      rw [if_neg (by decide), List.nil_append, char_of_refused _ _ plain]
      rfl
  | true =>
      rw [if_pos rfl, List.singleton_append, char_of_run _ _ _ (by decide)]
      rfl

theorem sign_run (sign digits rest : List Char) (signed : sign ∈ [[], ['+'], ['-']]) (good : AreDigits digits) :
    (maybe (charOf fun c => c = '+' || c = '-')).run (sign ++ (digits ++ rest)) = some (sign.head?, digits ++ rest) := by
  rw [run_maybe]
  simp only [List.mem_cons, List.not_mem_nil, or_false] at signed
  rcases signed with rfl | rfl | rfl
  · have plain := digits_start digits rest good (fun c => c = '+' || c = '-') (by
      intro c sign
      simp only [Bool.or_eq_true, decide_eq_true_eq] at sign
      rcases sign with rfl | rfl <;> rfl)
    rw [List.nil_append, char_of_refused _ _ plain]
    rfl
  · rw [List.singleton_append, char_of_run _ _ _ (by decide)]
    rfl
  · rw [List.singleton_append, char_of_run _ _ _ (by decide)]
    rfl

theorem exponent_run (exponent : Option (Bool × List Char)) (text rest : List Char) (good : ExponentText exponent text)
    (ends : Leaves isNameChar rest) : (maybe exponentDigits).run (text ++ rest) = some (exponent, rest) := by
  rw [run_maybe, exponentDigits, run_bind]
  cases good with
  | none =>
      have noMark := leaves_weaker (fun c => c = 'e' || c = 'E') _ rest (by
        intro c mark
        simp only [Bool.or_eq_true, decide_eq_true_eq] at mark
        rcases mark with rfl | rfl <;> rfl) ends
      rw [List.nil_append, char_of_refused _ _ noMark]
      rfl
  | some mark sign digits marked signed good =>
      have noDigit := leaves_weaker Char.isDigit _ rest (by intro c digit; simp [isNameChar, Char.isAlphanum, digit]) ends
      have same : decide (sign.head? = some '-') = decide (sign = ['-']) := by
        simp only [List.mem_cons, List.not_mem_nil, or_false] at signed
        rcases signed with rfl | rfl | rfl <;> rfl
      rw [List.cons_append, char_of_run _ _ _ (by simpa using marked), Option.bind_some, run_bind, List.append_assoc,
        sign_run sign digits rest signed good, Option.bind_some, run_bind, digits_run digits rest good noDigit, ← same]
      rfl

theorem exponent_leaves (exponent : Option (Bool × List Char)) (text rest : List Char) (good : ExponentText exponent text)
    (within : Char → Bool) (small : within 'e' = false) (capital : within 'E' = false) (ends : Leaves within rest) :
    Leaves within (text ++ rest) := by
  cases good with
  | none => exact ends
  | some mark sign digits marked _ _ =>
      rcases marked with rfl | rfl
      · exact small
      · exact capital

theorem number_takes (written : Json.Decimal) (text : List Char) (more : List Token) (good : NumberText written text) :
    Takes number (.word text :: more) written more := by
  intro layout spells
  obtain ⟨rest, start, stands, spelled⟩ := spells_token _ more layout spells
  refine ⟨rest, ?_, spelled⟩
  have noName := leaves_weaker _ _ rest name_char_in_word stands.2
  have noDigit := leaves_weaker Char.isDigit _ rest (by intro c digit; simp [isNameChar, Char.isAlphanum, digit]) noName
  have noPoint := leaves_weaker (· = '.') _ rest (by intro c point; simp_all [isWordChar]) stands.2
  have noStart : (notNext isNameStart).run rest = some ((), rest) := by
    cases rest with
    | nil => rfl
    | cons c tail =>
        change StateT.run (if isNameStart c then failure else pure ()) _ = _
        rw [if_neg (ne_true_of_eq_false (leaves_weaker _ _ (c :: tail) start_in_name noName))]
        rfl
  obtain ⟨negative, whole, fraction, exponent, text, digits, single, decimals, power⟩ := good
  have behindWhole : Leaves Char.isDigit (fraction.elim [] ('.' :: ·) ++ (text ++ rest)) := by
    cases fraction with
    | none => exact exponent_leaves exponent text rest power _ rfl rfl noDigit
    | some decimals => exact (by decide : Char.isDigit '.' = false)
  rw [number, token_run, start, Token.chars, run_bind]
  simp only [List.append_assoc]
  rw [minus_run negative whole _ digits, Option.bind_some, run_bind,
    whole_run whole _ digits single behindWhole, Option.bind_some, run_bind,
    fraction_run fraction _ decimals (exponent_leaves exponent text rest power _ rfl rfl noDigit)
      (exponent_leaves exponent text rest power _ rfl rfl noPoint), Option.bind_some, run_bind,
    exponent_run exponent text rest power noName, Option.bind_some, run_bind, noStart]
  cases negative <;> rfl

theorem number_refuses (tokens : List Token) (outside : ∀ c, lead tokens = some c → c ≠ '-' ∧ c.isDigit = false) :
    Refuses number tokens := by
  intro layout spells
  have plain := lead_leaves (· = '-') tokens layout spells fun c start => decide_eq_false (outside c start).1
  have noDigit := lead_leaves Char.isDigit tokens layout spells fun c start => (outside c start).2
  rw [number, token_run, run_bind, run_maybe, char, char_of_refused _ _ plain, Option.elim_none, Option.bind_some, run_bind,
    whole_refused _ noDigit]
  rfl

end TypedQuery.Sdl
