import Mathlib.Algebra.Group.Int.Defs
import Mathlib.Algebra.Group.Nat.Defs
import TypedQuery.Json.Printer
import TypedQuery.Proofs.Rendering

/-!
The tokens of a value, and texts that are laid out of them. Both forms in which a value is written are
layouts of its tokens, and the tokens of a layout are found again whatever blanks stand between them.
-/

set_option autoImplicit false

namespace TypedQuery.Json

mutual
def written : Json → List Token
  | .null => [.literal .null]
  | .bool value => [.literal (.bool value)]
  | .int n => [.number (.ok (.int n))]
  | .double x => [.number (.ok (.double x))]
  | .str text => [.text (.ok text)]
  | .arr items => .openArr :: (writtenItems items ++ [.closeArr])
  | .obj fields => .openObj :: (writtenFields fields ++ [.closeObj])
def writtenItems : List Json → List Token
  | [] => []
  | [item] => item.written
  | item :: rest => item.written ++ .comma :: writtenItems rest
def writtenFields : List (String × Json) → List Token
  | [] => []
  | [(key, value)] => .text (.ok key) :: .colon :: value.written
  | (key, value) :: rest => .text (.ok key) :: .colon :: (value.written ++ .comma :: writtenFields rest)
end

def minusZero : Double := Double.ofRatio true 0 1

mutual
-- Every number is an integer of 64 bits, with or without a sign, or what the integer -0 is read as.
def Whole : Json → Prop
  | .int n => -2 ^ 63 ≤ n ∧ n < 2 ^ 64
  | .double x => x = minusZero
  | .arr items => WholeItems items
  | .obj fields => WholeFields fields
  | .null | .bool _ | .str _ => True
def WholeItems : List Json → Prop
  | [] => True
  | item :: rest => item.Whole ∧ WholeItems rest
def WholeFields : List (String × Json) → Prop
  | [] => True
  | (_, value) :: rest => value.Whole ∧ WholeFields rest
end

mutual
def decideWhole : (value : Json) → Decidable value.Whole
  | .int _ => inferInstanceAs (Decidable (_ ∧ _))
  | .double _ => inferInstanceAs (Decidable (_ = _))
  | .arr items => decideWholeItems items
  | .obj fields => decideWholeFields fields
  | .null | .bool _ | .str _ => .isTrue trivial
def decideWholeItems : (items : List Json) → Decidable (WholeItems items)
  | [] => .isTrue trivial
  | item :: rest =>
      have := decideWhole item
      have := decideWholeItems rest
      inferInstanceAs (Decidable (_ ∧ _))
def decideWholeFields : (fields : List (String × Json)) → Decidable (WholeFields fields)
  | [] => .isTrue trivial
  | (_, value) :: rest =>
      have := decideWhole value
      have := decideWholeFields rest
      inferInstanceAs (Decidable (_ ∧ _))
end

instance (value : Json) : Decidable value.Whole := decideWhole value

def inNumber (c : Char) : Bool := isDigit (some c) || c = '.' || c = 'e' || c = 'E'

def Scans (text : List Char) (token : Token) (rest : List Char) : Prop :=
  ∃ first tail, text = first :: tail ∧ isSpace first = false ∧
    scanToken (some first) ((tail ++ rest).map some) = (token, rest.map some)

def Blank (gap : List Char) : Prop := ∀ c ∈ gap, isSpace c

inductive Layout : List Token → List Char → Prop
  | blank (gap : List Char) : Blank gap → Layout [] gap
  | token (gap text rest : List Char) (token : Token) (more : List Token) :
      Blank gap → Scans text token rest → Layout more rest → Layout (token :: more) (gap ++ (text ++ rest))

theorem blank_skipped (gap rest : List Char) (blank : Blank gap) :
    ((gap ++ rest).map some).dropWhile (fun c => c.any isSpace) = (rest.map some).dropWhile (fun c => c.any isSpace) := by
  rw [List.map_append, List.dropWhile_append_of_pos]
  intro c member
  obtain ⟨d, inside, rfl⟩ := List.mem_map.mp member
  exact blank d inside

theorem layout_length (tokens : List Token) (text : List Char) (layout : Layout tokens text) :
    tokens.length ≤ text.length := by
  induction layout with
  | blank => exact Nat.zero_le _
  | token gap text rest token more _ scans _ ih =>
      obtain ⟨first, tail, rfl, _⟩ := scans
      simp only [List.length_cons, List.length_append]
      omega

theorem layout_tokens_within (found : List Token) (text : List Char) (layout : Layout found text) (limit : Nat)
    (enough : found.length ≤ limit) : tokensWithin limit (text.map some) = found := by
  induction layout generalizing limit with
  | blank gap blank =>
      cases limit with
      | zero => rfl
      | succ limit =>
          have skipped := blank_skipped gap [] blank
          rw [List.append_nil] at skipped
          rw [tokensWithin, skipped]
          rfl
  | token gap text rest token more blank scans _ ih =>
      obtain ⟨first, tail, rfl, visible, scanned⟩ := scans
      cases limit with
      | zero => exact absurd enough (Nat.not_succ_le_zero _)
      | succ limit =>
          have stops : ((first :: (tail ++ rest)).map some).dropWhile (fun c => c.any isSpace) =
              some first :: (tail ++ rest).map some :=
            List.dropWhile_cons_of_neg (by simp [visible])
          rw [tokensWithin, blank_skipped gap _ blank, List.cons_append, stops]
          dsimp only
          rw [scanned]
          dsimp only
          rw [ih limit (Nat.le_of_succ_le_succ enough)]

theorem layout_tokens (found : List Token) (text : String) (layout : Layout found text.toList) :
    tokens (sourceOf text) = found := by
  rw [tokens, sourceOf, List.length_map]
  exact layout_tokens_within found text.toList layout _ (layout_length found text.toList layout)

theorem layout_gap (gap text : List Char) (found : List Token) (blank : Blank gap) (layout : Layout found text) :
    Layout found (gap ++ text) := by
  cases layout with
  | blank inner inside => exact .blank _ fun c member => (List.mem_append.mp member).elim (blank c) (inside c)
  | token inner text rest token more inside scans layout =>
      rw [← List.append_assoc]
      exact .token _ text rest token more (fun c member => (List.mem_append.mp member).elim (blank c) (inside c)) scans layout

theorem layout_cons (text rest : List Char) (token : Token) (more : List Token) (scans : Scans text token rest)
    (layout : Layout more rest) : Layout (token :: more) (text ++ rest) :=
  .token [] text rest token more nofun scans layout

theorem new_line_blank (depth : Nat) : Blank (newLine depth) := by
  intro c member
  rcases List.mem_cons.mp member with rfl | space
  · rfl
  · rw [List.eq_of_mem_replicate space]
    rfl

theorem space_blank : Blank [' '] := by
  intro c member
  rw [List.mem_singleton.mp member]
  rfl

theorem mark_scans (c : Char) (token : Token) (rest : List Char) (visible : isSpace c = false)
    (scanned : ∀ source, scanToken (some c) source = (token, source)) : Scans [c] token rest :=
  ⟨c, [], rfl, visible, scanned _⟩

theorem literal_scanned (value : Json) (expected rest : List Char) :
    scanLiteral value expected ((expected ++ rest).map some) = (.literal value, rest.map some) := by
  induction expected with
  | nil => cases rest <;> rfl
  | cons c more ih =>
      rw [List.cons_append, List.map_cons, scanLiteral, if_pos rfl]
      exact ih

theorem null_scans (rest : List Char) : Scans ['n', 'u', 'l', 'l'] (.literal .null) rest :=
  ⟨'n', ['u', 'l', 'l'], rfl, rfl, literal_scanned .null ['u', 'l', 'l'] rest⟩

theorem bool_scans (value : Bool) (rest : List Char) : Scans (compactChars (.bool value)) (.literal (.bool value)) rest := by
  cases value with
  | true => exact ⟨'t', ['r', 'u', 'e'], rfl, rfl, literal_scanned (.bool true) ['r', 'u', 'e'] rest⟩
  | false => exact ⟨'f', ['a', 'l', 's', 'e'], rfl, rfl, literal_scanned (.bool false) ['a', 'l', 's', 'e'] rest⟩

section Strings

theorem hex_digit_value : ∀ n < 16, hexValue? (hexDigit n) = some n := by decide

def readSoFar (before : List Char) : Scan := ⟨.ok (before.map some), .plain⟩

theorem scan_next (scan next : Scan) (c : Option Char) (rest : Source) (step : scan.step c rest = .inl next) :
    scanText scan (c :: rest) = scanText next rest := by
  rw [scanText, step]

theorem plain_step (content : Content) (c : Char) (inside : c ≠ '"') (plain : c ≠ '\\') (shown : 0x20 ≤ c.toNat) :
    Scan.plainStep content (some c) = .inl ⟨content.push (some c), .plain⟩ := by
  unfold Scan.plainStep
  split
  · rename_i same
    exact absurd (Option.some.inj same) inside
  · rename_i same
    exact absurd (Option.some.inj same) plain
  · rename_i same
    obtain rfl := Option.some.inj same
    exact if_neg (by omega)
  · rename_i same
    exact nomatch same

theorem plain_scanned (c : Char) (before : List Char) (rest : Source) (inside : c ≠ '"') (plain : c ≠ '\\')
    (shown : 0x20 ≤ c.toNat) : scanText (readSoFar before) (some c :: rest) = scanText (readSoFar (c :: before)) rest :=
  scan_next _ _ _ _ (plain_step _ c inside plain shown)

theorem escape_scanned (c plain : Char) (before : List Char) (rest : Source) (simple : simpleEscape? c = some plain)
    (short : c ≠ 'u') :
    scanText (readSoFar before) (some '\\' :: some c :: rest) = scanText (readSoFar (plain :: before)) rest := by
  rw [scan_next _ ⟨.ok (before.map some), .escape none⟩ _ _ rfl]
  refine scan_next _ _ _ _ ?_
  rw [Scan.step]
  dsimp only
  rw [if_neg (by simpa using short), Option.bind_some, simple]
  rfl

theorem unit_step (content : Content) (count value digit : Nat) (c : Char) (rest : Source) (hex : hexValue? c = some digit) :
    Scan.step ⟨content, .unit none count value⟩ (some c) rest =
      .inl (if count = 3 then Scan.endUnit content (value * 16 + digit) none
        else ⟨content, .unit none (count + 1) (value * 16 + digit)⟩) := by
  rw [Scan.step]
  dsimp only
  rw [Option.bind_some, hex]

theorem control_scanned (c : Char) (before : List Char) (rest : Source) (control : c.toNat < 0x20) :
    scanText (readSoFar before)
        (some '\\' :: some 'u' :: some '0' :: some '0' :: some (hexDigit (c.toNat / 16)) :: some (hexDigit (c.toNat % 16)) ::
          rest) =
      scanText (readSoFar (c :: before)) rest := by
  have zero : hexValue? '0' = some 0 := rfl
  have high := hex_digit_value (c.toNat / 16) (by omega)
  have low := hex_digit_value (c.toNat % 16) (by omega)
  have value : (((0 * 16 + 0) * 16 + 0) * 16 + c.toNat / 16) * 16 + c.toNat % 16 = c.toNat := by omega
  rw [scan_next _ ⟨.ok (before.map some), .escape none⟩ _ _ rfl, scan_next _ ⟨.ok (before.map some), .unit none 0 0⟩ _ _ rfl,
    scan_next _ _ _ _ (unit_step _ _ _ _ _ _ zero), if_neg (by decide),
    scan_next _ _ _ _ (unit_step _ _ _ _ _ _ zero), if_neg (by decide),
    scan_next _ _ _ _ (unit_step _ _ _ _ _ _ high), if_neg (by decide),
    scan_next _ _ _ _ (unit_step _ _ _ _ _ _ low), if_pos rfl, value, Scan.endUnit]
  have single : isLow c.toNat = false ∧ isHigh c.toNat = false := by
    simp only [isLow, isHigh, Bool.and_eq_false_iff, decide_eq_false_iff_not]
    omega
  rw [single.1, single.2, Char.ofNat_toNat]
  rfl

theorem escaped_scanned (c : Char) (before : List Char) (rest : List Char) :
    scanText (readSoFar before) ((escapeChar c ++ rest).map some) = scanText (readSoFar (c :: before)) (rest.map some) := by
  have short (mark plain : Char) (simple : simpleEscape? mark = some plain) (apart : mark ≠ 'u') :=
    escape_scanned mark plain before (rest.map some) simple apart
  unfold escapeChar
  by_cases quote : c = '"'
  · subst quote
    exact short '"' '"' rfl (by decide)
  by_cases slash : c = '\\'
  · subst slash
    exact short '\\' '\\' rfl (by decide)
  by_cases line : c = '\n'
  · subst line
    exact short 'n' '\n' rfl (by decide)
  by_cases back : c = '\r'
  · subst back
    exact short 'r' '\r' rfl (by decide)
  by_cases tab : c = '\t'
  · subst tab
    exact short 't' '\t' rfl (by decide)
  by_cases left : c = '\x08'
  · subst left
    exact short 'b' '\x08' rfl (by decide)
  by_cases page : c = '\x0c'
  · subst page
    exact short 'f' '\x0c' rfl (by decide)
  rw [if_neg quote, if_neg slash, if_neg line, if_neg back, if_neg tab, if_neg left, if_neg page]
  by_cases control : c.toNat < 0x20
  · rw [if_pos control]
    exact control_scanned c before (rest.map some) control
  · rw [if_neg control]
    exact plain_scanned c before (rest.map some) quote slash (by omega)

theorem finish_whole (before : List Char) :
    Content.finish (.ok (before.map some)) = .ok (String.ofList before.reverse) := by
  have each : (before.reverse.map some).mapM id = some before.reverse := by
    induction before.reverse with
    | nil => rfl
    | cons c rest ih => rw [List.map_cons, List.mapM_cons, ih]; rfl
  rw [Content.finish, ← List.map_reverse, each]

theorem content_scanned (chars before rest : List Char) :
    scanText (readSoFar before) ((chars.flatMap escapeChar ++ '"' :: rest).map some) =
      (.text (.ok (String.ofList (before.reverse ++ chars))), rest.map some) := by
  induction chars generalizing before with
  | nil =>
      rw [List.append_nil, ← finish_whole]
      rfl
  | cons c more ih =>
      rw [List.flatMap_cons, List.append_assoc, escaped_scanned, ih, List.reverse_cons, List.append_assoc,
        List.singleton_append]

theorem quote_scans (text : String) (rest : List Char) : Scans (quote text) (.text (.ok text)) rest := by
  refine ⟨'"', text.toList.flatMap escapeChar ++ ['"'], rfl, rfl, ?_⟩
  have scanned := content_scanned text.toList [] rest
  rw [List.reverse_nil, List.nil_append, String.ofList_toList] at scanned
  rw [List.append_assoc]
  exact scanned

end Strings

section Numbers

theorem digit_char (c : Char) (digit : c.isDigit) : isDigit (some c) := by
  simp only [Char.isDigit, Bool.and_eq_true, decide_eq_true_eq] at digit
  exact decide_eq_true digit

theorem digits_digit (n : Nat) : ∀ c ∈ Nat.toDigits 10 n, isDigit (some c) :=
  fun c member => digit_char c (Nat.isDigit_of_mem_toDigits (by decide) (by decide) member)

theorem digits_head (n : Nat) (positive : 0 < n) : (Nat.toDigits 10 n).head? ≠ some '0' := by
  induction n using Nat.base_induction 10 (by decide) with
  | single n small =>
      rw [Nat.toDigits_of_lt_base small, List.head?_cons, ne_eq, Option.some.injEq, Nat.digitChar_eq_zero]
      omega
  | digit n last small above ih =>
      obtain ⟨first, more, same⟩ := List.exists_cons_of_ne_nil (Nat.toDigits_ne_nil (n := n) (b := 10))
      rw [← Nat.toDigits_append_toDigits (by decide) above small, same]
      rw [same] at ih
      exact ih above

theorem span_digits (digits rest : List Char) (inside : ∀ c ∈ digits, isDigit (some c))
    (ends : Leaves (isDigit ∘ some) rest) : spanDigits ((digits ++ rest).map some) = (digits, rest.map some) := by
  have every : ∀ c ∈ digits.map some, isDigit c := by
    intro c member
    obtain ⟨d, among, rfl⟩ := List.mem_map.mp member
    exact inside d among
  have stops : (rest.map some).takeWhile isDigit = [] ∧ (rest.map some).dropWhile isDigit = rest.map some := by
    cases rest with
    | nil => exact ⟨rfl, rfl⟩
    | cons c more =>
        have outside : ¬ isDigit (some c) := ne_true_of_eq_false ends
        exact ⟨List.takeWhile_cons_of_neg outside, List.dropWhile_cons_of_neg outside⟩
  rw [spanDigits, List.map_append, List.takeWhile_append_of_pos every, List.dropWhile_append_of_pos every, stops.1,
    stops.2, List.append_nil, List.filterMap_map]
  exact Prod.ext List.filterMap_some rfl

theorem absorbed_grows (digits : List Char) (start : Nat) : start ≤ Nat.ofDigitChars 10 digits start := by
  rw [Nat.ofDigitChars_eq_ofDigitChars_zero]
  have := Nat.le_mul_of_pos_left start (Nat.pow_pos (n := digits.length) (by decide : 0 < 10))
  omega

theorem absorb_all (digits : List Char) (start : Nat) (small : Nat.ofDigitChars 10 digits start < wordLimit) :
    absorb start digits = (Nat.ofDigitChars 10 digits start, 0) := by
  induction digits generalizing start with
  | nil => rfl
  | cons c rest ih =>
      rw [Nat.ofDigitChars_cons, Nat.mul_comm] at small ⊢
      have fits := Nat.lt_of_le_of_lt (absorbed_grows rest (start * 10 + digitValue c)) small
      rw [absorb, if_pos fits]
      exact ih (start * 10 + digitValue c) small

theorem mark_refused (mark : Char) (rest : List Char) (more : Source) (within : inNumber mark)
    (same : rest.map some = some mark :: more) : ¬ Leaves inNumber rest := by
  cases rest with
  | nil => exact nomatch same
  | cons c tail =>
      obtain rfl : c = mark := by simpa using (List.cons.inj same).1
      exact ne_false_of_eq_true within

theorem no_digit (rest : List Char) (ends : Leaves inNumber rest) : Leaves (isDigit ∘ some) rest := by
  cases rest with
  | nil => trivial
  | cons c more =>
      simp only [Leaves, inNumber, Bool.or_eq_false_iff] at ends
      exact ends.1.1.1

theorem fraction_scanned (number : Decimal) (rest : List Char) (ends : Leaves inNumber rest) :
    scanAfterFraction number (rest.map some) = (.number number.value, rest.map some) := by
  unfold scanAfterFraction
  split
  · rename_i same
    exact absurd ends (mark_refused 'e' rest _ rfl same)
  · rename_i same
    exact absurd ends (mark_refused 'E' rest _ rfl same)
  · rfl

theorem number_scanned (negative : Bool) (n : Nat) (rest : List Char) (ends : Leaves inNumber rest) :
    scanNumber negative ((Nat.toDigits 10 n ++ rest).map some) =
      (.number (Decimal.value ⟨negative, Nat.toDigits 10 n, none, none⟩), rest.map some) := by
  rw [scanNumber, span_digits _ rest (digits_digit n) (no_digit rest ends)]
  dsimp only
  split
  · rename_i none
    exact absurd none Nat.toDigits_ne_nil
  · rename_i leading
    rcases Nat.eq_zero_or_pos n with rfl | positive
    · exact nomatch leading
    · exact absurd (by rw [leading]; rfl) (digits_head n positive)
  · split
    · rename_i same
      exact absurd ends (mark_refused '.' rest _ rfl same)
    · exact fraction_scanned _ rest ends

theorem natural_value (n : Nat) (small : n < 2 ^ 64) :
    Decimal.value ⟨false, Nat.toDigits 10 n, none, none⟩ = .ok (.int n) := by
  have whole : absorb 0 (Nat.toDigits 10 n) = (n, 0) := by
    rw [absorb_all, Nat.ofDigitChars_ten_toDigits]
    rw [Nat.ofDigitChars_ten_toDigits]
    exact small
  rw [Decimal.value, whole]
  rfl

theorem negative_value (n : Nat) (positive : 0 < n) (small : n ≤ 2 ^ 63) :
    Decimal.value ⟨true, Nat.toDigits 10 n, none, none⟩ = .ok (.int (-n)) := by
  have whole : absorb 0 (Nat.toDigits 10 n) = (n, 0) := by
    rw [absorb_all, Nat.ofDigitChars_ten_toDigits]
    rw [Nat.ofDigitChars_ten_toDigits]
    exact Nat.lt_of_le_of_lt small (by decide)
  rw [Decimal.value, whole]
  dsimp only
  rw [if_neg (by simp), if_neg (by simp), if_neg]
  rintro (zero | large)
  · omega
  · exact absurd large (Nat.not_lt.mpr small)

theorem digit_visible (c : Char) (digit : isDigit (some c)) : isSpace c = false := by
  rw [Bool.eq_false_iff]
  intro space
  simp only [isSpace, Bool.or_eq_true, decide_eq_true_eq] at space
  rcases space with ((rfl | rfl) | rfl) | rfl <;> exact absurd digit (by decide)

theorem digit_scanned (c : Char) (rest : Source) (digit : isDigit (some c)) :
    scanToken (some c) rest = scanNumber false (some c :: rest) := by
  unfold scanToken
  split
  case h_12 => rw [if_pos digit]
  all_goals
    rename_i same
    obtain rfl := Option.some.inj same
    exact absurd digit (by decide)

theorem int_scans (n : Int) (least : -2 ^ 63 ≤ n) (small : n < 2 ^ 64) (rest : List Char) (ends : Leaves inNumber rest) :
    Scans (toString n).toList (.number (.ok (.int n))) rest := by
  cases n with
  | ofNat n =>
      have digits : (toString (Int.ofNat n)).toList = Nat.toDigits 10 n := Nat.toList_repr
      obtain ⟨first, tail, same⟩ := List.exists_cons_of_ne_nil (Nat.toDigits_ne_nil (n := n) (b := 10))
      have digit := digits_digit n first (by rw [same]; exact List.mem_cons_self)
      refine ⟨first, tail, digits.trans same, digit_visible first digit, ?_⟩
      rw [digit_scanned first _ digit, ← List.map_cons, ← List.cons_append, ← same, number_scanned false n rest ends,
        natural_value n (Int.ofNat_lt.mp small)]
      rfl
  | negSucc n =>
      have digits : (toString (Int.negSucc n)).toList = '-' :: Nat.toDigits 10 (n + 1) := by
        rw [Int.toString_eq_repr, Int.repr, String.toList_append, Nat.toList_repr]
        rfl
      refine ⟨'-', Nat.toDigits 10 (n + 1), digits, rfl, ?_⟩
      change scanNumber true _ = _
      rw [number_scanned true (n + 1) rest ends, negative_value (n + 1) (by omega) (by omega)]
      rfl

theorem minus_zero_scans (rest : List Char) (ends : Leaves inNumber rest) :
    Scans (compactChars (.double minusZero)) (.number (.ok (.double minusZero))) rest := by
  have text : compactChars (.double minusZero) = ['-', '0', '.', '0'] := by decide +kernel
  have zero (tail : List Char) (stops : Leaves (isDigit ∘ some) tail) :
      spanDigits (('0' :: tail).map some) = (['0'], tail.map some) :=
    span_digits ['0'] tail (List.forall_mem_singleton.mpr rfl) stops
  refine ⟨'-', ['0', '.', '0'], text, rfl, ?_⟩
  change scanNumber true (('0' :: '.' :: '0' :: rest).map some) = _
  rw [scanNumber, zero ('.' :: '0' :: rest) (by exact rfl)]
  change (if (spanDigits (('0' :: rest).map some)).1.isEmpty then digitFault (('0' :: rest).map some)
    else scanAfterFraction ⟨true, ['0'], some (spanDigits (('0' :: rest).map some)).1, none⟩
      (spanDigits (('0' :: rest).map some)).2) = _
  rw [zero rest (no_digit rest ends)]
  exact fraction_scanned _ rest ends

end Numbers

section Values

variable (more : List Token) (rest : List Char)

theorem open_list_layout (layout : Layout more rest) : Layout (.openArr :: more) ('[' :: rest) :=
  layout_cons ['['] rest .openArr more (mark_scans '[' .openArr rest rfl fun _ => rfl) layout

theorem close_list_layout (layout : Layout more rest) : Layout (.closeArr :: more) (']' :: rest) :=
  layout_cons [']'] rest .closeArr more (mark_scans ']' .closeArr rest rfl fun _ => rfl) layout

theorem open_object_layout (layout : Layout more rest) : Layout (.openObj :: more) ('\x7b' :: rest) :=
  layout_cons ['\x7b'] rest .openObj more (mark_scans '\x7b' .openObj rest rfl fun _ => rfl) layout

theorem close_object_layout (layout : Layout more rest) : Layout (.closeObj :: more) ('\x7d' :: rest) :=
  layout_cons ['\x7d'] rest .closeObj more (mark_scans '\x7d' .closeObj rest rfl fun _ => rfl) layout

theorem comma_layout (layout : Layout more rest) : Layout (.comma :: more) (',' :: rest) :=
  layout_cons [','] rest .comma more (mark_scans ',' .comma rest rfl fun _ => rfl) layout

theorem key_layout (key : String) (layout : Layout more rest) :
    Layout (.text (.ok key) :: .colon :: more) (quote key ++ ':' :: rest) :=
  layout_cons (quote key) _ (.text (.ok key)) _ (quote_scans key _)
    (layout_cons [':'] rest .colon more (mark_scans ':' .colon rest rfl fun _ => rfl) layout)

end Values

mutual
theorem compact_layout (value : Json) (more : List Token) (rest : List Char) (whole : value.Whole)
    (ends : Leaves inNumber rest) (layout : Layout more rest) : Layout (value.written ++ more) (value.compactChars ++ rest) := by
  cases value with
  | null => exact layout_cons _ rest _ more (null_scans rest) layout
  | bool value => exact layout_cons _ rest _ more (bool_scans value rest) layout
  | int n => exact layout_cons _ rest _ more (int_scans n whole.1 whole.2 rest ends) layout
  | double x =>
      obtain rfl : x = minusZero := whole
      exact layout_cons _ rest _ more (minus_zero_scans rest ends) layout
  | str text => exact layout_cons _ rest _ more (quote_scans text rest) layout
  | arr items =>
      have closed := close_list_layout more rest layout
      have inside := compact_items_layout items _ (']' :: rest) whole rfl closed
      have opened := open_list_layout _ _ inside
      simpa only [written, compactChars, List.cons_append, List.append_assoc, List.nil_append] using opened
  | obj fields =>
      have closed := close_object_layout more rest layout
      have inside := compact_fields_layout fields _ ('\x7d' :: rest) whole rfl closed
      have opened := open_object_layout _ _ inside
      simpa only [written, compactChars, List.cons_append, List.append_assoc, List.nil_append] using opened
theorem compact_items_layout (items : List Json) (more : List Token) (rest : List Char) (whole : WholeItems items)
    (ends : Leaves inNumber rest) (layout : Layout more rest) :
    Layout (writtenItems items ++ more) (compactItems items ++ rest) := by
  match items, whole with
  | [], _ => exact layout
  | [item], whole => exact compact_layout item more rest whole.1 ends layout
  | item :: next :: others, whole =>
      have after := compact_items_layout (next :: others) more rest whole.2 ends layout
      have separated := comma_layout _ _ after
      have first := compact_layout item _ (',' :: _) whole.1 rfl separated
      simpa only [writtenItems, compactItems, List.cons_append, List.append_assoc, List.nil_append] using first
theorem compact_fields_layout (fields : List (String × Json)) (more : List Token) (rest : List Char)
    (whole : WholeFields fields) (ends : Leaves inNumber rest) (layout : Layout more rest) :
    Layout (writtenFields fields ++ more) (compactFields fields ++ rest) := by
  match fields, whole with
  | [], _ => exact layout
  | [(key, value)], whole =>
      have only := key_layout _ _ key (compact_layout value more rest whole.1 ends layout)
      simpa only [writtenFields, compactFields, List.cons_append, List.append_assoc, List.nil_append] using only
  | (key, value) :: next :: others, whole =>
      have after := compact_fields_layout (next :: others) more rest whole.2 ends layout
      have separated := comma_layout _ _ after
      have first := key_layout _ _ key (compact_layout value _ (',' :: _) whole.1 rfl separated)
      simpa only [writtenFields, compactFields, List.cons_append, List.append_assoc, List.nil_append] using first
end

mutual
theorem pretty_layout (value : Json) (depth : Nat) (more : List Token) (rest : List Char) (whole : value.Whole)
    (ends : Leaves inNumber rest) (layout : Layout more rest) :
    Layout (value.written ++ more) (prettyChars depth value ++ rest) := by
  match value, whole with
  | .null, whole => exact compact_layout .null more rest whole ends layout
  | .bool value, whole => exact compact_layout (.bool value) more rest whole ends layout
  | .int n, whole => exact compact_layout (.int n) more rest whole ends layout
  | .double x, whole => exact compact_layout (.double x) more rest whole ends layout
  | .str text, whole => exact compact_layout (.str text) more rest whole ends layout
  | .arr [], whole => exact compact_layout (.arr []) more rest whole ends layout
  | .obj [], whole => exact compact_layout (.obj []) more rest whole ends layout
  | .arr (item :: others), whole =>
      have closed := layout_gap _ _ _ (new_line_blank depth) (close_list_layout more rest layout)
      have inside := pretty_items_layout (item :: others) (depth + 1) _ (newLine depth ++ _) whole rfl closed
      have opened := open_list_layout _ _ inside
      simpa only [written, prettyChars, List.cons_append, List.append_assoc, List.nil_append] using opened
  | .obj (field :: others), whole =>
      have closed := layout_gap _ _ _ (new_line_blank depth) (close_object_layout more rest layout)
      have inside := pretty_fields_layout (field :: others) (depth + 1) _ (newLine depth ++ _) whole rfl closed
      have opened := open_object_layout _ _ inside
      simpa only [written, prettyChars, List.cons_append, List.append_assoc, List.nil_append] using opened
theorem pretty_items_layout (items : List Json) (depth : Nat) (more : List Token) (rest : List Char)
    (whole : WholeItems items) (ends : Leaves inNumber rest) (layout : Layout more rest) :
    Layout (writtenItems items ++ more) (prettyItems depth items ++ rest) := by
  match items, whole with
  | [], _ => exact layout
  | [item], whole =>
      have only := layout_gap _ _ _ (new_line_blank depth) (pretty_layout item depth more rest whole.1 ends layout)
      simpa only [writtenItems, prettyItems, List.append_assoc] using only
  | item :: next :: others, whole =>
      have after := pretty_items_layout (next :: others) depth more rest whole.2 ends layout
      have separated := comma_layout _ _ after
      have first := layout_gap _ _ _ (new_line_blank depth) (pretty_layout item depth _ (',' :: _) whole.1 rfl separated)
      simpa only [writtenItems, prettyItems, List.cons_append, List.append_assoc, List.nil_append] using first
theorem pretty_fields_layout (fields : List (String × Json)) (depth : Nat) (more : List Token) (rest : List Char)
    (whole : WholeFields fields) (ends : Leaves inNumber rest) (layout : Layout more rest) :
    Layout (writtenFields fields ++ more) (prettyFields depth fields ++ rest) := by
  match fields, whole with
  | [], _ => exact layout
  | [(key, value)], whole =>
      have only := layout_gap [' '] _ _ space_blank (pretty_layout value depth more rest whole.1 ends layout)
      have keyed := layout_gap _ _ _ (new_line_blank depth) (key_layout _ _ key only)
      simpa only [writtenFields, prettyFields, List.cons_append, List.append_assoc, List.nil_append] using keyed
  | (key, value) :: next :: others, whole =>
      have after := pretty_fields_layout (next :: others) depth more rest whole.2 ends layout
      have separated := comma_layout _ _ after
      have first := layout_gap [' '] _ _ space_blank (pretty_layout value depth _ (',' :: _) whole.1 rfl separated)
      have keyed := layout_gap _ _ _ (new_line_blank depth) (key_layout _ _ key first)
      simpa only [writtenFields, prettyFields, List.cons_append, List.append_assoc, List.nil_append] using keyed
end

theorem compact_tokens (value : Json) (whole : value.Whole) : tokens (sourceOf value.compact) = value.written := by
  have layout := compact_layout value [] [] whole trivial (.blank [] nofun)
  rw [List.append_nil, List.append_nil] at layout
  refine layout_tokens value.written value.compact ?_
  rw [compact, String.toList_ofList]
  exact layout

theorem pretty_tokens (value : Json) (whole : value.Whole) : tokens (sourceOf value.pretty) = value.written := by
  have layout := pretty_layout value 0 [] [] whole trivial (.blank [] nofun)
  rw [List.append_nil, List.append_nil] at layout
  refine layout_tokens value.written value.pretty ?_
  rw [pretty, String.toList_ofList]
  exact layout

end TypedQuery.Json
