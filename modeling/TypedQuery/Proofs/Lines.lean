import TypedQuery.Json.Printer
import TypedQuery.Proofs.Tokens

/-!
Values on one line. The compact text of a value holds no control character whatever its strings, keys and
numbers are, so texts that are joined by line feeds come apart into their lines again.
-/

set_option autoImplicit false

namespace TypedQuery

def Text.Printable (text : List Char) : Prop := ∀ c ∈ text, 0x20 ≤ c.toNat

-- The lines of a text. A line ends at a line feed, with a carriage return before it or without; after the last
-- line feed there is a line only if there is text.
def Text.lines : List Char → List (List Char)
  | [] => []
  | '\n' :: rest => [] :: lines rest
  | '\r' :: '\n' :: rest => [] :: lines rest
  | c :: rest =>
      match lines rest with
      | [] => [[c]]
      | line :: others => (c :: line) :: others

namespace Text

instance (text : List Char) : Decidable (Printable text) := List.decidableBAll (fun c : Char => 0x20 ≤ c.toNat) text

theorem printable_nil : Printable [] := nofun

theorem printable_cons (c : Char) (text : List Char) : Printable (c :: text) ↔ 0x20 ≤ c.toNat ∧ Printable text :=
  List.forall_mem_cons

theorem printable_append (first second : List Char) :
    Printable (first ++ second) ↔ Printable first ∧ Printable second :=
  List.forall_mem_append

theorem printable_singleton (c : Char) : Printable [c] ↔ 0x20 ≤ c.toNat := List.forall_mem_singleton

theorem printable_subset (part text : List Char) (within : part ⊆ text) (printable : Printable text) : Printable part :=
  fun c member => printable c (within member)

theorem printable_replicate (count : Nat) (c : Char) (shown : 0x20 ≤ c.toNat) :
    Printable (List.replicate count c) := by
  intro d member
  rw [List.eq_of_mem_replicate member]
  exact shown

section Splitting

variable (c : Char) (rest : List Char)

theorem lines_unbroken (shown : 0x20 ≤ c.toNat) :
    lines (c :: rest) = ((c :: (lines rest).headD []) :: (lines rest).tail) := by
  rw [lines]
  · cases lines rest <;> rfl
  · rintro rfl
    exact absurd shown (by decide)
  · rintro _ rfl
    exact absurd shown (by decide)

theorem lines_printable (text : List Char) (some_text : text ≠ []) (printable : Printable text) : lines text = [text] := by
  induction text with
  | nil => exact absurd rfl some_text
  | cons c text ih =>
      obtain ⟨shown, printable⟩ := (printable_cons c text).mp printable
      rw [lines_unbroken c text shown]
      by_cases last : text = []
      · rw [last]
        rfl
      · rw [ih last printable]
        rfl

theorem lines_feed (text rest : List Char) (printable : Printable text) :
    lines (text ++ '\n' :: rest) = text :: lines rest := by
  induction text with
  | nil => rfl
  | cons c text ih =>
      obtain ⟨shown, printable⟩ := (printable_cons c text).mp printable
      rw [List.cons_append, lines_unbroken c _ shown, ih printable]
      rfl

theorem lines_intercalate (texts : List (List Char)) (each : ∀ text ∈ texts, text ≠ [] ∧ Printable text) :
    lines (List.intercalate ['\n'] texts) = texts := by
  induction texts with
  | nil => rfl
  | cons text others ih =>
      obtain ⟨⟨some_text, printable⟩, each⟩ := List.forall_mem_cons.mp each
      cases others with
      | nil =>
          rw [List.intercalate_singleton]
          exact lines_printable text some_text printable
      | cons next others =>
          rw [List.intercalate_cons_cons, List.append_assoc, List.singleton_append, lines_feed text _ printable, ih each]

end Splitting

end Text

open Text

section Numbers

theorem digits_printable (n : Nat) : Printable (Nat.toDigits 10 n) := by
  intro c member
  have digit := Nat.isDigit_of_mem_toDigits (by decide) (by decide) member
  simp only [Char.isDigit, Bool.and_eq_true, decide_eq_true_eq] at digit
  exact Nat.le_trans (by decide : 0x20 ≤ 48) digit.1

theorem int_printable (n : Int) : Printable (toString n).toList := by
  cases n with
  | ofNat n => exact Nat.toList_repr ▸ digits_printable n
  | negSucc n =>
      rw [Int.toString_eq_repr, Int.repr, String.toList_append, Nat.toList_repr, printable_append]
      exact ⟨(printable_singleton '-').mpr (by decide), digits_printable (n + 1)⟩

theorem significant_printable (digits : Nat) (place : Int) : Printable (Double.significant digits place).1 := by
  refine printable_subset _ (Nat.toDigits 10 digits) ?_ (digits_printable digits)
  intro c member
  rw [Double.significant, List.mem_reverse] at member
  exact List.mem_reverse.mp ((List.dropWhile_suffix _).subset member)

theorem layout_printable (style : Double.DecimalStyle) (digits : List Char) (leading : Int) (shown : Printable digits) :
    Printable (Double.layout style digits leading) := by
  have zeros (count : Nat) : Printable (List.replicate count '0') := printable_replicate count '0' (by decide)
  unfold Double.layout
  by_cases positional : style.lowest ≤ leading ∧ leading ≤ style.highest
  · rw [if_pos positional]
    by_cases small : leading < 0
    · rw [if_pos small, printable_append, printable_append]
      exact ⟨⟨by decide, zeros _⟩, shown⟩
    · have padded (count : Nat) : Printable (digits ++ List.replicate count '0') :=
        (printable_append _ _).mpr ⟨shown, zeros count⟩
      rw [if_neg small, printable_append, printable_append]
      refine ⟨⟨printable_subset _ _ (List.take_subset _ _) (padded _), by decide⟩, ?_⟩
      split
      · decide
      · exact printable_subset _ _ (List.drop_subset _ _) (padded _)
  · rw [if_neg positional, printable_append, printable_append]
    refine ⟨⟨?_, ?_⟩, digits_printable _⟩
    · cases digits with
      | nil => exact shown
      | cons first more =>
          cases more with
          | nil => exact shown
          | cons second rest =>
              obtain ⟨first_shown, shown⟩ := (printable_cons first _).mp shown
              exact (printable_cons _ _).mpr ⟨first_shown, (printable_cons _ _).mpr ⟨by decide, shown⟩⟩
    · split <;> decide

theorem double_printable (x : Double) : Printable x.text.toList := by
  have signed (text : String) (shown : Printable text.toList) :
      Printable ((if x.isNegative then "-" else "") ++ text).toList := by
    rw [String.toList_append, printable_append]
    refine ⟨?_, shown⟩
    split <;> decide
  unfold Double.text
  cases x.parts? with
  | none =>
      dsimp only
      by_cases unreal : x.isNaN
      · rw [if_pos unreal]
        decide
      · rw [if_neg unreal]
        exact signed "inf" (by decide)
  | some parts =>
      obtain ⟨m, q⟩ := parts
      cases m with
      | zero => exact signed "0.0" (by decide)
      | succ m =>
          dsimp only
          generalize Double.shortest (m + 1) q = decimal
          refine signed _ ?_
          rw [String.toList_ofList]
          exact layout_printable _ _ _ (significant_printable _ _)

end Numbers

namespace Json

theorem hex_digit_printable : ∀ n < 16, 0x20 ≤ (hexDigit n).toNat := by decide

theorem escape_printable (c : Char) : Printable (escapeChar c) := by
  unfold escapeChar
  iterate 7 (split; · decide)
  by_cases control : c.toNat < 0x20
  · rw [if_pos control]
    have high := hex_digit_printable (c.toNat / 16) (by omega)
    have low := hex_digit_printable (c.toNat % 16) (by omega)
    exact (printable_append ['\\', 'u', '0', '0'] _).mpr
      ⟨by decide, (printable_cons _ _).mpr ⟨high, (printable_singleton _).mpr low⟩⟩
  · rw [if_neg control]
    exact (printable_singleton c).mpr (Nat.le_of_not_lt control)

theorem quote_printable (text : String) : Printable (quote text) := by
  rw [quote, printable_append, printable_append]
  refine ⟨⟨by decide, ?_⟩, by decide⟩
  intro c member
  obtain ⟨plain, _, written⟩ := List.mem_flatMap.mp member
  exact escape_printable plain c written

mutual
theorem compact_printable (value : Json) : Printable value.compactChars := by
  cases value with
  | null => decide
  | bool value => cases value <;> decide
  | int n => exact int_printable n
  | double x =>
      rw [compactChars]
      split
      · exact double_printable x
      · decide
  | str text => exact quote_printable text
  | arr items =>
      rw [compactChars, printable_append, printable_append]
      exact ⟨⟨by decide, compact_items_printable items⟩, by decide⟩
  | obj fields =>
      rw [compactChars, printable_append, printable_append]
      exact ⟨⟨by decide, compact_fields_printable fields⟩, by decide⟩
theorem compact_items_printable (items : List Json) : Printable (compactItems items) := by
  match items with
  | [] => exact printable_nil
  | [item] => exact compact_printable item
  | item :: next :: others =>
      rw [compactItems, printable_append, printable_append]
      · exact ⟨⟨compact_printable item, by decide⟩, compact_items_printable (next :: others)⟩
      · exact nofun
theorem compact_fields_printable (fields : List (String × Json)) : Printable (compactFields fields) := by
  match fields with
  | [] => exact printable_nil
  | [(key, value)] =>
      rw [compactFields, printable_append, printable_append]
      exact ⟨⟨quote_printable key, by decide⟩, compact_printable value⟩
  | (key, value) :: next :: others =>
      rw [compactFields]
      · simp only [printable_append]
        exact ⟨⟨⟨⟨quote_printable key, by decide⟩, compact_printable value⟩, by decide⟩,
          compact_fields_printable (next :: others)⟩
      · exact nofun
end

end Json

end TypedQuery
