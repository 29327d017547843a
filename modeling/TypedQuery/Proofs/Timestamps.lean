import Mathlib.Data.List.Basic
import Mathlib.Data.List.Induction
import Mathlib.Data.List.TakeWhile
import TypedQuery.Proofs.Instants
import TypedQuery.Proofs.Outcome

/-!
The texts that are read as instants without any leniency: a date of the calendar, a time of the day and an
offset of less than a day, each field with all its digits and nothing between them but the marks.
-/

set_option autoImplicit false

namespace TypedQuery

open Time

structure Numeral (width low high : Nat) (digits : List Char) : Prop where
  length : digits.length = width
  inside : ∀ c ∈ digits, Time.isDigit c
  within : low ≤ digitsValue digits ∧ digitsValue digits ≤ high

def Fraction (text : List Char) : Prop :=
  text = [] ∨ ∃ digits, text = '.' :: digits ∧ digits ≠ [] ∧ ∀ c ∈ digits, Time.isDigit c

def shifted (sign : Char) (hours minutes : List Char) : Int :=
  if sign = '+' then digitsValue hours * 60 + digitsValue minutes else -(digitsValue hours * 60 + digitsValue minutes)

inductive Shift : List Char → Int → Prop
  | universal (mark : Char) (letter : mark ∈ ['Z', 'z']) : Shift [mark] 0
  | signed (sign : Char) (hours minutes : List Char) (mark : sign ∈ ['+', '-', '\u2212']) (hour : Numeral 2 0 99 hours)
      (minute : Numeral 2 0 59 minutes) : Shift (sign :: (hours ++ ':' :: minutes)) (shifted sign hours minutes)

def DateText (date : DateParts) (text : List Char) : Prop :=
  ∃ year month day, text = year ++ '-' :: (month ++ '-' :: day) ∧
    Numeral 4 0 9999 year ∧ Numeral 2 1 12 month ∧ Numeral 2 1 31 day ∧
    date = ⟨digitsValue year, digitsValue month, digitsValue day⟩

def ClockText (text : List Char) : Prop :=
  ∃ hour minute second fraction, text = hour ++ ':' :: (minute ++ ':' :: (second ++ fraction)) ∧
    Numeral 2 0 23 hour ∧ Numeral 2 0 59 minute ∧ Numeral 2 0 60 second ∧ Fraction fraction

-- An RFC 3339 timestamp, where letters may be small and a space may stand for the `T`. The day is one of its
-- month, and the offset is less than a day.
def Timestamp (text : List Char) : Prop :=
  ∃ dateText mark clockText zone date minutes, text = dateText ++ mark :: (clockText ++ zone) ∧
    DateText date dateText ∧ date.day ≤ CivilTime.daysInMonth date.year date.month ∧ mark ∈ ['T', 't', ' '] ∧
    ClockText clockText ∧ Shift zone minutes ∧ minutes.natAbs < 1440

section Scanners

variable {α β : Type}

theorem scans_bind_iff (scan : Scan α) (next : α → Scan β) (text rest : List Char) (result : β) :
    Scans (scan >>= next) text result rest ↔
      ∃ value middle, Scans scan text value middle ∧ Scans (next value) middle result rest := by
  constructor
  · intro scans
    unfold Scans at scans
    rw [StateT.run_bind] at scans
    obtain ⟨⟨value, middle⟩, first, second⟩ := (bind_ok_iff _ _ _).mp scans
    exact ⟨value, middle, first, second⟩
  · rintro ⟨value, middle, first, second⟩
    exact scans_bind first second

theorem scans_pure_iff (value result : α) (text rest : List Char) :
    Scans (pure value) text result rest ↔ value = result ∧ text = rest := by
  change Except.ok (value, text) = Except.ok (result, rest) ↔ _
  rw [Except.ok.injEq, Prod.mk.injEq]

theorem scans_get_iff (text value rest : List Char) : Scans get text value rest ↔ value = text ∧ rest = text := by
  change Except.ok (text, text) = Except.ok (value, rest) ↔ _
  rw [Except.ok.injEq, Prod.mk.injEq, eq_comm, @eq_comm _ text rest]

theorem scans_set_iff (text next rest : List Char) (u : PUnit) : Scans (set next) text u rest ↔ rest = next := by
  change Except.ok (u, next) = Except.ok (u, rest) ↔ _
  rw [Except.ok.injEq, Prod.mk.injEq, eq_self, true_and, eq_comm]

theorem scans_modify_iff (change : List Char → List Char) (text rest : List Char) (u : PUnit) :
    Scans (modify change) text u rest ↔ rest = change text := by
  change Except.ok (u, change text) = Except.ok (u, rest) ↔ _
  rw [Except.ok.injEq, Prod.mk.injEq, eq_self, true_and, eq_comm]

theorem scans_fail (fault : TimeFault) (text rest : List Char) (value : α) : ¬ Scans (fail fault) text value rest :=
  nofun

end Scanners

theorem digits_below (digits : List Char) (inside : ∀ c ∈ digits, Time.isDigit c) :
    digitsValue digits < 10 ^ digits.length := by
  rw [digitsValue, digits_value]
  induction digits using List.reverseRecOn with
  | nil => decide
  | append_singleton digits c ih =>
      obtain ⟨inside, last⟩ := List.forall_mem_append.mp inside
      have digit := (digit_bounds c).mp (last c List.mem_cons_self)
      have below := ih inside
      have zero : '0'.toNat = 48 := rfl
      rw [Nat.ofDigitChars_append, Nat.ofDigitChars_cons, Nat.ofDigitChars_nil, List.length_append, List.length_singleton,
        Nat.pow_succ]
      omega

theorem literal_iff (c : Char) (text rest : List Char) (u : Unit) : Scans (literal c) text u rest ↔ text = c :: rest := by
  constructor
  · intro scans
    cases text with
    | nil => exact nomatch scans
    | cons first tail =>
        change (if first = c then (set tail : Scan Unit) else fail .invalid).run (first :: tail) = _ at scans
        by_cases same : first = c
        · rw [if_pos same] at scans
          obtain rfl := (Prod.mk.inj (Except.ok.inj scans)).2
          rw [same]
        · rw [if_neg same] at scans
          exact nomatch scans
  · rintro rfl
    exact literal_scans c rest

theorem ranged_iff (low high n : Nat) (scan : Scan Nat) (text rest : List Char) :
    Scans (ranged low high scan) text n rest ↔ Scans scan text n rest ∧ low ≤ n ∧ n ≤ high := by
  constructor
  · intro scans
    obtain ⟨value, middle, first, second⟩ := (scans_bind_iff _ _ _ _ _).mp scans
    by_cases within : low ≤ value ∧ value ≤ high
    · rw [if_pos within] at second
      obtain ⟨rfl, rfl⟩ := (scans_pure_iff _ _ _ _).mp second
      exact ⟨first, within⟩
    · rw [if_neg within] at second
      exact absurd second (scans_fail _ _ _ _)
  · rintro ⟨scans, within⟩
    exact ranged_scans low high n scan text rest within scans

theorem number_run (least width : Nat) (text : List Char) :
    (number least (some width)).run text =
      if ((text.take width).takeWhile Time.isDigit).length < least then
        .error (if text.length < least then .tooShort else .invalid)
      else if Nat.pow 2 63 ≤ digitsValue ((text.take width).takeWhile Time.isDigit) then .error .outOfRange
      else .ok (digitsValue ((text.take width).takeWhile Time.isDigit),
        text.drop ((text.take width).takeWhile Time.isDigit).length) := by
  change StateT.run (if ((text.take width).takeWhile Time.isDigit).length < least then _ else
    if Nat.pow 2 63 ≤ digitsValue ((text.take width).takeWhile Time.isDigit) then _ else _) text = _
  split
  · rfl
  · split <;> rfl

theorem number_taken (least width n : Nat) (text rest : List Char) (scans : Scans (number least (some width)) text n rest) :
    ∃ digits, digits = (text.take width).takeWhile Time.isDigit ∧ least ≤ digits.length ∧ n = digitsValue digits ∧
      rest = text.drop digits.length := by
  refine ⟨_, rfl, ?_⟩
  unfold Scans at scans
  rw [number_run] at scans
  generalize (text.take width).takeWhile Time.isDigit = digits at scans ⊢
  by_cases short : digits.length < least
  · rw [if_pos short] at scans
    exact nomatch scans
  · rw [if_neg short] at scans
    by_cases large : Nat.pow 2 63 ≤ digitsValue digits
    · rw [if_pos large] at scans
      exact nomatch scans
    · rw [if_neg large] at scans
      obtain ⟨value, left⟩ := Prod.mk.inj (Except.ok.inj scans)
      exact ⟨Nat.le_of_not_lt short, value.symm, left.symm⟩

theorem number_iff (width n : Nat) (text rest : List Char) (narrow : width ≤ 9) :
    Scans (number width (some width)) text n rest ↔
      ∃ digits, text = digits ++ rest ∧ Numeral width 0 (10 ^ width - 1) digits ∧ digitsValue digits = n := by
  constructor
  · intro scans
    obtain ⟨digits, same, enough, rfl, rfl⟩ := number_taken width width n text rest scans
    have start : digits <+: text.take width := same ▸ List.takeWhile_prefix Time.isDigit
    have few := start.length_le
    have most := List.length_take_le width text
    have length : digits.length = width := by omega
    have whole : digits = text.take width := start.eq_of_length (by omega)
    have inside (c : Char) (member : c ∈ digits) : Time.isDigit c := List.mem_takeWhile_imp (same ▸ member)
    have below := digits_below digits inside
    rw [length] at below
    refine ⟨digits, ?_, ⟨length, inside, Nat.zero_le _, by omega⟩, rfl⟩
    rw [length]
    nth_rewrite 1 [whole]
    exact (List.take_append_drop width text).symm
  · rintro ⟨digits, rfl, ⟨length, inside, _⟩, rfl⟩
    have below : digitsValue digits < Nat.pow 2 63 :=
      calc
        digitsValue digits < 10 ^ digits.length := digits_below digits inside
        _ ≤ 10 ^ 9 := Nat.pow_le_pow_right (by decide) (length ▸ narrow)
        _ < Nat.pow 2 63 := by decide
    have taken : ((digits ++ rest).take width).takeWhile Time.isDigit = digits := by
      rw [List.take_left' length, List.takeWhile_eq_self_iff]
      exact inside
    rw [Scans, number_run, taken, if_neg (Nat.not_lt.mpr (Nat.le_of_eq length.symm)), if_neg (Nat.not_le.mpr below),
      List.drop_left]

theorem numeral_iff (width low high n : Nat) (text rest : List Char) (narrow : width ≤ 9) :
    Scans (ranged low high (number width (some width))) text n rest ↔
      ∃ digits, text = digits ++ rest ∧ Numeral width low high digits ∧ digitsValue digits = n := by
  rw [ranged_iff, number_iff width n text rest narrow]
  constructor
  · rintro ⟨⟨digits, same, ⟨length, inside, _⟩, rfl⟩, within⟩
    exact ⟨digits, same, ⟨length, inside, within⟩, rfl⟩
  · rintro ⟨digits, same, ⟨length, inside, within⟩, rfl⟩
    have below := digits_below digits inside
    rw [length] at below
    exact ⟨⟨digits, same, ⟨length, inside, Nat.zero_le _, by omega⟩, rfl⟩, within⟩

theorem strict_date_iff (date : DateParts) (text rest : List Char) :
    Scans strictDate text date rest ↔ ∃ shown, text = shown ++ rest ∧ DateText date shown := by
  unfold strictDate
  simp only [scans_bind_iff, literal_iff, numeral_iff _ _ _ _ _ _ (by decide : 2 ≤ 9),
    number_iff _ _ _ _ (by decide : 4 ≤ 9), scans_pure_iff]
  constructor
  · rintro ⟨_, _, ⟨year, rfl, years, rfl⟩, _, _, rfl, _, _, ⟨month, rfl, months, rfl⟩, _, _, rfl, _, _,
      ⟨day, rfl, days, rfl⟩, rfl, rfl⟩
    refine ⟨year ++ '-' :: (month ++ '-' :: day), ?_, year, month, day, rfl, years, months, days, rfl⟩
    simp only [List.append_assoc, List.cons_append]
  · rintro ⟨_, rfl, year, month, day, rfl, years, months, days, rfl⟩
    simp only [List.append_assoc, List.cons_append]
    exact ⟨_, _, ⟨year, rfl, years, rfl⟩, (), _, rfl, _, _, ⟨month, rfl, months, rfl⟩, (), _, rfl, _, _,
      ⟨day, rfl, days, rfl⟩, rfl, rfl⟩

theorem fraction_taken (text rest : List Char) (nano : Nat) (scans : Scans fraction text nano rest) :
    ∃ shown, text = shown ++ rest ∧ Fraction shown := by
  obtain ⟨_, _, got, after⟩ := (scans_bind_iff _ _ _ _ _).mp scans
  obtain ⟨rfl, rfl⟩ := (scans_get_iff _ _ _).mp got
  split at after
  · rename_i more
    simp only [scans_bind_iff, scans_set_iff, scans_get_iff, scans_modify_iff, scans_pure_iff] at after
    obtain ⟨_, _, opened, _, left, number, _, again, ⟨_, kept⟩, _, _, rfl, _, rfl⟩ := after
    rw [opened] at number
    subst again
    obtain ⟨digits, same, enough, _, rest⟩ := number_taken 1 9 _ _ _ number
    have start : digits <+: more := same ▸ (List.takeWhile_prefix Time.isDigit).trans (List.take_prefix 9 more)
    obtain ⟨tail, rfl⟩ := start
    rw [List.drop_left] at rest
    subst rest
    have inside (c : Char) (member : c ∈ digits) : Time.isDigit c := List.mem_takeWhile_imp (same ▸ member)
    refine ⟨'.' :: (digits ++ left.takeWhile Time.isDigit), ?_, .inr ⟨_, rfl, ?_, ?_⟩⟩
    · rw [List.cons_append, List.append_assoc, List.takeWhile_append_dropWhile]
    · exact List.append_ne_nil_of_left_ne_nil (List.ne_nil_of_length_pos enough) _
    · exact List.forall_mem_append.mpr ⟨inside, fun c member => List.mem_takeWhile_imp member⟩
  · obtain ⟨_, rfl⟩ := (scans_pure_iff _ _ _ _).mp after
    exact ⟨[], rfl, .inl rfl⟩

theorem fraction_read (shown rest : List Char) (written : Fraction shown) (ends : Leaves Time.isDigit rest)
    (pointless : ∀ more, rest ≠ '.' :: more) : ∃ nano, Scans fraction (shown ++ rest) nano rest := by
  rcases written with rfl | ⟨digits, rfl, some_digits, inside⟩
  · refine ⟨0, (scans_bind_iff _ _ _ _ _).mpr ⟨rest, rest, rfl, ?_⟩⟩
    split
    · exact absurd rfl (pointless _)
    · exact scans_pure _ _
  · have stops (count : Nat) : (rest.take count).takeWhile Time.isDigit = [] := by
      cases rest with
      | nil => rw [List.take_nil, List.takeWhile_nil]
      | cons c tail =>
          cases count with
          | zero => rfl
          | succ count => exact List.takeWhile_cons_of_neg (ne_true_of_eq_false ends)
    have stays : rest.dropWhile Time.isDigit = rest := by
      cases rest with
      | nil => rfl
      | cons c tail => exact List.dropWhile_cons_of_neg (ne_true_of_eq_false ends)
    have few_inside (c : Char) (member : c ∈ digits.take 9) : Time.isDigit c := inside c (List.mem_of_mem_take member)
    have over_inside (c : Char) (member : c ∈ digits.drop 9) : Time.isDigit c := inside c (List.mem_of_mem_drop member)
    have taken : ((digits ++ rest).take 9).takeWhile Time.isDigit = digits.take 9 := by
      rw [List.take_append, List.takeWhile_append_of_pos few_inside, stops, List.append_nil]
    have below : digitsValue (digits.take 9) < Nat.pow 2 63 :=
      calc
        digitsValue (digits.take 9) < 10 ^ (digits.take 9).length := digits_below _ few_inside
        _ ≤ 10 ^ 9 := Nat.pow_le_pow_right (by decide) (List.length_take_le 9 digits)
        _ < Nat.pow 2 63 := by decide
    have enough : 1 ≤ (digits.take 9).length := by
      have positive := List.length_pos_iff.mpr some_digits
      rw [List.length_take]
      omega
    have left : (digits ++ rest).drop (digits.take 9).length = digits.drop 9 ++ rest := by
      have parts : digits ++ rest = digits.take 9 ++ (digits.drop 9 ++ rest) := by
        rw [← List.append_assoc, List.take_append_drop]
      rw [parts, List.drop_left]
    have number : Scans (number 1 (some 9)) (digits ++ rest) (digitsValue (digits.take 9)) (digits.drop 9 ++ rest) := by
      rw [Scans, number_run, taken, if_neg (Nat.not_lt.mpr enough), if_neg (Nat.not_le.mpr below), left]
    have skipped : Scans (modify fun text : List Char => text.dropWhile Time.isDigit) (digits.drop 9 ++ rest)
        PUnit.unit rest := by
      rw [scans_modify_iff, List.dropWhile_append_of_pos over_inside, stays]
    have opened : Scans (set (digits ++ rest)) ('.' :: (digits ++ rest)) PUnit.unit (digits ++ rest) := rfl
    refine ⟨digitsValue (digits.take 9) * Nat.pow 10 (9 - ((digits ++ rest).length - (digits.drop 9 ++ rest).length)),
      scans_bind (scans_get _) (scans_bind opened ?_)⟩
    exact scans_bind number (scans_bind (scans_get _) (scans_bind skipped (scans_pure _ _)))

theorem pair_iff (pair_value : Nat × Nat) (text rest : List Char) :
    Scans pair text pair_value rest ↔
      ∃ c d, text = c :: d :: rest ∧ Time.isDigit c ∧ Time.isDigit d ∧ pair_value = (c.toNat - 48, d.toNat - 48) := by
  unfold pair
  simp only [scans_bind_iff, scans_get_iff]
  constructor
  · rintro ⟨_, _, ⟨rfl, rfl⟩, after⟩
    split at after
    · exact absurd after (scans_fail _ _ _ _)
    · exact absurd after (scans_fail _ _ _ _)
    · rename_i c d tail
      by_cases digits : Time.isDigit c && Time.isDigit d
      · rw [if_pos digits] at after
        simp only [scans_bind_iff, scans_set_iff, scans_pure_iff] at after
        obtain ⟨_, _, rfl, rfl, rfl⟩ := after
        obtain ⟨first, second⟩ := Bool.and_eq_true_iff.mp digits
        exact ⟨c, d, rfl, first, second, rfl⟩
      · rw [if_neg digits] at after
        exact absurd after (scans_fail _ _ _ _)
  · rintro ⟨c, d, rfl, first, second, rfl⟩
    refine ⟨_, _, ⟨rfl, rfl⟩, ?_⟩
    dsimp only
    rw [if_pos (Bool.and_eq_true_iff.mpr ⟨first, second⟩)]
    have taken : Scans (set rest) (c :: d :: rest) PUnit.unit rest := rfl
    exact scans_bind taken (scans_pure _ _)

theorem pair_value (c d : Char) : digitsValue [c, d] = (c.toNat - 48) * 10 + (d.toNat - 48) := by
  change (0 * 10 + (c.toNat - 48)) * 10 + (d.toNat - 48) = _
  rw [Nat.zero_mul, Nat.zero_add]

theorem pair_numeral (c d : Char) (most : Nat) :
    Numeral 2 0 (most * 10 + 9) [c, d] ↔ Time.isDigit c ∧ Time.isDigit d ∧ c.toNat - 48 ≤ most := by
  constructor
  · rintro ⟨_, inside, _, high⟩
    rw [pair_value] at high
    exact ⟨inside c List.mem_cons_self, inside d (List.mem_cons_of_mem c List.mem_cons_self), by omega⟩
  · rintro ⟨first, second, few⟩
    have last := (digit_bounds d).mp second
    refine ⟨rfl, List.forall_mem_cons.mpr ⟨first, List.forall_mem_singleton.mpr second⟩, Nat.zero_le _, ?_⟩
    rw [pair_value]
    omega

theorem signed_iff (sign : Char) (tail rest : List Char) (total : Int) (signed : sign ∈ ['+', '-', '\u2212']) :
    Scans (offset (literal ':')) (sign :: tail) total rest ↔
      ∃ hours minutes, tail = hours ++ ':' :: (minutes ++ rest) ∧ Numeral 2 0 99 hours ∧ Numeral 2 0 59 minutes ∧
        total = shifted sign hours minutes := by
  have unlettered : ¬ (sign = 'Z' || sign = 'z') := by
    intro letter
    revert signed
    rcases Bool.or_eq_true_iff.mp letter with upper | lower
    · rw [of_decide_eq_true upper]
      decide
    · rw [of_decide_eq_true lower]
      decide
  have marked : sign = '+' || sign = '-' || sign = '\u2212' := by simpa [or_assoc] using signed
  have total_is (a b c d : Char) :
      (if sign = '+' then
          (((a.toNat - 48 : Nat) : Int) * 10 + (b.toNat - 48 : Nat)) * 60 + (c.toNat - 48 : Nat) * 10 +
            (d.toNat - 48 : Nat)
        else
          -((((a.toNat - 48 : Nat) : Int) * 10 + (b.toNat - 48 : Nat)) * 60 + (c.toNat - 48 : Nat) * 10 +
            (d.toNat - 48 : Nat))) =
      shifted sign [a, b] [c, d] := by
    rw [shifted, pair_value, pair_value]
    split <;> omega
  unfold offset
  simp only [scans_bind_iff, scans_get_iff]
  constructor
  · rintro ⟨_, _, ⟨rfl, rfl⟩, after⟩
    dsimp only at after
    rw [if_neg unlettered, if_pos marked] at after
    simp only [scans_bind_iff, scans_set_iff, pair_iff, literal_iff] at after
    obtain ⟨_, _, rfl, _, _, ⟨a, b, rfl, hour, hour', rfl⟩, _, _, rfl, _, _, ⟨c, d, rfl, minute, minute', rfl⟩,
      after⟩ := after
    dsimp only at after
    by_cases large : 5 < c.toNat - 48
    · rw [if_pos large] at after
      exact absurd after (scans_fail _ _ _ _)
    · rw [if_neg large, scans_pure_iff] at after
      obtain ⟨rfl, rfl⟩ := after
      have tens := (digit_bounds a).mp hour
      exact ⟨[a, b], [c, d], rfl, (pair_numeral a b 9).mpr ⟨hour, hour', by omega⟩,
        (pair_numeral c d 5).mpr ⟨minute, minute', by omega⟩, total_is a b c d⟩
  · rintro ⟨hours, minutes, rfl, hour, minute, rfl⟩
    obtain ⟨a, b, rfl⟩ := List.length_eq_two.mp hour.length
    obtain ⟨c, d, rfl⟩ := List.length_eq_two.mp minute.length
    obtain ⟨first, second, _⟩ := (pair_numeral a b 9).mp hour
    obtain ⟨third, fourth, small⟩ := (pair_numeral c d 5).mp minute
    refine ⟨_, _, ⟨rfl, rfl⟩, ?_⟩
    dsimp only
    rw [if_neg unlettered, if_pos marked]
    simp only [scans_bind_iff, scans_set_iff, pair_iff, literal_iff]
    refine ⟨(), _, rfl, _, _, ⟨a, b, rfl, first, second, rfl⟩, (), _, rfl, _, _, ⟨c, d, rfl, third, fourth, rfl⟩, ?_⟩
    dsimp only
    rw [if_neg (Nat.not_lt.mpr small), total_is]
    exact scans_pure _ _

theorem universal_iff (mark : Char) (tail rest : List Char) (total : Int) (letter : mark ∈ ['Z', 'z']) :
    Scans (offset (literal ':')) (mark :: tail) total rest ↔ tail = rest ∧ total = 0 := by
  have lettered : mark = 'Z' || mark = 'z' := by simpa using letter
  unfold offset
  simp only [scans_bind_iff, scans_get_iff]
  constructor
  · rintro ⟨_, _, ⟨rfl, rfl⟩, after⟩
    dsimp only at after
    rw [if_pos lettered] at after
    simp only [scans_bind_iff, scans_set_iff, scans_pure_iff] at after
    obtain ⟨_, _, rfl, rfl, rfl⟩ := after
    exact ⟨rfl, rfl⟩
  · rintro ⟨rfl, rfl⟩
    refine ⟨_, _, ⟨rfl, rfl⟩, ?_⟩
    dsimp only
    rw [if_pos lettered]
    have taken : Scans (set tail) (mark :: tail) PUnit.unit tail := rfl
    exact scans_bind taken (scans_pure _ _)

theorem shift_iff (text rest : List Char) (total : Int) :
    Scans (offset (literal ':')) text total rest ↔ ∃ zone, text = zone ++ rest ∧ Shift zone total := by
  constructor
  · intro scans
    cases text with
    | nil => exact nomatch scans
    | cons mark tail =>
        by_cases letter : mark ∈ ['Z', 'z']
        · obtain ⟨rfl, rfl⟩ := (universal_iff mark tail rest total letter).mp scans
          exact ⟨[mark], rfl, .universal mark letter⟩
        · by_cases signed : mark ∈ ['+', '-', '\u2212']
          · obtain ⟨hours, minutes, rfl, hour, minute, rfl⟩ := (signed_iff mark tail rest total signed).mp scans
            refine ⟨mark :: (hours ++ ':' :: minutes), ?_, .signed mark hours minutes signed hour minute⟩
            simp only [List.cons_append, List.append_assoc]
          · have unlettered : ¬ (mark = 'Z' || mark = 'z') := by simpa using letter
            have unmarked : ¬ (mark = '+' || mark = '-' || mark = '\u2212') := by simpa [and_assoc] using signed
            obtain ⟨_, _, got, after⟩ := (scans_bind_iff _ _ _ _ _).mp scans
            obtain ⟨rfl, rfl⟩ := (scans_get_iff _ _ _).mp got
            dsimp only at after
            rw [if_neg unlettered, if_neg unmarked] at after
            exact absurd after (scans_fail _ _ _ _)
  · rintro ⟨_, rfl, shift⟩
    cases shift with
    | universal mark letter => exact (universal_iff mark rest rest 0 letter).mpr ⟨rfl, rfl⟩
    | signed sign hours minutes mark hour minute =>
        rw [List.cons_append, List.append_assoc, List.cons_append]
        exact (signed_iff sign _ rest _ mark).mpr ⟨hours, minutes, rfl, hour, minute, rfl⟩

theorem strict_clock_taken (clock : ClockParts) (text rest : List Char) (scans : Scans strictClock text clock rest) :
    ∃ shown, text = shown ++ rest ∧ ClockText shown := by
  unfold strictClock at scans
  simp only [scans_bind_iff, literal_iff, numeral_iff _ _ _ _ _ _ (by decide : 2 ≤ 9), scans_pure_iff] at scans
  obtain ⟨_, _, ⟨hour, rfl, hours, rfl⟩, _, _, rfl, _, _, ⟨minute, rfl, minutes, rfl⟩, _, _, rfl, _, _,
    ⟨second, rfl, seconds, rfl⟩, nano, _, fraction, rfl, rfl⟩ := scans
  obtain ⟨shown, rfl, written⟩ := fraction_taken _ _ nano fraction
  refine ⟨hour ++ ':' :: (minute ++ ':' :: (second ++ shown)), ?_, hour, minute, second, shown, rfl, hours, minutes, seconds,
    written⟩
  simp only [List.append_assoc, List.cons_append]

theorem strict_clock_read (shown rest : List Char) (written : ClockText shown) (ends : Leaves Time.isDigit rest)
    (pointless : ∀ more, rest ≠ '.' :: more) : ∃ clock, Scans strictClock (shown ++ rest) clock rest := by
  obtain ⟨hour, minute, second, fraction, rfl, hours, minutes, seconds, written⟩ := written
  obtain ⟨nano, scanned⟩ := fraction_read fraction rest written ends pointless
  refine ⟨⟨digitsValue hour, digitsValue minute, digitsValue second, nano⟩, ?_⟩
  unfold strictClock
  simp only [scans_bind_iff, literal_iff, numeral_iff _ _ _ _ _ _ (by decide : 2 ≤ 9), scans_pure_iff, List.append_assoc,
    List.cons_append]
  exact ⟨_, _, ⟨hour, rfl, hours, rfl⟩, (), _, rfl, _, _, ⟨minute, rfl, minutes, rfl⟩, (), _, rfl, _, _,
    ⟨second, rfl, seconds, rfl⟩, nano, _, scanned, rfl, rfl⟩

theorem shift_start (zone rest : List Char) (total : Int) (shift : Shift zone total) :
    Leaves Time.isDigit (zone ++ rest) ∧ ∀ more, zone ++ rest ≠ '.' :: more := by
  have start (mark : Char) (tail : List Char) (known : mark ∈ ['Z', 'z', '+', '-', '\u2212']) :
      Leaves Time.isDigit (mark :: tail) ∧ ∀ more, mark :: tail ≠ '.' :: more := by
    simp only [List.mem_cons, List.not_mem_nil, or_false] at known
    rcases known with rfl | rfl | rfl | rfl | rfl <;> exact ⟨rfl, nofun⟩
  cases shift with
  | universal mark letter => exact start mark rest (List.mem_append_left ['+', '-', '\u2212'] letter)
  | signed sign hours minutes mark hour minute => exact start sign _ (List.mem_append_right ['Z', 'z'] mark)

theorem separator_iff (text rest : List Char) (u : Unit) :
    Scans separator text u rest ↔ ∃ mark ∈ ['T', 't', ' '], text = mark :: rest := by
  unfold separator
  simp only [scans_bind_iff, scans_get_iff]
  constructor
  · rintro ⟨_, _, ⟨rfl, rfl⟩, after⟩
    split at after
    · exact absurd after (scans_fail _ _ _ _)
    · rename_i mark tail
      by_cases known : mark = 'T' || mark = 't' || mark = ' '
      · rw [if_pos known, scans_set_iff] at after
        subst after
        exact ⟨mark, by simpa [or_assoc] using known, rfl⟩
      · rw [if_neg known] at after
        exact absurd after (scans_fail _ _ _ _)
  · rintro ⟨mark, known, rfl⟩
    refine ⟨_, _, ⟨rfl, rfl⟩, ?_⟩
    dsimp only
    rw [if_pos (by simpa [or_assoc] using known)]
    rfl

-- The day before and the day after are at most a year away.
theorem back_year (time : CivilTime) (minutes : Int) :
    time.year - 1 ≤ (time.back minutes).year ∧ (time.back minutes).year ≤ time.year + 1 := by
  have before : time.year - 1 ≤ time.previousDay.year ∧ time.previousDay.year ≤ time.year := by
    unfold CivilTime.previousDay
    split
    · exact ⟨by dsimp only; omega, Int.le_refl _⟩
    · split <;> dsimp only <;> omega
  have after : time.year ≤ time.nextDay.year ∧ time.nextDay.year ≤ time.year + 1 := by
    unfold CivilTime.nextDay
    split
    · exact ⟨Int.le_refl _, by dsimp only; omega⟩
    · split <;> dsimp only <;> omega
  unfold CivilTime.back
  dsimp only
  split
  · omega
  · split <;> omega

theorem at_offset_iff (time : CivilTime) (minutes : Int) (year : 0 ≤ time.year ∧ time.year ≤ 9999) :
    (∃ instant, atOffset time minutes = .ok instant) ↔ minutes.natAbs < 1440 := by
  have near := back_year time minutes
  have inRange : CivilTime.yearInRange (time.back minutes).year := by
    rw [CivilTime.yearInRange, Bool.and_eq_true, decide_eq_true_iff, decide_eq_true_iff]
    change -262143 ≤ (time.back minutes).year ∧ (time.back minutes).year ≤ 262142
    omega
  unfold atOffset
  by_cases far : 1440 ≤ minutes.natAbs
  · rw [if_pos far]
    constructor
    · rintro ⟨_, ⟨⟩⟩
    · exact fun small => absurd far (Nat.not_le.mpr small)
  · rw [if_neg far]
    dsimp only
    rw [if_pos inRange]
    exact ⟨fun _ => Nat.lt_of_not_le far, fun _ => ⟨_, rfl⟩⟩

theorem join_cases (date : DateParts) (clock : ClockParts) (year : 0 ≤ date.year ∧ date.year ≤ 9999) :
    (CivilTime.daysInMonth date.year date.month < date.day ∧ join date clock = .error .outOfRange) ∨
    (date.day ≤ CivilTime.daysInMonth date.year date.month ∧
      ∃ time, join date clock = .ok time ∧ time.year = date.year) := by
  have inRange : CivilTime.yearInRange date.year := by
    rw [CivilTime.yearInRange, Bool.and_eq_true, decide_eq_true_iff, decide_eq_true_iff]
    change -262143 ≤ date.year ∧ date.year ≤ 262142
    omega
  unfold join civil
  rw [inRange, Bool.not_true, Bool.false_or]
  by_cases late : CivilTime.daysInMonth date.year date.month < date.day
  · exact .inl ⟨late, if_pos (decide_eq_true late)⟩
  · refine .inr ⟨Nat.le_of_not_lt late, ?_⟩
    rw [if_neg (by simpa using Nat.le_of_not_lt late)]
    by_cases leap : clock.second = 60
    · exact ⟨_, if_pos leap, rfl⟩
    · exact ⟨_, if_neg leap, rfl⟩

theorem date_year (date : DateParts) (text : List Char) (written : DateText date text) :
    0 ≤ date.year ∧ date.year ≤ 9999 := by
  obtain ⟨year, _, _, _, years, _, _, rfl⟩ := written
  exact ⟨Int.natCast_nonneg _, Int.ofNat_le.mpr years.within.2⟩

theorem timestamp_read (text : String) : (∃ instant, Instant.parseStrict text = .ok instant) ↔ Timestamp text.toList := by
  unfold Instant.parseStrict
  constructor
  · rintro ⟨instant, read⟩
    obtain ⟨⟨⟨date, clock, minutes⟩, rest⟩, scanned, after⟩ := (bind_ok_iff _ _ _).mp read
    dsimp only at after
    change Scans _ _ _ _ at scanned
    simp only [scans_bind_iff, strict_date_iff, separator_iff, shift_iff, scans_pure_iff] at scanned
    obtain ⟨_, _, ⟨dateText, same, dates⟩, _, _, ⟨mark, marks, rfl⟩, _, _, clocked, _, _, ⟨zone, rfl, shift⟩, parts,
      rfl⟩ := scanned
    obtain ⟨rfl, rfl, rfl⟩ := parts
    obtain ⟨clockText, rfl, clocks⟩ := strict_clock_taken _ _ _ clocked
    split at after
    · rename_i ended
      obtain rfl := List.isEmpty_iff.mp ended
      rcases join_cases _ _ (date_year _ _ dates) with ⟨late, refused⟩ | ⟨day, time, joined, year⟩
      · rw [refused] at after
        exact nomatch after
      · rw [joined] at after
        rw [List.append_nil] at same
        refine ⟨dateText, mark, clockText, zone, _, _, same, dates, day, marks, clocks, shift, ?_⟩
        exact (at_offset_iff time _ (year ▸ date_year _ _ dates)).mp ⟨instant, after⟩
    · exact nomatch after
  · rintro ⟨dateText, mark, clockText, zone, date, minutes, same, dates, day, marks, clocks, shift, small⟩
    obtain ⟨ends, pointless⟩ := shift_start zone [] minutes shift
    obtain ⟨clock, clocked⟩ := strict_clock_read clockText (zone ++ []) clocks ends pointless
    have scanned : Scans (do
        let date ← strictDate
        separator
        let clock ← strictClock
        let minutes ← offset (literal ':')
        pure (date, clock, minutes)) text.toList (date, clock, minutes) [] := by
      rw [same, ← List.append_nil zone]
      simp only [scans_bind_iff, strict_date_iff, separator_iff, shift_iff, scans_pure_iff]
      exact ⟨_, _, ⟨dateText, rfl, dates⟩, (), _, ⟨mark, marks, rfl⟩, _, _, clocked, _, _, ⟨zone, rfl, shift⟩, rfl, rfl⟩
    rcases join_cases date clock (date_year _ _ dates) with ⟨late, _⟩ | ⟨_, time, joined, year⟩
    · exact absurd day (Nat.not_le.mpr late)
    · obtain ⟨instant, found⟩ := (at_offset_iff time minutes (year ▸ date_year _ _ dates)).mpr small
      unfold Scans at scanned
      refine ⟨instant, ?_⟩
      rw [scanned]
      change (join date clock >>= fun time => atOffset time minutes) = _
      rw [joined]
      exact found

end TypedQuery
