import Mathlib.Algebra.Group.Nat.Defs
import TypedQuery.Proofs.Rendering
import TypedQuery.Time

/-!
Instants read back from their text. Each part of the text is a run of digits that the scan for it
takes up to the mark behind it, so the whole text gives the instant that it was written for.
-/

set_option autoImplicit false

namespace TypedQuery

open Time

-- A date of the calendar and a time of the day. Only the last second of a minute may be a leap second.
structure CivilTime.Valid (time : CivilTime) : Prop where
  month : 1 ≤ time.month ∧ time.month ≤ 12
  day : 1 ≤ time.day ∧ time.day ≤ CivilTime.daysInMonth time.year time.month
  hour : time.hour ≤ 23
  minute : time.minute ≤ 59
  second : time.second ≤ 59
  nano : time.nano < 10 ^ 9 ∨ time.second = 59 ∧ time.nano < 2 * 10 ^ 9

structure Instant.Plain (instant : Instant) : Prop where
  valid : instant.utc.Valid
  year : 0 ≤ instant.utc.year ∧ instant.utc.year ≤ 9999

def Scans {α : Type} (scan : Scan α) (text : List Char) (value : α) (rest : List Char) : Prop :=
  scan.run text = .ok (value, rest)

section

variable {α β : Type}

theorem scans_pure (value : α) (text : List Char) : Scans (pure value) text value text := rfl

theorem scans_get (text : List Char) : Scans get text text text := rfl

theorem scans_bind {scan : Scan α} {next : α → Scan β} {text middle rest : List Char} {value : α} {result : β}
    (first : Scans scan text value middle) (second : Scans (next value) middle result rest) :
    Scans (scan >>= next) text result rest := by
  unfold Scans at first second ⊢
  rw [StateT.run_bind, first]
  exact second

end

theorem digit_bounds (c : Char) : Time.isDigit c ↔ 48 ≤ c.toNat ∧ c.toNat ≤ 57 := by
  rw [Time.isDigit, Bool.and_eq_true, decide_eq_true_iff, decide_eq_true_iff]
  exact Iff.rfl

theorem digit_not_blank (c : Char) (digit : Time.isDigit c) : Text.isBlank c = false := by
  obtain ⟨low, high⟩ := (digit_bounds c).mp digit
  rw [Text.isBlank]
  generalize c.toNat = code at low high
  simp only [Text.within, Text.blankRanges, List.any_cons, List.any_nil, Bool.or_eq_false_iff, Bool.and_eq_false_iff,
    decide_eq_false_iff_not, and_true]
  omega

theorem digits_value (digits : List Char) (start : Nat) :
    digits.foldl (fun n c => n * 10 + (c.toNat - 48)) start = Nat.ofDigitChars 10 digits start := by
  induction digits generalizing start with
  | nil => rfl
  | cons c rest ih =>
      rw [List.foldl_cons, ih, Nat.ofDigitChars_cons, Nat.mul_comm]
      rfl

theorem pad_digit (width n : Nat) : ∀ c ∈ pad width n, Time.isDigit c := by
  intro c member
  rcases List.mem_append.mp member with zero | digit
  · obtain rfl := (List.mem_replicate.mp zero).2
    rfl
  · have digit : c.isDigit := Nat.isDigit_of_mem_toDigits (by decide) (by decide) digit
    simp only [Char.isDigit, Bool.and_eq_true, decide_eq_true_eq] at digit
    exact (digit_bounds c).mpr digit

theorem pad_length (width n : Nat) (positive : 0 < width) (small : n < 10 ^ width) : (pad width n).length = width := by
  have bound := (Nat.length_toDigits_le_iff (by decide) positive).mpr small
  rw [pad, List.length_append, List.length_replicate]
  omega

theorem pad_value (width n : Nat) : digitsValue (pad width n) = n := by
  rw [digitsValue, digits_value, pad, Nat.ofDigitChars_append, Nat.ofDigitChars_replicate_zero, Nat.mul_zero,
    Nat.ofDigitChars_ten_toDigits]

theorem take_digits (digits rest : List Char) (width : Nat) (inside : ∀ c ∈ digits, Time.isDigit c)
    (fits : digits.length ≤ width) (ends : Leaves Time.isDigit rest) :
    ((digits ++ rest).take width).takeWhile Time.isDigit = digits := by
  obtain ⟨more, rfl⟩ := Nat.exists_eq_add_of_le fits
  have stops : (rest.take more).takeWhile Time.isDigit = [] := by
    cases rest with
    | nil => rw [List.take_nil, List.takeWhile_nil]
    | cons c tail =>
        cases more with
        | zero => rfl
        | succ more => exact List.takeWhile_cons_of_neg (ne_true_of_eq_false ends)
  rw [List.take_length_add_append, List.takeWhile_append_of_pos inside, stops, List.append_nil]

theorem number_scans (least width : Nat) (digits rest : List Char) (inside : ∀ c ∈ digits, Time.isDigit c)
    (enough : least ≤ digits.length) (fits : digits.length ≤ width) (small : digitsValue digits < Nat.pow 2 63)
    (ends : Leaves Time.isDigit rest) : Scans (number least (some width)) (digits ++ rest) (digitsValue digits) rest := by
  have taken := take_digits digits rest width inside fits ends
  change (number least (some width)).run (digits ++ rest) = _
  simp only [number, Option.elim, StateT.run_bind, StateT.run_get, pure_bind, taken, if_neg (Nat.not_lt.mpr enough),
    if_neg (Nat.not_le.mpr small), List.drop_left]
  rfl

theorem padded_scans (least width n : Nat) (rest : List Char) (positive : 0 < width) (enough : least ≤ width)
    (narrow : width ≤ 9) (small : n < 10 ^ width) (ends : Leaves Time.isDigit rest) :
    Scans (number least (some width)) (pad width n ++ rest) n rest := by
  have length := pad_length width n positive small
  have value := pad_value width n
  have fits : n < Nat.pow 2 63 :=
    calc
      n < 10 ^ width := small
      _ ≤ 10 ^ 9 := Nat.pow_le_pow_right (by decide) narrow
      _ < Nat.pow 2 63 := by decide
  have scanned := number_scans least width (pad width n) rest (pad_digit width n) (by omega) (by omega) (by omega) ends
  rwa [value] at scanned

theorem pad_head (width n : Nat) : ∃ c more, pad width n = c :: more ∧ Time.isDigit c := by
  cases same : pad width n with
  | nil => exact absurd (List.append_eq_nil_iff.mp same).2 Nat.toDigits_ne_nil
  | cons c more => exact ⟨c, more, rfl, pad_digit width n c (same ▸ List.mem_cons_self)⟩

theorem blank_scans (text : List Char) (ends : Leaves Text.isBlank text) : Scans skipBlank text () text := by
  have kept : Text.trimLeft text = text := by
    cases text with
    | nil => rfl
    | cons c rest => exact List.dropWhile_cons_of_neg (ne_true_of_eq_false ends)
  change Except.ok ((), Text.trimLeft text) = _
  rw [kept]

theorem padded_not_blank (width n : Nat) (rest : List Char) : Leaves Text.isBlank (pad width n ++ rest) := by
  obtain ⟨c, more, same, digit⟩ := pad_head width n
  rw [same]
  exact digit_not_blank c digit

theorem literal_scans (c : Char) (rest : List Char) : Scans (literal c) (c :: rest) () rest := by
  change (if c = c then (set rest : Scan Unit) else fail .invalid).run (c :: rest) = _
  rw [if_pos rfl]
  rfl

theorem ranged_scans (low high n : Nat) (scan : Scan Nat) (text rest : List Char) (within : low ≤ n ∧ n ≤ high)
    (scans : Scans scan text n rest) : Scans (ranged low high scan) text n rest := by
  refine scans_bind scans ?_
  rw [if_pos within]
  exact scans_pure n rest

theorem two_digits_scan (n : Nat) (rest : List Char) (small : n ≤ 99) (ends : Leaves Time.isDigit rest) :
    Scans twoDigits (pad 2 n ++ rest) n rest :=
  scans_bind (blank_scans _ (padded_not_blank 2 n rest))
    (padded_scans 1 2 n rest (by decide) (by decide) (by decide) (by omega) ends)

theorem year_scans (y : Nat) (rest : List Char) (small : y ≤ 9999) (ends : Leaves Time.isDigit rest) :
    Scans year (pad 4 y ++ rest) (y : Int) rest := by
  have digits := padded_scans 1 4 y rest (by decide) (by decide) (by decide) (by omega) ends
  have inRange : -(Nat.pow 2 31 : Int) ≤ (y : Int) ∧ (y : Int) < Nat.pow 2 31 := by
    change -2147483648 ≤ (y : Int) ∧ (y : Int) < 2147483648
    omega
  obtain ⟨c, more, same, digit⟩ := pad_head 4 y
  refine scans_bind (blank_scans _ (padded_not_blank 4 y rest)) (scans_bind (scans_get _) ?_)
  rw [same] at digits ⊢
  dsimp only [List.cons_append] at digits ⊢
  split
  · rename_i sign
    obtain rfl := (List.cons.inj sign).1
    exact nomatch digit
  · rename_i sign
    obtain rfl := (List.cons.inj sign).1
    exact nomatch digit
  · refine scans_bind digits (scans_bind (scans_pure _ _) ?_)
    rw [if_pos inRange]
    exact scans_pure _ _

theorem separator_scans (rest : List Char) : Scans separator ('T' :: rest) () rest := rfl

theorem date_scans (y month day : Nat) (rest : List Char) (year : y ≤ 9999) (months : 1 ≤ month ∧ month ≤ 12)
    (days : 1 ≤ day ∧ day ≤ 31) (ends : Leaves Time.isDigit rest) :
    Scans looseDate (pad 4 y ++ '-' :: (pad 2 month ++ '-' :: (pad 2 day ++ rest))) ⟨y, month, day⟩ rest := by
  refine scans_bind (year_scans y _ year rfl) ?_
  refine scans_bind (blank_scans _ rfl) (scans_bind (literal_scans '-' _) ?_)
  refine scans_bind (ranged_scans 1 12 month _ _ _ months (two_digits_scan month _ (by omega) rfl)) ?_
  refine scans_bind (blank_scans _ rfl) (scans_bind (literal_scans '-' _) ?_)
  exact scans_bind (ranged_scans 1 31 day _ _ _ days (two_digits_scan day rest (by omega) ends)) (scans_pure _ _)

theorem places_scan (places n : Nat) (rest : List Char) (positive : 0 < places) (within : places ≤ 9) (small : n < 10 ^ places)
    (ends : Leaves Time.isDigit rest) :
    Scans fraction ('.' :: (pad places n ++ rest)) (n * Nat.pow 10 (9 - places)) rest := by
  have length := pad_length places n positive small
  have value := pad_value places n
  have fits : n < Nat.pow 2 63 :=
    calc
      n < 10 ^ places := small
      _ ≤ 10 ^ 9 := Nat.pow_le_pow_right (by decide) within
      _ < Nat.pow 2 63 := by decide
  have digits := number_scans 1 9 (pad places n) rest (pad_digit places n) (by omega) (by omega) (by omega) ends
  have dropped : rest.dropWhile Time.isDigit = rest := by
    cases rest with
    | nil => rfl
    | cons c more => exact List.dropWhile_cons_of_neg (ne_true_of_eq_false ends)
  have taken : (pad places n ++ rest).length - rest.length = places := by
    rw [List.length_append, Nat.add_sub_cancel, length]
  rw [value] at digits
  have opened : Scans (set (pad places n ++ rest)) ('.' :: (pad places n ++ rest)) PUnit.unit (pad places n ++ rest) := rfl
  have skipped : Scans (modify fun text : List Char => text.dropWhile Time.isDigit) rest PUnit.unit rest :=
    congrArg (fun text => Except.ok (PUnit.unit, text)) dropped
  refine scans_bind (scans_get _) (scans_bind opened (scans_bind digits (scans_bind (scans_get rest) (scans_bind skipped ?_))))
  rw [taken]
  exact scans_pure _ _

theorem fraction_scans (nano : Nat) (rest : List Char) (small : nano < 10 ^ 9) (ends : Leaves Time.isDigit rest)
    (pointless : ∀ more, rest ≠ '.' :: more) : Scans fraction (fractionText nano ++ rest) nano rest := by
  unfold fractionText
  by_cases whole : nano = 0
  · subst whole
    rw [if_pos rfl, List.nil_append]
    refine scans_bind (scans_get _) ?_
    split
    · exact absurd rfl (pointless _)
    · exact scans_pure _ _
  · by_cases millis : nano % 1000000 = 0
    · have places := places_scan 3 (nano / 1000000) rest (by decide) (by decide) (by omega) ends
      rw [show nano / 1000000 * Nat.pow 10 (9 - 3) = nano from Nat.div_mul_cancel (Nat.dvd_of_mod_eq_zero millis)] at places
      rwa [if_neg whole, if_pos millis]
    · by_cases micros : nano % 1000 = 0
      · have places := places_scan 6 (nano / 1000) rest (by decide) (by decide) (by omega) ends
        rw [show nano / 1000 * Nat.pow 10 (9 - 6) = nano from Nat.div_mul_cancel (Nat.dvd_of_mod_eq_zero micros)] at places
        rwa [if_neg whole, if_neg millis, if_pos micros]
      · have places := places_scan 9 nano rest (by decide) (by decide) small ends
        rw [show nano * Nat.pow 10 (9 - 9) = nano from Nat.mul_one nano] at places
        rwa [if_neg whole, if_neg millis, if_neg micros]

theorem fraction_start (nano : Nat) (rest : List Char) (ends : Leaves Time.isDigit rest) :
    Leaves Time.isDigit (fractionText nano ++ rest) := by
  unfold fractionText
  by_cases whole : nano = 0
  · rwa [if_pos whole]
  · rw [if_neg whole]
    by_cases millis : nano % 1000000 = 0
    · rw [if_pos millis]
      rfl
    · rw [if_neg millis]
      by_cases micros : nano % 1000 = 0
      · rw [if_pos micros]
        rfl
      · rw [if_neg micros]
        rfl

theorem clock_scans (hour minute second nano : Nat) (rest : List Char) (hours : hour ≤ 23) (minutes : minute ≤ 59)
    (seconds : second ≤ 60) (nanos : nano < 10 ^ 9) (ends : Leaves Time.isDigit rest) (pointless : ∀ more, rest ≠ '.' :: more)
    (shown : Leaves Text.isBlank rest) :
    Scans looseClock
      (pad 2 hour ++ ':' :: (pad 2 minute ++ ':' :: (pad 2 second ++ (fractionText nano ++ rest))))
      ⟨hour, minute, second, nano⟩ rest := by
  refine scans_bind (ranged_scans 0 23 hour _ _ _ ⟨hour.zero_le, hours⟩ (two_digits_scan hour _ (by omega) rfl)) ?_
  refine scans_bind (blank_scans _ rfl) (scans_bind (literal_scans ':' _) ?_)
  refine scans_bind (ranged_scans 0 59 minute _ _ _ ⟨minute.zero_le, minutes⟩ (two_digits_scan minute _ (by omega) rfl)) ?_
  refine scans_bind (blank_scans _ rfl) (scans_bind (literal_scans ':' _) ?_)
  refine scans_bind (ranged_scans 0 60 second _ _ _ ⟨second.zero_le, seconds⟩
    (two_digits_scan second _ (by omega) (fraction_start nano rest ends))) ?_
  exact scans_bind (fraction_scans nano rest nanos ends pointless) (scans_bind (blank_scans rest shown) (scans_pure _ _))

theorem universal_scans : Scans looseOffset ['Z'] 0 [] := rfl

def CivilTime.shownSecond (time : CivilTime) : Nat := if Nat.pow 10 9 ≤ time.nano then time.second + 1 else time.second

def CivilTime.shownNano (time : CivilTime) : Nat :=
  if Nat.pow 10 9 ≤ time.nano then time.nano - Nat.pow 10 9 else time.nano

theorem civil_shown (time : CivilTime) (valid : time.Valid) (year : CivilTime.yearInRange time.year) :
    civil time.year time.month time.day time.hour time.minute time.shownSecond time.shownNano = .ok time := by
  have days : ¬ CivilTime.daysInMonth time.year time.month < time.day := Nat.not_lt.mpr valid.day.2
  have second := valid.second
  unfold civil CivilTime.shownSecond CivilTime.shownNano
  simp only [year, days, Bool.not_true, decide_false, Bool.or_self, Bool.false_eq_true, if_false]
  by_cases leap : Nat.pow 10 9 ≤ time.nano
  · have last : time.second = 59 := by
      rcases valid.nano with early | late
      · exact absurd early (Nat.not_lt.mpr leap)
      · exact late.1
    rw [if_pos leap, if_pos leap, last, if_pos rfl, Nat.sub_add_cancel leap, ← last]
  · rw [if_neg leap, if_neg leap, if_neg (by omega)]

theorem back_nowhere (time : CivilTime) (valid : time.Valid) : time.back 0 = time := by
  have hour := valid.hour
  have minute := valid.minute
  have clock : ((time.hour : Int) * 60 + time.minute - 0) % 1440 = ((time.hour * 60 + time.minute : Nat) : Int) := by omega
  have early : ¬ (time.hour : Int) * 60 + time.minute - 0 < 0 := by omega
  have late : ¬ 1440 ≤ (time.hour : Int) * 60 + time.minute - 0 := by omega
  unfold CivilTime.back
  simp only [if_neg early, if_neg late, clock, Int.toNat_natCast]
  rw [show (time.hour * 60 + time.minute) / 60 = time.hour by omega,
    show (time.hour * 60 + time.minute) % 60 = time.minute by omega]

theorem at_universal (time : CivilTime) (valid : time.Valid) (year : CivilTime.yearInRange time.year) :
    atOffset time 0 = .ok ⟨time⟩ := by
  rw [atOffset, if_neg (by decide)]
  dsimp only
  rw [back_nowhere time valid, if_pos year]

theorem shown_bounds (time : CivilTime) (valid : time.Valid) : time.shownSecond ≤ 60 ∧ time.shownNano < 10 ^ 9 := by
  have second := valid.second
  unfold CivilTime.shownSecond CivilTime.shownNano
  by_cases leap : Nat.pow 10 9 ≤ time.nano
  · rw [if_pos leap, if_pos leap]
    refine ⟨by omega, ?_⟩
    rcases valid.nano with early | late
    · exact absurd early (Nat.not_lt.mpr leap)
    · rw [show Nat.pow 10 9 = 10 ^ 9 from rfl]
      omega
  · rw [if_neg leap, if_neg leap]
    exact ⟨by omega, Nat.not_le.mp leap⟩

theorem days_within (year : Int) (month : Nat) : CivilTime.daysInMonth year month ≤ 31 := by
  unfold CivilTime.daysInMonth
  split
  · split <;> decide
  · split <;> decide

theorem plain_chars (instant : Instant) (y : Nat) (year : instant.utc.year = y) (four : y ≤ 9999) :
    instant.text.toList =
      pad 4 y ++ '-' :: (pad 2 instant.utc.month ++ '-' :: (pad 2 instant.utc.day ++ 'T' ::
        (pad 2 instant.utc.hour ++ ':' :: (pad 2 instant.utc.minute ++ ':' ::
          (pad 2 instant.utc.shownSecond ++ (fractionText instant.utc.shownNano ++ ['Z'])))))) := by
  have signless : yearText instant.utc.year = pad 4 y := by
    rw [yearText, year, if_pos (by omega), Int.toNat_natCast]
  rw [Instant.text, String.toList_ofList, CivilTime.chars, signless]
  simp only [List.append_assoc, List.cons_append, List.nil_append]
  rfl

theorem instant_read (instant : Instant) (plain : instant.Plain) : Instant.parse instant.text = .ok instant := by
  obtain ⟨valid, nonnegative, four⟩ := plain
  obtain ⟨y, year⟩ := Int.eq_ofNat_of_zero_le nonnegative
  have inRange : CivilTime.yearInRange instant.utc.year := by
    rw [CivilTime.yearInRange, Bool.and_eq_true, decide_eq_true_iff, decide_eq_true_iff]
    change -262143 ≤ instant.utc.year ∧ instant.utc.year ≤ 262142
    omega
  obtain ⟨seconds, nanos⟩ := shown_bounds instant.utc valid
  have days := Nat.le_trans valid.day.2 (days_within instant.utc.year instant.utc.month)
  have date := date_scans y instant.utc.month instant.utc.day
    ('T' :: (pad 2 instant.utc.hour ++ ':' :: (pad 2 instant.utc.minute ++ ':' ::
      (pad 2 instant.utc.shownSecond ++ (fractionText instant.utc.shownNano ++ ['Z'])))))
    (by omega) valid.month ⟨valid.day.1, days⟩ rfl
  have clock := clock_scans instant.utc.hour instant.utc.minute instant.utc.shownSecond instant.utc.shownNano ['Z']
    valid.hour valid.minute seconds nanos rfl nofun rfl
  rw [← plain_chars instant y year (by omega), ← year] at date
  have scanned : Scans (do
      let date ← looseDate
      separator
      let clock ← looseClock
      let minutes ← looseOffset
      pure (date, clock, minutes)) instant.text.toList
      (⟨instant.utc.year, instant.utc.month, instant.utc.day⟩,
        ⟨instant.utc.hour, instant.utc.minute, instant.utc.shownSecond, instant.utc.shownNano⟩, 0) [] :=
    scans_bind date (scans_bind (separator_scans _) (scans_bind clock (scans_bind universal_scans (scans_pure _ []))))
  have joined : join ⟨instant.utc.year, instant.utc.month, instant.utc.day⟩
      ⟨instant.utc.hour, instant.utc.minute, instant.utc.shownSecond, instant.utc.shownNano⟩ = .ok instant.utc :=
    civil_shown instant.utc valid inRange
  unfold Scans at scanned
  unfold Instant.parse
  rw [scanned]
  change (join _ _ >>= fun time => atOffset time 0) = _
  rw [joined]
  exact at_universal instant.utc valid inRange

end TypedQuery
