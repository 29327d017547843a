import TypedQuery.Text.Blank

/-!
Dates with a time of day, read and written as RFC 3339 text. `Instant.parse` is lenient about blanks
and separators, `Instant.parseStrict` is not; `CivilTime.parse` reads a time without an offset.
-/

set_option autoImplicit false

namespace TypedQuery

/-- A date and a time of day in the proleptic Gregorian calendar. A leap second has `second = 59`
and a `nano` from `10^9` on. -/
structure CivilTime where
  year : Int
  month : Nat
  day : Nat
  hour : Nat
  minute : Nat
  second : Nat
  nano : Nat
deriving DecidableEq, Repr

structure Instant where
  utc : CivilTime
deriving DecidableEq, Repr

inductive TimeFault where
  | invalid
  | outOfRange
  | tooShort
  | trailing
  | impossible
deriving DecidableEq, Repr

def TimeFault.message : TimeFault → String
  | .invalid => "input contains invalid characters"
  | .outOfRange => "input is out of range"
  | .tooShort => "premature end of input"
  | .trailing => "trailing input"
  | .impossible => "no possible date and time matching input"

namespace CivilTime

def isLeapYear (year : Int) : Bool := year % 4 = 0 && (year % 100 != 0 || year % 400 = 0)

def daysInMonth (year : Int) (month : Nat) : Nat :=
  if month = 2 then if isLeapYear year then 29 else 28
  else if month = 4 ∨ month = 6 ∨ month = 9 ∨ month = 11 then 30 else 31

def lowestYear : Int := -262143
def highestYear : Int := 262142

def yearInRange (year : Int) : Bool := lowestYear ≤ year && year ≤ highestYear

def previousDay (time : CivilTime) : CivilTime :=
  if 1 < time.day then { time with day := time.day - 1 }
  else if 1 < time.month then
    { time with month := time.month - 1, day := daysInMonth time.year (time.month - 1) }
  else { time with year := time.year - 1, month := 12, day := 31 }

def nextDay (time : CivilTime) : CivilTime :=
  if time.day < daysInMonth time.year time.month then { time with day := time.day + 1 }
  else if time.month < 12 then { time with month := time.month + 1, day := 1 }
  else { time with year := time.year + 1, month := 1, day := 1 }

def back (time : CivilTime) (minutes : Int) : CivilTime :=
  let clock : Int := time.hour * 60 + time.minute - minutes
  let moved := if clock < 0 then time.previousDay else if 1440 ≤ clock then time.nextDay else time
  let inDay := (clock % 1440).toNat
  { moved with hour := inDay / 60, minute := inDay % 60 }

end CivilTime

namespace Time

abbrev Scan := StateT (List Char) (Except TimeFault)

def fail {α : Type} (fault : TimeFault) : Scan α := throw fault

def skipBlank : Scan Unit := modify Text.trimLeft

def isDigit (c : Char) : Bool := '0' ≤ c && c ≤ '9'

def digitsValue (digits : List Char) : Nat := digits.foldl (fun n c => n * 10 + (c.toNat - 48)) 0

/-- At most `most` digits, at least `least`; the value must fit in 63 bits. -/
def number (least : Nat) (most : Option Nat) : Scan Nat := do
  let text ← get
  let digits := (most.elim text text.take).takeWhile isDigit
  if digits.length < least then
    fail (if text.length < least then .tooShort else .invalid)
  else if Nat.pow 2 63 ≤ digitsValue digits then fail .outOfRange
  else
    set (text.drop digits.length)
    pure (digitsValue digits)

def literal (c : Char) : Scan Unit := do
  match ← get with
  | [] => fail .tooShort
  | first :: rest => if first = c then set rest else fail .invalid

def ranged (low high : Nat) (scan : Scan Nat) : Scan Nat := do
  let n ← scan
  if low ≤ n ∧ n ≤ high then pure n else fail .outOfRange

def year : Scan Int := do
  skipBlank
  let value : Int ← match ← get with
    | '-' :: rest => do set rest; let n ← number 1 none; pure (-(n : Int))
    | '+' :: rest => do set rest; let n ← number 1 none; pure (n : Int)
    | _ => do let n ← number 1 (some 4); pure (n : Int)
  if -(Nat.pow 2 31 : Int) ≤ value ∧ value < Nat.pow 2 31 then pure value else fail .outOfRange

def twoDigits : Scan Nat := do skipBlank; number 1 (some 2)

def fraction : Scan Nat := do
  match ← get with
  | '.' :: rest =>
      set rest
      let before := rest.length
      let value ← number 1 (some 9)
      let taken := before - (← get).length
      modify (·.dropWhile isDigit)
      pure (value * Nat.pow 10 (9 - taken))
  | _ => pure 0

def civil (year : Int) (month day hour minute second nano : Nat) : Except TimeFault CivilTime :=
  if !CivilTime.yearInRange year || CivilTime.daysInMonth year month < day then .error .outOfRange
  else if second = 60 then .ok ⟨year, month, day, hour, minute, 59, nano + Nat.pow 10 9⟩
  else .ok ⟨year, month, day, hour, minute, second, nano⟩

def separator : Scan Unit := do
  match ← get with
  | [] => fail .tooShort
  | c :: rest => if c = 'T' || c = 't' || c = ' ' then set rest else fail .invalid

def pair : Scan (Nat × Nat) := do
  match ← get with
  | [] => fail .tooShort
  | [c] => fail (if c.utf8Size = 1 then .tooShort else .invalid)
  | c :: d :: rest =>
      if isDigit c && isDigit d then do set rest; pure (c.toNat - 48, d.toNat - 48)
      else fail .invalid

def offset (colon : Scan Unit) : Scan Int := do
  match ← get with
  | [] => fail .tooShort
  | sign :: rest =>
      if sign = 'Z' || sign = 'z' then do set rest; pure 0
      else if sign = '+' || sign = '-' || sign = '\u2212' then do
        set rest
        let (h, h') ← pair
        colon
        let (m, m') ← pair
        if 5 < m then fail .outOfRange
        else
          let minutes : Int := (h * 10 + h') * 60 + m * 10 + m'
          pure (if sign = '+' then minutes else -minutes)
      else fail .invalid

def looseColon : Scan Unit := modify (·.dropWhile fun c => c = ':' || Text.isBlank c)

structure DateParts where
  year : Int
  month : Nat
  day : Nat

structure ClockParts where
  hour : Nat
  minute : Nat
  second : Nat
  nano : Nat

def looseDate : Scan DateParts := do
  let y ← year
  skipBlank; literal '-'
  let month ← ranged 1 12 twoDigits
  skipBlank; literal '-'
  let day ← ranged 1 31 twoDigits
  pure ⟨y, month, day⟩

def looseClock : Scan ClockParts := do
  let hour ← ranged 0 23 twoDigits
  skipBlank; literal ':'
  let minute ← ranged 0 59 twoDigits
  skipBlank; literal ':'
  let second ← ranged 0 60 twoDigits
  let nano ← fraction
  skipBlank
  pure ⟨hour, minute, second, nano⟩

def strictDate : Scan DateParts := do
  let y ← number 4 (some 4)
  literal '-'
  let month ← ranged 1 12 (number 2 (some 2))
  literal '-'
  let day ← ranged 1 31 (number 2 (some 2))
  pure ⟨y, month, day⟩

def strictClock : Scan ClockParts := do
  let hour ← ranged 0 23 (number 2 (some 2))
  literal ':'
  let minute ← ranged 0 59 (number 2 (some 2))
  literal ':'
  let second ← ranged 0 60 (number 2 (some 2))
  let nano ← fraction
  pure ⟨hour, minute, second, nano⟩

def join (date : DateParts) (clock : ClockParts) : Except TimeFault CivilTime :=
  civil date.year date.month date.day clock.hour clock.minute clock.second clock.nano

def atOffset (time : CivilTime) (minutes : Int) : Except TimeFault Instant :=
  if 1440 ≤ minutes.natAbs then .error .outOfRange
  else
    let utc := time.back minutes
    if CivilTime.yearInRange utc.year then .ok ⟨utc⟩ else .error .impossible

def looseOffset : Scan Int := do
  let text ← get
  if (text.take 3).map Char.toUpper = ['U', 'T', 'C'] then do set (text.drop 3); pure 0
  else offset looseColon

def pad (width n : Nat) : List Char :=
  let digits := Nat.toDigits 10 n
  List.replicate (width - digits.length) '0' ++ digits

def yearText (year : Int) : List Char :=
  if 0 ≤ year ∧ year ≤ 9999 then pad 4 year.toNat
  else (if year < 0 then '-' else '+') :: pad 4 year.natAbs

def fractionText (nano : Nat) : List Char :=
  if nano = 0 then []
  else if nano % 1000000 = 0 then '.' :: pad 3 (nano / 1000000)
  else if nano % 1000 = 0 then '.' :: pad 6 (nano / 1000)
  else '.' :: pad 9 nano

end Time

namespace CivilTime

open Time

def chars (time : CivilTime) : List Char :=
  let isLeap := Nat.pow 10 9 ≤ time.nano
  yearText time.year ++ ['-'] ++ pad 2 time.month ++ ['-'] ++ pad 2 time.day ++ ['T'] ++
    pad 2 time.hour ++ [':'] ++ pad 2 time.minute ++ [':'] ++
    pad 2 (if isLeap then time.second + 1 else time.second) ++
    fractionText (if isLeap then time.nano - Nat.pow 10 9 else time.nano)

def text (time : CivilTime) : String := String.ofList time.chars

def parse (text : String) : Except TimeFault CivilTime := do
  let ((date, clock), rest) ← (do
    let date ← looseDate
    skipBlank
    literal 'T'
    let clock ← looseClock
    pure (date, clock) : Scan (DateParts × ClockParts)).run text.toList
  if rest.isEmpty then join date clock else .error .trailing

end CivilTime

namespace Instant

open Time

def text (instant : Instant) : String := String.ofList (instant.utc.chars ++ ['Z'])

def parse (text : String) : Except TimeFault Instant := do
  let ((date, clock, minutes), rest) ← (do
    let date ← looseDate
    separator
    let clock ← looseClock
    let minutes ← looseOffset
    pure (date, clock, minutes) : Scan (DateParts × ClockParts × Int)).run text.toList
  if (Text.trimLeft rest).isEmpty then do atOffset (← join date clock) minutes
  else .error .trailing

def parseStrict (text : String) : Except TimeFault Instant := do
  let ((date, clock, minutes), rest) ← (do
    let date ← strictDate
    separator
    let clock ← strictClock
    let minutes ← offset (literal ':')
    pure (date, clock, minutes) : Scan (DateParts × ClockParts × Int)).run text.toList
  if rest.isEmpty then do atOffset (← join date clock) minutes
  else .error .trailing

end Instant

end TypedQuery
