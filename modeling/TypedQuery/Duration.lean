/-!
Spans of time, to the nanosecond. Their seconds are a number of 64 bits.
-/

set_option autoImplicit false

namespace TypedQuery

def nanosPerSecond : Nat := 1000000000

structure Duration where
  nanos : Nat
  short : nanos < UInt64.size * nanosPerSecond
deriving DecidableEq, Repr

namespace Duration

def zero : Duration := ⟨0, by decide⟩

def ofSeconds (seconds : UInt64) : Duration :=
  ⟨seconds.toNat * nanosPerSecond, Nat.mul_lt_mul_of_pos_right seconds.toNat_lt (by decide)⟩

def ofMillis (millis : UInt64) : Duration :=
  ⟨millis.toNat * 1000000, Nat.mul_lt_mul'' millis.toNat_lt (by decide)⟩

def fraction (rest width : Nat) : String :=
  let digits := Nat.toDigits 10 rest
  let padded := List.replicate (width - digits.length) '0' ++ digits
  if rest = 0 then "" else String.ofList ('.' :: (padded.reverse.dropWhile (· = '0')).reverse)

def text (duration : Duration) : String :=
  let nanos := duration.nanos
  if nanosPerSecond ≤ nanos then s!"{nanos / nanosPerSecond}" ++ fraction (nanos % nanosPerSecond) 9 ++ "s"
  else if 1000000 ≤ nanos then s!"{nanos / 1000000}" ++ fraction (nanos % 1000000) 6 ++ "ms"
  else if 1000 ≤ nanos then s!"{nanos / 1000}" ++ fraction (nanos % 1000) 3 ++ "µs"
  else s!"{nanos}ns"

end Duration

end TypedQuery
