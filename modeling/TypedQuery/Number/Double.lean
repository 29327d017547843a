/-!
Binary floating-point numbers, held by their bits, with exact rounding over the natural numbers.
`Double.ofRatio` is the double nearest to a fraction; `mul` and `div` are that rounding applied to
the exact product and quotient, so every operation here is a statement about integers.
-/

set_option autoImplicit false

namespace TypedQuery

/-- A binary64 number. Two doubles are the same when their bits are, so `0.0` and `-0.0` differ. -/
structure Double where
  bits : UInt64
deriving DecidableEq, Repr, Inhabited

structure BinaryFormat where
  precision : Nat
  lowest : Int
  exponents : Nat

namespace BinaryFormat

def binary64 : BinaryFormat := ⟨53, -1074, 2047⟩
def binary32 : BinaryFormat := ⟨24, -149, 255⟩

def roundDiv (num den : Nat) : Nat :=
  let quotient := num / den
  let rest := num % den
  if 2 * rest < den then quotient
  else if den < 2 * rest then quotient + 1
  else if quotient % 2 = 0 then quotient else quotient + 1

def place (format : BinaryFormat) (num den : Nat) : Int :=
  let guess : Int := (num.log2 : Int) - den.log2
  let reached :=
    if 0 ≤ guess then den * Nat.pow 2 guess.toNat ≤ num else den ≤ num * Nat.pow 2 (-guess).toNat
  let floorLog := if reached then guess else guess - 1
  max (floorLog - format.precision + 1) format.lowest

/-- The magnitude of the nearest number of the format as its place in the order of the format's
numbers: the bit pattern without the sign. -/
def encodeRatio (format : BinaryFormat) (num den : Nat) : Nat :=
  if num = 0 then 0
  else
    let q := format.place num den
    let significand :=
      if 0 ≤ q then roundDiv num (den * Nat.pow 2 q.toNat)
      else roundDiv (num * Nat.pow 2 (-q).toNat) den
    let unit := Nat.pow 2 (format.precision - 1)
    min ((q - format.lowest).toNat * unit + significand) (format.exponents * unit)

def decodeMagnitude (format : BinaryFormat) (pattern : Nat) : Option (Nat × Int) :=
  let unit := Nat.pow 2 (format.precision - 1)
  let exponent := pattern / unit
  if format.exponents ≤ exponent then none
  else if exponent = 0 then some (pattern, format.lowest)
  else some (unit + pattern % unit, format.lowest + exponent - 1)

end BinaryFormat

namespace Double

def signBit : Nat := Nat.pow 2 63
def infinityPattern : Nat := 2047 * Nat.pow 2 52

def ofPattern (negative : Bool) (pattern : Nat) : Double :=
  ⟨UInt64.ofNat (pattern + if negative then signBit else 0)⟩

def isNegative (x : Double) : Bool := signBit ≤ x.bits.toNat
def magnitude (x : Double) : Nat := x.bits.toNat % signBit
def isNaN (x : Double) : Bool := infinityPattern < x.magnitude
def isFinite (x : Double) : Bool := x.magnitude < infinityPattern

def nan : Double := ofPattern false (infinityPattern + Nat.pow 2 51)
def infinity (negative : Bool) : Double := ofPattern negative infinityPattern

def ofRatio (negative : Bool) (num den : Nat) : Double :=
  ofPattern negative (BinaryFormat.binary64.encodeRatio num den)

def ofInt (n : Int) : Double := ofRatio (n < 0) n.natAbs 1

def parts? (x : Double) : Option (Nat × Int) := BinaryFormat.binary64.decodeMagnitude x.magnitude

def fraction (m : Nat) (q : Int) : Nat × Nat :=
  if 0 ≤ q then (m * Nat.pow 2 q.toNat, 1) else (m, Nat.pow 2 (-q).toNat)

def ratio (x : Double) : Nat × Nat :=
  match x.parts? with
  | some (m, q) => fraction m q
  | none => (0, 1)

def mul (x y : Double) : Double :=
  let (a, b) := x.ratio
  let (c, d) := y.ratio
  ofRatio (x.isNegative != y.isNegative) (a * c) (b * d)

def div (x y : Double) : Double :=
  let (a, b) := x.ratio
  let (c, d) := y.ratio
  ofRatio x.isNegative (a * d) (b * c)

def ofSinglePattern (negative : Bool) (pattern : Nat) : Double :=
  match BinaryFormat.binary32.decodeMagnitude pattern with
  | some (m, q) => let (num, den) := fraction m q; ofRatio negative num den
  | none => infinity negative

def singleOfInt (n : Int) : Double :=
  ofSinglePattern (n < 0) (BinaryFormat.binary32.encodeRatio n.natAbs 1)

def toSingle (x : Double) : Double :=
  if x.isFinite then
    let (num, den) := x.ratio
    ofSinglePattern x.isNegative (BinaryFormat.binary32.encodeRatio num den)
  else x

end Double

end TypedQuery
