import TypedQuery.Json.Basic
import TypedQuery.Json.Fault

/-!
Numbers of JSON text. A decimal keeps as many leading digits as fit in 64 bits; its value is that
integer, rounded, multiplied or divided by a rounded power of ten.
-/

set_option autoImplicit false

namespace TypedQuery.Json

def wordLimit : Nat := Nat.pow 2 64

def digitValue (c : Char) : Nat := c.toNat - '0'.toNat

/-- Appends digits while the integer fits in 64 bits: the integer and the number of digits left
out. -/
def absorb (significand : Nat) : List Char → Nat × Nat
  | [] => (significand, 0)
  | c :: rest =>
      let next := significand * 10 + digitValue c
      if next < wordLimit then absorb next rest else (significand, rest.length + 1)

def powerOfTen (exponent : Nat) : Double := Double.ofRatio false (Nat.pow 10 exponent) 1

def scaled (negative : Bool) (significand : Nat) (exponent : Int) : Option Double :=
  let start := Double.ofRatio negative significand 1
  if significand = 0 then some start
  else if 308 < exponent then none
  else if 0 ≤ exponent then
    let product := start.mul (powerOfTen exponent.toNat)
    if product.isFinite then some product else none
  else if -308 ≤ exponent then some (start.div (powerOfTen (-exponent).toNat))
  else if -616 ≤ exponent then
    some ((start.div (powerOfTen 308)).div (powerOfTen (-exponent - 308).toNat))
  else some (Double.ofRatio negative 0 1)

structure Decimal where
  negative : Bool
  whole : List Char
  fraction : Option (List Char)
  exponent : Option (Bool × List Char)
deriving DecidableEq

def natOfDigits (digits : List Char) : Nat := digits.foldl (fun n c => n * 10 + digitValue c) 0

namespace Decimal

def exponentValue (number : Decimal) : Int :=
  match number.exponent with
  | none => 0
  | some (true, digits) => -(natOfDigits digits : Int)
  | some (false, digits) => natOfDigits digits

def value (number : Decimal) : Except Fault Json :=
  let (significand, dropped) := absorb 0 number.whole
  let real := fun (significand : Nat) (exponent : Int) =>
    match scaled number.negative significand (exponent + number.exponentValue) with
    | some x => Except.ok (Json.double x)
    | none => .error .numberOutOfRange
  match number.fraction with
  | some digits =>
      let (significand, left) := absorb significand digits
      real significand ((dropped : Int) - (digits.length - left : Nat))
  | none =>
      if number.exponent.isSome || dropped ≠ 0 then real significand dropped
      else if !number.negative then .ok (.int significand)
      else if significand = 0 ∨ Nat.pow 2 63 < significand then real significand 0
      else .ok (.int (-(significand : Int)))

end Decimal

end TypedQuery.Json
