import TypedQuery.Number.Double

/-!
The shortest decimal text of a double: the fewest digits that read back as it, and of those the
nearest to it. `DecimalStyle` holds where positional notation ends.
-/

set_option autoImplicit false

namespace TypedQuery

namespace Double

def decimalLength (n : Nat) : Nat := if n = 0 then 0 else (Nat.toDigits 10 n).length

def decimalExponent (num den : Nat) : Int :=
  if den ≤ num then (decimalLength (num / den) : Int) - 1
  else -(decimalLength ((den + num - 1) / num - 1) : Int)

/-- The interval of reals that round to `m * 2 ^ q`, scaled by the common denominator that comes
last: below, value, above. Its ends belong to it iff `m` is even. -/
def roundingInterval (m : Nat) (q : Int) : Nat × Nat × Nat × Nat :=
  let below := if m = Nat.pow 2 52 ∧ BinaryFormat.binary64.lowest < q then 4 * m - 1 else 4 * m - 2
  let scale := q - 2
  if 0 ≤ scale then
    let unit := Nat.pow 2 scale.toNat
    (below * unit, 4 * m * unit, (4 * m + 2) * unit, 1)
  else (below, 4 * m, 4 * m + 2, Nat.pow 2 (-scale).toNat)

def shortestOn (m : Nat) (q : Int) : List Int → Nat × Int
  | [] => (0, 0)
  | place :: finer =>
      let (below, value, above, den) := roundingInterval m q
      let (num, step) :=
        if 0 ≤ place then (value, den * Nat.pow 10 place.toNat)
        else (value * Nat.pow 10 (-place).toNat, den)
      let scaled := fun (n : Nat) => if 0 ≤ place then n else n * Nat.pow 10 (-place).toNat
      let inside := fun (digits : Nat) =>
        let x := digits * step
        if m % 2 = 0 then scaled below ≤ x ∧ x ≤ scaled above
        else scaled below < x ∧ x < scaled above
      let nearest := BinaryFormat.roundDiv num step
      let other := if nearest * step ≤ num then nearest + 1 else nearest - 1
      if inside nearest then (nearest, place)
      else if inside other then (other, place)
      else shortestOn m q finer

def shortest (m : Nat) (q : Int) : Nat × Int :=
  let (num, den) := fraction m q
  let leading := decimalExponent num den
  shortestOn m q ((List.range 17).map fun (n : Nat) => leading - (n : Int))

structure DecimalStyle where
  lowest : Int
  highest : Int

def plain : DecimalStyle := ⟨-5, 15⟩

def significant (digits : Nat) (place : Int) : List Char × Int :=
  let all := Nat.toDigits 10 digits
  ((all.reverse.dropWhile (· == '0')).reverse, place + all.length - 1)

def layout (style : DecimalStyle) (digits : List Char) (leading : Int) : List Char :=
  if style.lowest ≤ leading ∧ leading ≤ style.highest then
    if leading < 0 then
      ['0', '.'] ++ List.replicate (-leading - 1).toNat '0' ++ digits
    else
      let whole := leading.toNat + 1
      let padded := digits ++ List.replicate (whole - digits.length) '0'
      let fraction := padded.drop whole
      padded.take whole ++ ['.'] ++ if fraction.isEmpty then ['0'] else fraction
  else
    let mantissa := match digits with
      | first :: second :: rest => first :: '.' :: second :: rest
      | short => short
    mantissa ++ ['e', if leading < 0 then '-' else '+'] ++ Nat.toDigits 10 leading.natAbs

def text (x : Double) : String :=
  let sign := if x.isNegative then "-" else ""
  match x.parts? with
  | none => if x.isNaN then "NaN" else sign ++ "inf"
  | some (0, _) => sign ++ "0.0"
  | some (m, q) =>
      let (digits, place) := shortest m q
      let (shown, leading) := significant digits place
      sign ++ String.ofList (layout plain shown leading)

end Double

end TypedQuery
