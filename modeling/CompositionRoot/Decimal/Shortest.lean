/-! Doubles as decimal numbers: of the decimals that round to a double, the one with the fewest
digits, and of several such the nearest to it. -/
namespace CompositionRoot.Decimal

/-- The positive number `mantissa * 2 ^ exponent` as a double holds it. -/
structure Dyadic where
  mantissa : Nat
  exponent : Int
deriving DecidableEq, Repr

structure Scientific where
  digits : Nat
  exponent : Int
deriving DecidableEq, Repr

def leadingBit : Nat := 1 <<< 52

/-- The absolute value of a finite double that is not zero, from its exponent and fraction bits. -/
def Dyadic.ofBits (bits : UInt64) : Dyadic :=
  let fraction := bits.toNat % leadingBit
  let biased := bits.toNat / leadingBit % 2048
  if biased = 0 then ⟨fraction, -1074⟩ else ⟨leadingBit + fraction, (biased : Int) - 1075⟩

/-- The numbers that round to a double, as multiples of a quarter of its last binary place over a
common denominator. The ends belong to it when the mantissa is even. -/
structure Neighbourhood where
  low : Nat
  value : Nat
  high : Nat
  denominator : Nat
  hasEnds : Bool

/-- Numbers between the midpoints to the neighbouring doubles. Below a power of two the neighbour is
half as far. -/
def Dyadic.neighbourhood (number : Dyadic) : Neighbourhood :=
  let scale := 1 <<< number.exponent.toNat
  { low := (4 * number.mantissa - if number.mantissa = leadingBit then 1 else 2) * scale
    value := 4 * number.mantissa * scale
    high := (4 * number.mantissa + 2) * scale
    denominator := 4 <<< (-number.exponent).toNat
    hasEnds := number.mantissa % 2 = 0 }

/-- The multiple of `10 ^ exponent` nearest to the value that rounds to it, if there is one. Of two
as near, the larger. -/
def Neighbourhood.onGrid? (around : Neighbourhood) (exponent : Int) : Option Scientific :=
  let scale := Nat.pow 10 (-exponent).toNat
  let unit := around.denominator * Nat.pow 10 exponent.toNat
  let low := around.low * scale
  let value := around.value * scale
  let high := around.high * scale
  let inside (point : Nat) : Bool :=
    if around.hasEnds then low ≤ point && point ≤ high else low < point && point < high
  let below := value / unit
  let lowerFits := inside (below * unit)
  let upperFits := inside ((below + 1) * unit)
  if lowerFits && (!upperFits || 2 * (value - below * unit) < unit) then some ⟨below, exponent⟩
  else if upperFits then some ⟨below + 1, exponent⟩
  else none

/-- A power of ten above every number of the neighbourhood. -/
def Neighbourhood.magnitude (around : Neighbourhood) : Int :=
  ((Nat.toDigits 10 (around.high / around.denominator)).length : Int) -
    (if around.high < around.denominator then
      (Nat.toDigits 10 (around.denominator / around.high)).length
    else 0)

/-- The shortest decimal that rounds to the number; every double has one of seventeen digits. -/
def Dyadic.shortest (number : Dyadic) : Scientific :=
  let around := number.neighbourhood
  let grids := (List.range 24).map fun (step : Nat) => around.magnitude + 1 - step
  (grids.findSome? around.onGrid?).getD ⟨number.mantissa, 0⟩

/-- The number in decimal places, never with an exponent. -/
def Scientific.positional (number : Scientific) : String :=
  let digits := Nat.toDigits 10 number.digits
  let places := (-number.exponent).toNat
  let padded := List.replicate (places + 1 - digits.length) '0' ++ digits
  let whole := padded.take (padded.length - places)
  let fraction := padded.drop (padded.length - places)
  String.ofList (whole ++ List.replicate number.exponent.toNat '0' ++
    if fraction.isEmpty then [] else '.' :: fraction)

/-- A double in the fewest decimal places that tell it from all others. -/
def render (x : Float) : String :=
  if x.isNaN then "NaN"
  else
    let sign := if x.toBits >>> 63 = 1 then "-" else ""
    if x.isInf then sign ++ "inf"
    else if x == 0 then sign ++ "0"
    else sign ++ (Dyadic.ofBits x.toBits).shortest.positional

/-- A double in decimal places, of which there is at least one. -/
def renderFractional (x : Float) : String :=
  let text := render x
  if x.isFinite && !text.contains '.' then text ++ ".0" else text

end CompositionRoot.Decimal
