import OpGraph.Number.Float

namespace OpGraph

/-! Decimal numbers: the fewest digits that read back as a given floating point number, the ways of
writing them, and the floating point number nearest to a written decimal. -/

/-- The number `digits · 10 ^ exponent`. -/
structure Decimal where
  digits : Nat
  exponent : Int
deriving DecidableEq

/-- The numbers that round to one floating point number, on the scale of a decimal grid: with
`unit` over `scale` for a quarter of the distance to the next number above, `middle`, `lower` and
`upper` count such quarters.  The bounds belong to the interval when `closed` holds. -/
structure RoundingInterval where
  lower : Nat
  middle : Nat
  upper : Nat
  closed : Bool
  exponent : Int
deriving DecidableEq

namespace RoundingInterval

/-- The interval of `significand · 2 ^ exponent`.  Half a distance away on either side the
neighbour begins, and below a power of two the neighbour is only half as far.  The bounds read
back as the number itself when its significand is even. -/
def ofFloat (format : FloatFormat) (significand : Nat) (exponent : Int) : RoundingInterval :=
  let narrow := significand = format.leadingBit ∧ format.leastExponent < exponent
  { lower := 4 * significand - (if narrow then 1 else 2)
    middle := 4 * significand
    upper := 4 * significand + 2
    closed := significand % 2 = 0
    exponent := exponent - 2 }

/-- The numerator of a quarter on the grid of the multiples of `10 ^ grid`. -/
def unit (interval : RoundingInterval) (grid : Int) : Nat :=
  Nat.pow 2 interval.exponent.toNat * Nat.pow 10 (-grid).toNat

/-- The denominator of a quarter on the grid of the multiples of `10 ^ grid`. -/
def scale (interval : RoundingInterval) (grid : Int) : Nat :=
  Nat.pow 2 (-interval.exponent).toNat * Nat.pow 10 grid.toNat

/-- Whether `digits · 10 ^ grid` lies in the interval. -/
def contains (interval : RoundingInterval) (grid : Int) (digits : Nat) : Bool :=
  let point := digits * interval.scale grid
  let low := interval.lower * interval.unit grid
  let high := interval.upper * interval.unit grid
  if interval.closed then low ≤ point && point ≤ high else low < point && point < high

/-- The point of a grid nearest to the middle among those in the interval.  If any point of the
grid lies in the interval, so does one of the two neighbours of the middle; of two equally near
ones the larger is taken. -/
def nearestOn (interval : RoundingInterval) (grid : Int) : Option Decimal :=
  let middle := interval.middle * interval.unit grid
  let scale := interval.scale grid
  let below := middle / scale
  let above := below + 1
  let nearAbove := above * scale - middle ≤ middle - below * scale
  match interval.contains grid below, interval.contains grid above with
  | true, true => some ⟨if nearAbove then above else below, grid⟩
  | true, false => some ⟨below, grid⟩
  | false, true => some ⟨above, grid⟩
  | false, false => none

end RoundingInterval

namespace Decimal

/-- A power of ten that is above `significand · 2 ^ exponent`, by less than a factor of a
thousand: `30103 / 100000` approximates the logarithm of two from above. -/
def magnitudeBound (significand : Nat) (exponent : Int) : Int :=
  ((significand.log2 : Int) + 1 + exponent) * 30103 / 100000 + 2

/-- The number `significand · 2 ^ exponent` itself, with all its digits. -/
def exact (significand : Nat) (exponent : Int) : Decimal :=
  if 0 ≤ exponent then ⟨significand * Nat.pow 2 exponent.toNat, 0⟩
  else ⟨significand * Nat.pow 5 (-exponent).toNat, exponent⟩

/-- The decimal with the fewest digits that reads back as `significand · 2 ^ exponent`, and of
those the nearest.  A number from a narrower format is first given the precision of this one.  The
grids are tried from coarse to fine; in the formats here one of the first two dozen is fine
enough, and if none were, the exact number would still read back. -/
def shortest (format : FloatFormat) (significand : Nat) (exponent : Int) : Decimal :=
  if significand = 0 then ⟨0, 0⟩ else
    let (significand, exponent) := format.normalize significand exponent
    let interval := RoundingInterval.ofFloat format significand exponent
    let bound := magnitudeBound significand exponent
    ((List.range 24).findSome? fun (step : Nat) => interval.nearestOn (bound - step)).getD
      (exact significand exponent)

/-- All digits in front of and behind the point, with zeros as needed and never an exponent. -/
def positional (decimal : Decimal) : String :=
  let digits := decimal.digits.repr
  if 0 ≤ decimal.exponent then
    digits ++ "".pushn '0' (if decimal.digits = 0 then 0 else decimal.exponent.toNat)
  else
    let places := (-decimal.exponent).toNat
    let padded := "".pushn '0' (places + 1 - digits.length) ++ digits
    let whole := padded.toList.take (padded.length - places)
    let fraction := padded.toList.drop (padded.length - places)
    String.ofList whole ++ "." ++ String.ofList fraction

/-- One digit in front of the point and the power of ten after an `e`. -/
def scientific (decimal : Decimal) : String :=
  let digits := decimal.digits.repr.toList
  let power := decimal.exponent + (digits.length - 1 : Nat)
  let fraction := digits.drop 1
  String.ofList (digits.take 1) ++
    (if fraction.isEmpty then "" else "." ++ String.ofList fraction) ++ "e" ++ power.repr

/-- The pattern without sign of the `binary64` number nearest to a decimal.  A magnitude of ten
to the power 310 is infinite and one below ten to the power -330 is zero, whatever the digits, so
that no larger power of ten is ever formed. -/
def toBinary64 (decimal : Decimal) : Nat :=
  let format := FloatFormat.binary64
  if decimal.digits = 0 then 0 else
    let magnitude := decimal.exponent + (decimal.digits.repr.length : Nat)
    if 310 < magnitude then format.specialField * format.leadingBit
    else if magnitude < -330 then 0
    else
      format.nearest (decimal.digits * Nat.pow 10 decimal.exponent.toNat)
        (Nat.pow 10 (-decimal.exponent).toNat)

end Decimal

/-- The decisions of a text form of floating point numbers. -/
structure FloatLayout where
  /-- What follows the digits of an integer. -/
  integerEnd : String
  /-- The powers of ten of the first digit, the second one excluded, for which all digits are
  written; for any other an exponent is.  Without bounds an exponent never is. -/
  positionalPowers : Option (Int × Int)

namespace FloatValue

/-- The sign and the magnitude, with the fewest digits that read back in the given format.  A value
that is no number has no sign. -/
def text (layout : FloatLayout) (format : FloatFormat) : FloatValue → String
  | nan => "NaN"
  | infinite negative => if negative then "-inf" else "inf"
  | finite negative significand exponent =>
      let decimal := Decimal.shortest format significand exponent
      let power := decimal.exponent + (decimal.digits.repr.length - 1 : Nat)
      let inRange := layout.positionalPowers.all fun (least, bound) =>
        least ≤ power && power < bound
      (if negative then "-" else "") ++
        if inRange then
          decimal.positional ++ (if 0 ≤ decimal.exponent then layout.integerEnd else "")
        else decimal.scientific

end FloatValue

end OpGraph
