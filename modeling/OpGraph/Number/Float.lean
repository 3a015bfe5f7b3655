namespace OpGraph

/-! Binary floating point formats: the value that a bit pattern stands for, and the pattern
nearest to a ratio of natural numbers.  All arithmetic is exact. -/

/-- The widths of the two fields below the sign bit. -/
structure FloatFormat where
  exponentBits : Nat
  fractionBits : Nat
deriving DecidableEq

/-- What a bit pattern stands for; `finite` is `± significand · 2 ^ exponent`. -/
inductive FloatValue where
  | nan
  | infinite (negative : Bool)
  | finite (negative : Bool) (significand : Nat) (exponent : Int)
deriving DecidableEq

namespace FloatFormat

def bfloat16 : FloatFormat := ⟨8, 7⟩
def binary16 : FloatFormat := ⟨5, 10⟩
def binary32 : FloatFormat := ⟨8, 23⟩
def binary64 : FloatFormat := ⟨11, 52⟩

def precision (format : FloatFormat) : Nat :=
  format.fractionBits + 1

/-- The weight of the bit in front of the fraction field, which all normal numbers have and no
subnormal one. -/
def leadingBit (format : FloatFormat) : Nat :=
  Nat.pow 2 format.fractionBits

/-- The exponent of the last bit of a subnormal number, which no number goes below. -/
def leastExponent (format : FloatFormat) : Int :=
  2 - (Nat.pow 2 (format.exponentBits - 1) : Nat) - (format.fractionBits : Nat)

/-- The exponent field of infinities and of values that are no numbers. -/
def specialField (format : FloatFormat) : Nat :=
  Nat.pow 2 format.exponentBits - 1

/-- The value of a bit pattern: a zero exponent field marks the subnormal numbers, a field of
ones the infinities and the values that are no numbers. -/
def decode (format : FloatFormat) (bits : Nat) : FloatValue :=
  let fraction := bits % format.leadingBit
  let field := bits / format.leadingBit % Nat.pow 2 format.exponentBits
  let negative := bits.testBit (format.exponentBits + format.fractionBits)
  if field = format.specialField then
    if fraction = 0 then .infinite negative else .nan
  else if field = 0 then
    .finite negative fraction format.leastExponent
  else
    .finite negative (format.leadingBit + fraction) (format.leastExponent + (field - 1 : Nat))

/-- The same magnitude with as many significant bits as the format has, unless the least
exponent is reached before. -/
def normalize (format : FloatFormat) (significand : Nat) (exponent : Int) : Nat × Int :=
  let missing := format.precision - (significand.log2 + 1)
  let shift := min missing (exponent - format.leastExponent).toNat
  (significand * Nat.pow 2 shift, exponent - shift)

/-- The pattern without sign of `significand · 2 ^ exponent`, where the exponent is at least the
least one and the significand has at most one bit more than the precision allows; a magnitude
above all finite ones is infinite. -/
def encode (format : FloatFormat) (significand : Nat) (exponent : Int) : Nat :=
  let carried := significand = 2 * format.leadingBit
  let significand := if carried then significand / 2 else significand
  let exponent := if carried then exponent + 1 else exponent
  if significand < format.leadingBit then
    significand
  else
    let field := (exponent - format.leastExponent).toNat + 1
    if format.specialField ≤ field then
      format.specialField * format.leadingBit
    else
      field * format.leadingBit + (significand - format.leadingBit)

/-- The quotient of two natural numbers rounded to the nearest natural number, a half to the
even neighbour. -/
def roundQuotient (numerator denominator : Nat) : Nat :=
  let quotient := numerator / denominator
  let twice := 2 * (numerator % denominator)
  if twice < denominator then quotient
  else if denominator < twice then quotient + 1
  else quotient + quotient % 2

/-- The pattern without sign that is nearest to a ratio, the one with an even significand if two
are equally near. -/
def nearest (format : FloatFormat) (numerator denominator : Nat) : Nat :=
  if numerator = 0 then 0 else
    let spread : Int := (numerator.log2 : Int) - denominator.log2
    let scaled (exponent : Int) : Nat × Nat :=
      (numerator * Nat.pow 2 (-exponent).toNat, denominator * Nat.pow 2 exponent.toNat)
    let first := max (spread - format.precision) format.leastExponent
    let exponent :=
      if (scaled first).1 / (scaled first).2 < 2 * format.leadingBit then first else first + 1
    format.encode (roundQuotient (scaled exponent).1 (scaled exponent).2) exponent

end FloatFormat

end OpGraph
