import ToolRelay.Decimal.Digits

/-!
# Numbers of 64 binary digits

A finite `Binary64` is `± m · 2^q` with `m < 2^53` and `-1074 ≤ q ≤ 971`. All arithmetic here is
on whole numbers: `ofRatio` gives the number nearest to a fraction, the even one of two equally
near, and reading a decimal is rounding the fraction that it denotes.
-/

set_option autoImplicit false

namespace ToolRelay

/-- A number of the binary64 format, given by its 64 bits. -/
structure Binary64 where
  bits : UInt64
  deriving DecidableEq, Repr, Inhabited

namespace Binary64

/-- The sign bit alone, `2^63`. -/
def signBit : Nat := 0x8000000000000000

/-- How many magnitudes there are to an exponent, `2^52`. -/
def fractions : Nat := 0x10000000000000

/-- Whether the sign bit is set. -/
def negative (x : Binary64) : Bool :=
  signBit ≤ x.bits.toNat

/-- The 63 bits below the sign. Their order is that of the absolute values. -/
def magnitude (x : Binary64) : Nat :=
  x.bits.toNat % signBit

/-- The magnitude of the infinities; those above it belong to no number. -/
def infinity : Nat := 0x7FF0000000000000

/-- Whether the bits denote a number. -/
def finite (x : Binary64) : Bool :=
  x.magnitude < infinity

/-- The number with the given sign and the given 63 bits below it. -/
def ofMagnitude (negative : Bool) (magnitude : Nat) : Binary64 :=
  ⟨((if negative then signBit else 0) + magnitude).toUInt64⟩

/-- The significand `m` of `m · 2^q`. -/
def significand (x : Binary64) : Nat :=
  let fraction := x.magnitude % fractions
  if x.magnitude < fractions then fraction else fractions + fraction

/-- The exponent `q` of `m · 2^q`. -/
def exponent (x : Binary64) : Int :=
  if x.magnitude < fractions then -1074 else (x.magnitude / fractions : Nat) - 1075

/-- The whole number nearest to `num / den`, the even one of two equally near. -/
def roundHalfEven (num den : Nat) : Nat :=
  let q := num / den
  let r := 2 * (num % den)
  if r < den then q else if den < r then q + 1 else q + q % 2

/-- The exponent at which `num / den` has 53 binary digits before the point, or the least exponent
of the format if it has fewer there. -/
def ratioExponent (num den : Nat) : Int :=
  let guess : Int := max (-1074) ((num.log2 : Int) - den.log2 - 53)
  if num * Nat.pow 2 (-guess).toNat < den * Nat.pow 2 guess.toNat * (2 * fractions) then guess
  else guess + 1

/-- The magnitude of the number nearest to `num / den`; that of infinity if it is too large. -/
def magnitudeOfRatio (num den : Nat) : Nat :=
  if num = 0 then 0
  else
    let q := ratioExponent num den
    let m := roundHalfEven (num * Nat.pow 2 (-q).toNat) (den * Nat.pow 2 q.toNat)
    min infinity ((q + 1074).toNat * fractions + m)

/-- The number nearest to `± num / den`. -/
def ofRatio (negative : Bool) (num den : Nat) : Binary64 :=
  ofMagnitude negative (magnitudeOfRatio num den)

/-- The number nearest to a whole number. -/
def ofNat (n : Nat) : Binary64 :=
  ofRatio false n 1

/-- The number as a fraction. -/
def ratio (x : Binary64) : Nat × Nat :=
  (x.significand * Nat.pow 2 x.exponent.toNat, Nat.pow 2 (-x.exponent).toNat)

/-- The number nearest to `± n · 10^e`. Exponents far outside the range need not be raised to a
power to know the answer. -/
def ofScientific (negative : Bool) (n : Nat) (e : Int) : Binary64 :=
  let size : Int := (Decimal.ofNat n).length + e
  if n = 0 ∨ size < -400 then ofMagnitude negative 0
  else if 400 < size then ofMagnitude negative infinity
  else ofRatio negative (n * Nat.pow 10 e.toNat) (Nat.pow 10 (-e).toNat)

/-- The product with a positive power of ten that is itself rounded first. -/
def timesPowerOfTen (x : Binary64) (k : Nat) : Binary64 :=
  let (num, den) := x.ratio
  let (num', den') := (ofNat (Nat.pow 10 k)).ratio
  ofRatio x.negative (num * num') (den * den')

/-- The quotient by a positive power of ten that is itself rounded first. -/
def overPowerOfTen (x : Binary64) (k : Nat) : Binary64 :=
  let (num, den) := x.ratio
  let (num', den') := (ofNat (Nat.pow 10 k)).ratio
  ofRatio x.negative (num * den') (den * num')

/-- The parts of a decimal without its sign: the digits before and after the point, and the
exponent. At least one digit must stand before or after the point, and one in an exponent. -/
def decimal? (l : List Char) : Option (List Char × List Char × Int) :=
  let whole := l.takeWhile Decimal.isDigit
  let rest := l.dropWhile Decimal.isDigit
  let (fraction, rest) := match rest with
    | '.' :: r => (r.takeWhile Decimal.isDigit, r.dropWhile Decimal.isDigit)
    | _ => ([], rest)
  if whole.isEmpty && fraction.isEmpty then none
  else match rest with
    | [] => some (whole, fraction, 0)
    | c :: r =>
      if c = 'e' ∨ c = 'E' then
        match r with
        | '-' :: r => (Decimal.digits? r).map fun n => (whole, fraction, -(n : Int))
        | '+' :: r => (Decimal.digits? r).map fun n => (whole, fraction, (n : Int))
        | r => (Decimal.digits? r).map fun n => (whole, fraction, (n : Int))
      else none

/-- Reads a decimal with an optional sign, point and exponent, as the nearest number. A decimal
too large for the format is not read. -/
def read? (l : List Char) : Option Binary64 :=
  let (negative, l) := match l with
    | '-' :: r => (true, r)
    | '+' :: r => (false, r)
    | _ => (false, l)
  (decimal? l).bind fun (whole, fraction, e) =>
    let x := ofScientific negative (Decimal.valueFrom 0 (whole ++ fraction)) (e - fraction.length)
    if x.finite then some x else none

end Binary64
end ToolRelay
