import ToolRelay.Decimal.Binary64

/-!
# Shortest decimals

Of the decimals that read back as a given number, the one with the fewest digits, and of those the
nearest. `shortest` finds it in exact arithmetic: for one, two, three … digits it tries the two
decimals of that many digits around the number, and takes the first that the number's rounding
interval holds. It is written with the point among its digits or near them, and with an exponent where the
point would stand far away.
-/

set_option autoImplicit false

namespace ToolRelay

namespace Binary64

/-- The interval of the fractions that round to a positive number, over a common denominator. -/
structure Interval where
  low : Nat
  value : Nat
  high : Nat
  den : Nat
  /-- Whether the two ends round to the number as well. -/
  closed : Bool
  deriving Repr

/-- Halfway to the two neighbours; the lower one is nearer where the exponent steps. -/
def interval (x : Binary64) : Interval :=
  let m := x.significand
  let q := x.exponent
  let scale := Nat.pow 2 q.toNat
  let below := if m = fractions ∧ -1074 < q then 1 else 2
  { low := (4 * m - below) * scale
    value := 4 * m * scale
    high := (4 * m + 2) * scale
    den := 4 * Nat.pow 2 (-q).toNat
    closed := m % 2 = 0 }

/-- Whether `d · 10^e` lies in the interval. -/
def Interval.holds (i : Interval) (d : Nat) (e : Int) : Bool :=
  let num := d * Nat.pow 10 e.toNat * i.den
  let den := Nat.pow 10 (-e).toNat
  if i.closed then i.low * den ≤ num && num ≤ i.high * den
  else i.low * den < num && num < i.high * den

/-- The position of the first digit: the number lies in `[10^(p-1), 10^p)`. -/
def firstPlace (num den : Nat) : Int :=
  let guess : Int := (Decimal.ofNat num).length - (Decimal.ofNat den).length
  if Nat.pow 10 (-guess).toNat * num < Nat.pow 10 guess.toNat * den then guess else guess + 1

/-- Of the two decimals `d · 10^e` around the number, one that reads back as it: the nearer if both
do, and the even one if both are equally near. -/
def Interval.onGrid? (i : Interval) (e : Int) : Option Nat :=
  let num := i.value * Nat.pow 10 (-e).toNat
  let den := i.den * Nat.pow 10 e.toNat
  let d := num / den
  match i.holds d e, i.holds (d + 1) e with
  | true, true => some (roundHalfEven num den)
  | true, false => some d
  | false, true => some (d + 1)
  | false, false => none

/-- Tries ever more digits, `places` more of them at most. -/
def Interval.search (i : Interval) (e : Int) : (places : Nat) → Nat × Int
  | 0 => (i.value * Nat.pow 10 (-e).toNat / (i.den * Nat.pow 10 e.toNat), e)
  | places + 1 =>
    match i.onGrid? e with
    | some d => (d, e)
    | none => i.search (e - 1) places

/-- The shortest decimal `d · 10^e` that reads back as a positive number. Seventeen digits always
do. -/
def shortest (x : Binary64) : Nat × Int :=
  let i := x.interval
  i.search (firstPlace i.value i.den - 1) 18

/-- A decimal without the zeros at its end. -/
def withoutZeros : (fuel : Nat) → Nat → Int → Nat × Int
  | 0, d, e => (d, e)
  | fuel + 1, d, e => if d ≠ 0 ∧ d % 10 = 0 then withoutZeros fuel (d / 10) (e + 1) else (d, e)

/-- The digits of the shortest decimal and the place of its point: the value is
`0.d₁d₂… · 10^point`. -/
def digitsAndPoint (x : Binary64) : List Char × Int :=
  let (d, e) := x.shortest
  let (d, e) := withoutZeros 20 d e
  let digits := Decimal.ofNat d
  (digits, digits.length + e)

/-- Digits with the point after `point` of them, zeros filled in on either side and at least one
digit after the point. -/
def positional (digits : List Char) (point : Int) : List Char :=
  if point ≤ 0 then '0' :: '.' :: (List.replicate (-point).toNat '0' ++ digits)
  else if digits.length ≤ point.toNat then
    digits ++ List.replicate (point.toNat - digits.length) '0' ++ ['.', '0']
  else digits.take point.toNat ++ '.' :: digits.drop point.toNat

/-- An exponent, which always has a sign. -/
def exponentText (e : Int) : List Char :=
  if 0 ≤ e then '+' :: Decimal.ofInt e else Decimal.ofInt e

/-- One digit before the point, the rest after it, and the exponent that makes up for it. -/
def scientific (digits : List Char) (point : Int) : List Char :=
  let tail := digits.drop 1
  digits.take 1 ++ (if tail.isEmpty then [] else '.' :: tail) ++ 'e' :: exponentText (point - 1)

/-- A sign for the negative numbers, zero among them. -/
def signed (x : Binary64) (l : List Char) : List Char :=
  if x.negative then '-' :: l else l

/-- The number as JSON text: positional from `1e-5` to below `1e16`. -/
def jsonText (x : Binary64) : List Char :=
  if x.magnitude = 0 then x.signed ['0', '.', '0']
  else
    let (digits, point) := x.digitsAndPoint
    x.signed (if -5 < point ∧ point ≤ 16 then positional digits point else scientific digits point)

end Binary64
end ToolRelay
