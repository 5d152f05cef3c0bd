/-!
# Whole numbers as decimal text

Written numbers have no leading zeros. Read numbers may have them, may carry a plus sign, and must
lie within the bounds asked for; nothing else than digits is let through.
-/

set_option autoImplicit false

namespace ToolRelay.Decimal

/-- Whether the character is an ASCII digit. -/
def isDigit (c : Char) : Bool :=
  '0' ≤ c && c ≤ '9'

/-- The value of digits, the most significant first, after a number that precedes them. -/
def valueFrom (before : Nat) (digits : List Char) : Nat :=
  digits.foldl (fun n c => n * 10 + (c.toNat - 48)) before

/-- The value of a text of one digit or more. -/
def digits? (l : List Char) : Option Nat :=
  if l.isEmpty || !l.all isDigit then none else some (valueFrom 0 l)

/-- A whole number in decimal. -/
def ofNat (n : Nat) : List Char :=
  Nat.toDigits 10 n

/-- An integer in decimal. -/
def ofInt : Int → List Char
  | .ofNat n => ofNat n
  | .negSucc n => '-' :: ofNat (n + 1)

/-- Reads a whole number of at most `bound`; a plus sign may stand before it. -/
def natural? (bound : Nat) (l : List Char) : Option Nat :=
  let digits := match l with
    | '+' :: r => r
    | _ => l
  (digits? digits).filter (· ≤ bound)

/-- Reads an integer of 64 bits; a sign may stand before it. -/
def int64? (l : List Char) : Option Int :=
  match l with
  | '-' :: r => ((digits? r).filter (· ≤ 0x8000000000000000)).map fun n => -(n : Int)
  | _ => (natural? 0x7FFFFFFFFFFFFFFF l).map Int.ofNat

end ToolRelay.Decimal
