import ToolRelay.Decimal.Digits

/-!
# The shape of a JSON text

A text is read into a `Raw` tree first: its arrays and objects are found and its strings and
numerals cut out, but nothing is said yet about what they mean. So a part of a text that is never
looked at need only have the right shape: a numeral in it may be too large, an escape may name half
a surrogate pair, octets inside a string need not be UTF-8, and there is no limit to the nesting.

The text is given as characters and gaps (see `ToolRelay.Text.Utf8`); a gap can stand only inside a
string.
-/

set_option autoImplicit false

namespace ToolRelay.Json

/-- A character of the text, or a gap where its octets are no UTF-8. -/
abbrev Mark := Option Char

/-- A numeral cut into its digits. -/
structure Numeral where
  negative : Bool
  whole : List Char
  /-- The digits after the point, at least one if there is a point. -/
  fraction : Option (List Char)
  /-- Whether the exponent is negative, and its digits, at least one. -/
  exponent : Option (Bool × List Char)
  deriving DecidableEq, Repr

/-- A JSON text cut into its parts. -/
inductive Raw
  | null
  | bool (value : Bool)
  | number (numeral : Numeral)
  /-- What stands between the quotes. -/
  | string (body : List Mark)
  | array (items : List Raw)
  | object (members : List (List Mark × Raw))
  deriving Repr

namespace Raw

/-- Whether a mark may stand between the parts of a text. -/
def isSpace (m : Mark) : Bool :=
  m == some ' ' || m == some '\n' || m == some '\r' || m == some '\t'

/-- The text behind the space it begins with. -/
def skipSpace (l : List Mark) : List Mark :=
  l.dropWhile isSpace

/-- The value of a hexadecimal digit. -/
def hex? : Mark → Option Nat
  | some c =>
    if Decimal.isDigit c then some (c.toNat - 48)
    else if 'a' ≤ c ∧ c ≤ 'f' then some (c.toNat - 87)
    else if 'A' ≤ c ∧ c ≤ 'F' then some (c.toNat - 55)
    else none
  | none => none

/-- The number of four hexadecimal digits. -/
def hex4? (a b c d : Mark) : Option Nat :=
  match hex? a, hex? b, hex? c, hex? d with
  | some a, some b, some c, some d => some (((a * 16 + b) * 16 + c) * 16 + d)
  | _, _, _, _ => none

/-- Cuts a string off the text behind its opening quote: its body, and the text behind its closing
quote. -/
def string? : List Mark → Option (List Mark × List Mark)
  | [] => none
  | some '"' :: r => some ([], r)
  | some '\\' :: some 'u' :: a :: b :: c :: d :: r =>
    if (hex4? a b c d).isSome then
      (string? r).map fun (body, rest) =>
        (some '\\' :: some 'u' :: a :: b :: c :: d :: body, rest)
    else none
  | some '\\' :: some c :: r =>
    if ['"', '\\', '/', 'b', 'f', 'n', 'r', 't'].contains c then
      (string? r).map fun (body, rest) => (some '\\' :: some c :: body, rest)
    else none
  | m :: r =>
    if m = some '\\' ∨ m.any (·.toNat < 0x20) then none
    else (string? r).map fun (body, rest) => (m :: body, rest)

/-- The digits that a text begins with, and the text behind them. -/
def digits : List Mark → List Char × List Mark
  | some c :: r => if Decimal.isDigit c then let (d, rest) := digits r; (c :: d, rest)
    else ([], some c :: r)
  | l => ([], l)

/-- Cuts the point and the digits behind it off a text, if it begins with a point. -/
def fraction? : List Mark → Option (Option (List Char) × List Mark)
  | some '.' :: r =>
    let (d, rest) := digits r
    if d.isEmpty then none else some (some d, rest)
  | l => some (none, l)

/-- Cuts an exponent off a text, if it begins with one. -/
def exponent? : List Mark → Option (Option (Bool × List Char) × List Mark)
  | some c :: r =>
    if c = 'e' ∨ c = 'E' then
      let (negative, r) := match r with
        | some '-' :: r => (true, r)
        | some '+' :: r => (false, r)
        | _ => (false, r)
      let (d, rest) := digits r
      if d.isEmpty then none else some (some (negative, d), rest)
    else some (none, some c :: r)
  | l => some (none, l)

/-- Cuts a numeral off a text, given whether a minus sign stood before it. Only zero itself begins
with a zero. -/
def numeral? (negative : Bool) (l : List Mark) : Option (Numeral × List Mark) :=
  let (whole, rest) := digits l
  if whole.isEmpty || (whole.length > 1 && whole.head? == some '0') then none
  else
    (fraction? rest).bind fun (fraction, rest) =>
    (exponent? rest).map fun (exponent, rest) =>
      (⟨negative, whole, fraction, exponent⟩, rest)

mutual

/-- Cuts a value off a text. The fuel bounds the number of parts. -/
def value? : (fuel : Nat) → List Mark → Option (Raw × List Mark)
  | 0, _ => none
  | fuel + 1, l =>
    match skipSpace l with
    | some 'n' :: some 'u' :: some 'l' :: some 'l' :: r => some (.null, r)
    | some 't' :: some 'r' :: some 'u' :: some 'e' :: r => some (.bool true, r)
    | some 'f' :: some 'a' :: some 'l' :: some 's' :: some 'e' :: r => some (.bool false, r)
    | some '"' :: r => (string? r).map fun (body, rest) => (.string body, rest)
    | some '-' :: r => (numeral? true r).map fun (n, rest) => (.number n, rest)
    | some '[' :: r =>
      match skipSpace r with
      | some ']' :: r => some (.array [], r)
      | r => (items? fuel r).map fun (items, rest) => (.array items, rest)
    | some '{' :: r =>
      match skipSpace r with
      | some '}' :: r => some (.object [], r)
      | r => (members? fuel r).map fun (members, rest) => (.object members, rest)
    | r => (numeral? false r).map fun (n, rest) => (.number n, rest)

/-- Cuts the items of an array and the bracket behind them off a text. -/
def items? : (fuel : Nat) → List Mark → Option (List Raw × List Mark)
  | 0, _ => none
  | fuel + 1, l =>
    (value? fuel l).bind fun (v, r) =>
      match skipSpace r with
      | some ']' :: r => some ([v], r)
      | some ',' :: r => (items? fuel r).map fun (items, rest) => (v :: items, rest)
      | _ => none

/-- Cuts the members of an object and the brace behind them off a text. -/
def members? : (fuel : Nat) → List Mark → Option (List (List Mark × Raw) × List Mark)
  | 0, _ => none
  | fuel + 1, l =>
    match skipSpace l with
    | some '"' :: r =>
      (string? r).bind fun (key, r) =>
        match skipSpace r with
        | some ':' :: r =>
          (value? fuel r).bind fun (v, r) =>
            match skipSpace r with
            | some '}' :: r => some ([(key, v)], r)
            | some ',' :: r =>
              (members? fuel r).map fun (members, rest) => ((key, v) :: members, rest)
            | _ => none
        | _ => none
    | _ => none

end

/-- The parts of a text that is one value with nothing but space around it. Every part takes a
mark of the text, and a value stands inside at most one pair of items or members of its own. -/
def ofMarks? (l : List Mark) : Option Raw :=
  match value? (2 * l.length + 2) l with
  | some (v, rest) => if (skipSpace rest).isEmpty then some v else none
  | none => none

end Raw
end ToolRelay.Json
