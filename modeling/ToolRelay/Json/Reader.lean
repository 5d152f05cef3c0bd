import ToolRelay.Json.Basic
import ToolRelay.Json.Raw
import ToolRelay.Text.Utf8

/-!
# Reading JSON

What the parts of a JSON text mean. A string must be UTF-8 and its escapes must name characters; a
whole numeral that fits 64 bits is an integer and any other numeral a float; arrays and objects
may be nested 127 deep; of several members with one name the last counts.
-/

set_option autoImplicit false

namespace ToolRelay.Json

namespace Numeral

/-- The largest number of 64 bits. -/
def max64 : Nat := 0xFFFFFFFFFFFFFFFF

/-- The largest number of a decimal exponent. -/
def maxExponent : Nat := 0x7FFFFFFF

/-- Appends digits to a number as long as it stays within `bound`. Gives the number, how many
digits were appended, and how many were left over. -/
def append (bound n : Nat) : List Char → Nat × Nat × Nat
  | [] => (n, 0, 0)
  | c :: r =>
    let n' := n * 10 + (c.toNat - 48)
    if n' ≤ bound then
      let (m, used, left) := append bound n' r
      (m, used + 1, left)
    else (n, 0, r.length + 1)

/-- Scales a number by `10^e`, one rounding for every factor of at most `10^308`. There is no value
if the number grows beyond the format. -/
def scale : (steps : Nat) → Binary64 → Int → Option Binary64
  | 0, x, _ => some x
  | steps + 1, x, e =>
    if e.natAbs ≤ 308 then
      if 0 ≤ e then
        let y := x.timesPowerOfTen e.natAbs
        if y.finite then some y else none
      else some (x.overPowerOfTen e.natAbs)
    else if x.magnitude = 0 then some x
    else if 0 ≤ e then none
    else scale steps (x.overPowerOfTen 308) (e + 308)

/-- The float that a numeral denotes: the digits that fit 64 bits make a whole number, which is
rounded and then scaled. Later digits count only for their place. -/
def float? (n : Numeral) : Option Binary64 :=
  let (sig, _, left) := append max64 0 n.whole
  let (sig, used, _) := append max64 sig (n.fraction.getD [])
  let start : Int := (left : Int) - used
  let scaled (e : Int) : Option Binary64 :=
    let e := max (-0x80000000 : Int) (min maxExponent e)
    (scale 4 (.ofNat sig) e).map fun x => .ofMagnitude n.negative x.magnitude
  match n.exponent with
  | none => scaled start
  | some (down, digits) =>
    let (e, _, left) := append maxExponent 0 digits
    if 0 < left then
      if sig ≠ 0 ∧ !down then none else some (.ofMagnitude n.negative 0)
    else scaled (if down then start - e else start + e)

/-- The number that a numeral denotes. A negative zero is a float. -/
def value? (n : Numeral) : Option Json :=
  let m := Decimal.valueFrom 0 n.whole
  if n.fraction.isNone && n.exponent.isNone then
    if !n.negative && m ≤ max64 then some (.int m)
    else if n.negative && m ≠ 0 && m ≤ 0x8000000000000000 then some (.int (-(m : Int)))
    else if n.negative && m ≤ max64 then some (.float (.ofMagnitude true (Binary64.ofNat m).magnitude))
    else n.float?.map .float
  else n.float?.map .float

end Numeral

namespace Raw

/-- The character of a surrogate pair. -/
def ofPair (high low : Nat) : Char :=
  Char.ofNat (0x10000 + (high - 0xD800) * 0x400 + (low - 0xDC00))

/-- The character that a backslash and a letter name. -/
def named (c : Char) : Char :=
  match c with
  | 'b' => '\x08'
  | 'f' => '\x0c'
  | 'n' => '\n'
  | 'r' => '\r'
  | 't' => '\t'
  | _ => c

/-- The text of a string's body. Gaps, and surrogates that do not pair up, have none. -/
def unescape : List Mark → Option (List Char)
  | [] => some []
  | none :: _ => none
  | some '\\' :: some 'u' :: a :: b :: c :: d :: r =>
    match hex4? a b c d with
    | none => none
    | some n =>
      if 0xDC00 ≤ n ∧ n ≤ 0xDFFF then none
      else if 0xD800 ≤ n ∧ n ≤ 0xDBFF then
        match r with
        | some '\\' :: some 'u' :: a :: b :: c :: d :: r =>
          match hex4? a b c d with
          | none => none
          | some low =>
            if 0xDC00 ≤ low ∧ low ≤ 0xDFFF then (unescape r).map (ofPair n low :: ·) else none
        | _ => none
      else (unescape r).map (Char.ofNat n :: ·)
  | some '\\' :: some c :: r => (unescape r).map (named c :: ·)
  | some c :: r => (unescape r).map (c :: ·)

/-- The string of a body. -/
def text? (body : List Mark) : Option String :=
  (unescape body).map String.ofList

mutual

/-- The value of a text, if its arrays and objects are nested at most `depth` deep. -/
def toJson? : (depth : Nat) → Raw → Option Json
  | _, .null => some .null
  | _, .bool b => some (.bool b)
  | _, .number n => n.value?
  | _, .string body => (text? body).map .str
  | 0, .array _ => none
  | 0, .object _ => none
  | depth + 1, .array items => (toItems? depth items).map .arr
  | depth + 1, .object members =>
    (toMembers? depth members).map fun l => .ofDict (Dict.ofList l)

/-- The values of the items of an array. -/
def toItems? (depth : Nat) : List Raw → Option (List Json)
  | [] => some []
  | v :: r =>
    match toJson? depth v, toItems? depth r with
    | some v, some r => some (v :: r)
    | _, _ => none

/-- The names and values of the members of an object, in the order of the text. -/
def toMembers? (depth : Nat) : List (List Mark × Raw) → Option (List (String × Json))
  | [] => some []
  | (k, v) :: r =>
    match text? k, toJson? depth v, toMembers? depth r with
    | some k, some v, some r => some ((k, v) :: r)
    | _, _, _ => none

end

end Raw

/-- How deep arrays and objects may be nested in a text. -/
def maxDepth : Nat := 127

/-- The value of a text. -/
def ofText? (s : String) : Option Json :=
  (Raw.ofMarks? (s.toList.map some)).bind (Raw.toJson? maxDepth)

end ToolRelay.Json
