import ToolRelay.Text.Utf8

/-!
# Percent encoding

Characters that cannot stand in a part of a URL are written octet by octet, each as a percent sign
and two hexadecimal digits. Which characters these are depends on the part: every set is given as a
test, and every one of them holds the controls and whatever lies beyond ASCII.
-/

set_option autoImplicit false

namespace ToolRelay.Url

/-- Controls, and all beyond ASCII. -/
def controlSet (c : Char) : Bool :=
  c.toNat < 0x20 || 0x7F ≤ c.toNat

/-- What is encoded in a fragment. -/
def fragmentSet (c : Char) : Bool :=
  controlSet c || c ∈ [' ', '"', '<', '>', '`']

/-- What is encoded in a path. -/
def pathSet (c : Char) : Bool :=
  fragmentSet c || c ∈ ['#', '?', '{', '}']

/-- What is encoded in a user name or a password. -/
def userinfoSet (c : Char) : Bool :=
  pathSet c || c ∈ ['/', ':', ';', '=', '@', '[', '\\', ']', '^', '|']

/-- What is encoded in a query. The schemes of the web also encode the single quote. -/
def querySet (special : Bool) (c : Char) : Bool :=
  controlSet c || c ∈ [' ', '"', '#', '<', '>'] || (special && c == '\'')

/-- A digit of a number below sixteen, in capitals. -/
def hexDigit (n : Nat) : Char :=
  if n < 10 then Char.ofNat (48 + n) else Char.ofNat (55 + n)

/-- An octet as a percent sign and two digits. -/
def encodeOctet (b : UInt8) : List Char :=
  ['%', hexDigit (b.toNat / 16), hexDigit (b.toNat % 16)]

/-- A character, encoded if it belongs to the set. -/
def encodeChar (set : Char → Bool) (c : Char) : List Char :=
  if set c then (Text.Utf8.encodeChar c).flatMap encodeOctet else [c]

/-- A text with the characters of a set encoded. -/
def encode (set : Char → Bool) (l : List Char) : List Char :=
  l.flatMap (encodeChar set)

/-- The value of a hexadecimal digit. -/
def hexValue? (c : Char) : Option Nat :=
  if '0' ≤ c ∧ c ≤ '9' then some (c.toNat - 48)
  else if 'a' ≤ c ∧ c ≤ 'f' then some (c.toNat - 87)
  else if 'A' ≤ c ∧ c ≤ 'F' then some (c.toNat - 55)
  else none

/-- The octets that a text stands for. A percent sign without two digits behind it stands for
itself. -/
def octets : List Char → List UInt8
  | [] => []
  | [c] => Text.Utf8.encodeChar c
  | [c, d] => Text.Utf8.encodeChar c ++ Text.Utf8.encodeChar d
  | c :: d :: e :: r =>
    if c = '%' then
      match hexValue? d, hexValue? e with
      | some high, some low => (high * 16 + low).toUInt8 :: octets r
      | _, _ => Text.Utf8.encodeChar c ++ octets (d :: e :: r)
    else Text.Utf8.encodeChar c ++ octets (d :: e :: r)

end ToolRelay.Url
