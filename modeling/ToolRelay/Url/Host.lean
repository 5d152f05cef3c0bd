import ToolRelay.Decimal.Digits
import ToolRelay.Text.Line
import ToolRelay.Url.Percent

/-!
# Hosts

The host of a URL is a name or an address. On the web a name is written in small letters, and one
whose last label is a number is an address of version 4, which may be written in fewer than four
parts, in octal and in hexadecimal. An address of version 6 stands between brackets.

Names are looked up in ASCII. How the letters of the world are written in it is laid down in tables
that are not part of the library: every reader of a host on the web takes it from outside, as a
function (`ToAscii`), and checks the name that it asks for and the one that comes back.
-/

set_option autoImplicit false

namespace ToolRelay

/-- Why a text is no URL. -/
inductive UrlError
  | relativeWithoutBase
  | emptyHost
  | invalidPort
  | invalidIpv4
  | invalidIpv6
  | invalidDomain
  | invalidHostCharacter
  deriving DecidableEq, Repr

/-- The text of the error. -/
def UrlError.message : UrlError → String
  | .relativeWithoutBase => "relative URL without a base"
  | .emptyHost => "empty host"
  | .invalidPort => "invalid port number"
  | .invalidIpv4 => "invalid IPv4 address"
  | .invalidIpv6 => "invalid IPv6 address"
  | .invalidDomain => "invalid international domain name"
  | .invalidHostCharacter => "invalid domain character"

namespace Url

/-- The host of a URL. -/
inductive Host
  | domain (name : List Char)
  | ipv4 (address : Nat)
  /-- The eight groups of the address. -/
  | ipv6 (groups : List Nat)
  deriving DecidableEq, Repr

/-- How names are written in ASCII: what the octets of a name come to, which is nothing if they are
no name. -/
abbrev ToAscii : Type :=
  List UInt8 → Option (List Char)

/-- The names that are in ASCII as they are, in small letters. -/
def plainNames : ToAscii :=
  fun octets => match Text.Utf8.decode? octets with
    | some name => if name.all fun c => c.toNat < 0x80 then some (name.map Char.toLower) else none
    | none => none

namespace Host

/-- The value of digits to a base. -/
def valueIn (base : Nat) (digits : List Char) : Option Nat :=
  digits.foldlM (fun n c => (hexValue? c).bind fun d => if d < base then some (n * base + d) else none) 0

/-- The number in a part of an address of version 4: hexadecimal behind `0x`, octal behind `0`. -/
def ipv4Number? : List Char → Option Nat
  | [] => none
  | '0' :: 'x' :: r => valueIn 16 r
  | '0' :: 'X' :: r => valueIn 16 r
  | '0' :: c :: r => valueIn 8 (c :: r)
  | l => valueIn 10 l

/-- The labels of a name, without the empty one behind a final dot. -/
def labels (name : List Char) : List (List Char) :=
  let ls := Text.pieces '.' name
  if 1 < ls.length ∧ ls.getLast? = some [] then ls.dropLast else ls

/-- Whether the last label of a name is a number, so that the name must be an address. -/
def endsInNumber (name : List Char) : Bool :=
  match (labels name).getLast? with
  | none => false
  | some last => (!last.isEmpty && last.all Decimal.isDigit) || (ipv4Number? last).isSome

/-- The address of version 4 with these numbers: the last one fills all octets that are left. -/
def ipv4OfNumbers? (numbers : List Nat) : Option Nat :=
  match numbers.getLast? with
  | none => none
  | some last =>
    let front := numbers.dropLast
    if 4 < numbers.length ∨ front.any (255 < ·) ∨ Nat.pow 256 (4 - front.length) ≤ last then none
    else some (front.foldl (fun n d => n * 256 + d) 0 * Nat.pow 256 (4 - front.length) + last)

/-- The address of version 4 that a name denotes. -/
def ipv4? (name : List Char) : Option Nat :=
  ((labels name).mapM ipv4Number?).bind ipv4OfNumbers?

/-- A group of an address of version 6: up to four digits. -/
def group? (l : List Char) : Option Nat :=
  if l.isEmpty ∨ 4 < l.length then none else valueIn 16 l

/-- An octet of an address of version 4 in an address of version 6, without leading zeros. -/
def octet? (l : List Char) : Option Nat :=
  if l.isEmpty ∨ 3 < l.length ∨ (1 < l.length ∧ l.head? = some '0') then none
  else (valueIn 10 l).filter (· < 256)

/-- The two groups of an address of version 4 that ends an address of version 6. -/
def embedded? (l : List Char) : Option (List Nat) :=
  match (Text.pieces '.' l).mapM octet? with
  | some [a, b, c, d] => some [a * 256 + b, c * 256 + d]
  | _ => none

/-- The groups of a list of texts, the last of which may be an address of version 4 if `final`. -/
def groups? (final : Bool) : List (List Char) → Option (List Nat)
  | [] => some []
  | [l] => if final && l.contains '.' then embedded? l else (group? l).map ([·])
  | l :: r =>
    match group? l, groups? final r with
    | some g, some gs => some (g :: gs)
    | _, _ => none

/-- The groups between colons; an empty text has none. -/
def side? (final : Bool) (l : List Char) : Option (List Nat) :=
  if l.isEmpty then some [] else groups? final (Text.pieces ':' l)

/-- The text before and behind the first two colons in a row. -/
def splitGap? : List Char → Option (List Char × List Char)
  | ':' :: ':' :: r => some ([], r)
  | c :: r => (splitGap? r).map fun (a, b) => (c :: a, b)
  | [] => none

/-- The groups of an address of version 6; two colons in a row stand for one zero or more. -/
def ipv6? (l : List Char) : Option (List Nat) :=
  match splitGap? l with
  | none => (groups? true (Text.pieces ':' l)).filter (·.length = 8)
  | some (before, behind) =>
    match side? false before, side? true behind with
    | some front, some back =>
      if front.length + back.length < 8 then
        some (front ++ List.replicate (8 - front.length - back.length) 0 ++ back)
      else none
    | _, _ => none

/-- What may not stand in the name of a host on the web. -/
def isForbiddenInDomain (c : Char) : Bool :=
  controlSet c ||
    c ∈ [' ', '#', '%', '/', ':', '<', '>', '?', '@', '[', '\\', ']', '^', '|']

/-- What may not stand in the octets of a name on the web. -/
def isForbiddenOctet (b : UInt8) : Bool :=
  b < 0x80 && isForbiddenInDomain (Char.ofNat b.toNat)

/-- What may not stand in the name of any other host. -/
def isForbidden (c : Char) : Bool :=
  c ∈ ['\x00', '\t', '\n', '\r', ' ', '#', '/', ':', '<', '>', '?', '@', '[', '\\', ']', '^', '|']

/-- The address between brackets. -/
def bracketed (l : List Char) : Except UrlError Host :=
  if l.getLast? = some ']' then
    match ipv6? (l.drop 1).dropLast with
    | some groups => .ok (.ipv6 groups)
    | none => .error .invalidIpv6
  else .error .invalidIpv6

/-- The host of a name in ASCII, which is an address if it ends in a number. -/
def ofName (name : List Char) : Except UrlError Host :=
  if name.any isForbiddenInDomain then .error .invalidDomain
  else if name.isEmpty then .error .emptyHost
  else if endsInNumber name then
    match ipv4? name with
    | some address => .ok (.ipv4 address)
    | none => .error .invalidIpv4
  else .ok (.domain name)

/-- The host of a URL of the web. -/
def ofText (names : ToAscii) (l : List Char) : Except UrlError Host :=
  if l.head? = some '[' then bracketed l
  else if (octets l).any isForbiddenOctet then .error .invalidDomain
  else match names (octets l) with
    | some name => ofName name
    | none => .error .invalidDomain

/-- The host of any other URL, which is not looked into. -/
def verbatim (l : List Char) : Except UrlError Host :=
  if l.head? = some '[' then bracketed l
  else if l.any isForbidden then .error .invalidHostCharacter
  else .ok (.domain (encode controlSet l))

/-- An address of version 4 in four parts. -/
def ipv4Text (address : Nat) : List Char :=
  Text.joinWith ['.'] ([3, 2, 1, 0].map fun k => Decimal.ofNat (address / Nat.pow 256 k % 256))

/-- How many zeros a list begins with. -/
def leadingZeros (l : List Nat) : Nat :=
  (l.takeWhile (· == 0)).length

/-- The place and the length of the first of the longest runs of zeros. -/
def longestRun (l : List Nat) : Nat × Nat :=
  (List.range l.length).foldl (fun best i =>
    let n := leadingZeros (l.drop i)
    if best.2 < n then (i, n) else best) (0, 0)

/-- Groups in hexadecimal with colons in between. -/
def groupsText (l : List Nat) : List Char :=
  Text.joinWith [':'] (l.map fun n => Nat.toDigits 16 n)

/-- An address of version 6; two colons stand for the longest run of two zeros or more. -/
def ipv6Text (groups : List Nat) : List Char :=
  let (start, length) := longestRun groups
  if length < 2 then groupsText groups
  else groupsText (groups.take start) ++ [':', ':'] ++ groupsText (groups.drop (start + length))

/-- The host as it is written in a URL. -/
def text : Host → List Char
  | .domain name => name
  | .ipv4 address => ipv4Text address
  | .ipv6 groups => '[' :: ipv6Text groups ++ [']']

end Host
end Url
end ToolRelay
