import ToolRelay.Text.Line
import ToolRelay.Url.Percent

/-!
# Form queries

A list of keys and values is written into a query as `key=value` with `&` in between. Letters,
digits and `*-._` stand for themselves, a space is written as a plus sign, and all else is percent
encoded. `decode` reads such a query.
-/

set_option autoImplicit false

namespace ToolRelay.Url.Form

/-- What stands for itself in a form query. -/
def isPlain (c : Char) : Bool :=
  c.isAlphanum || c ∈ ['*', '-', '.', '_']

/-- A character of a key or a value. -/
def encodeChar (c : Char) : List Char :=
  if c = ' ' then ['+'] else Url.encodeChar (fun c => !isPlain c) c

/-- A key or a value. -/
def encodePart (s : String) : List Char :=
  s.toList.flatMap encodeChar

/-- A key with its value. -/
def encodePair (p : String × String) : List Char :=
  encodePart p.1 ++ '=' :: encodePart p.2

/-- The query of a list of keys and values. -/
def encode (pairs : List (String × String)) : List Char :=
  Text.joinWith ['&'] (pairs.map encodePair)

/-- The key or value that a part stands for. -/
def decodePart (l : List Char) : String :=
  String.ofList (Text.Utf8.decodeLossy (octets (l.map fun c => if c = '+' then ' ' else c)))

/-- The key and the value on both sides of the first equals sign. -/
def decodePair (l : List Char) : String × String :=
  (decodePart (l.takeWhile (· ≠ '=')), decodePart ((l.dropWhile (· ≠ '=')).drop 1))

/-- The keys and values of a query; between two ampersands there may be nothing. -/
def decode (query : List Char) : List (String × String) :=
  ((Text.pieces '&' query).filter fun p => !p.isEmpty).map decodePair

end ToolRelay.Url.Form
