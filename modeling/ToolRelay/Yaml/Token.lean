import ToolRelay.Url.Percent
import ToolRelay.Yaml.Character

/-!
# Tokens of a YAML text

The punctuation of a text with its names, tags and scalars. A tag names the type of a node: it is
written with a handle, which a directive at the top of the document may define, and a suffix behind
it, or in full between angle brackets. Block collections have no punctuation of their own at their
two ends; where their indentation begins and ends, tokens stand for it.
-/

set_option autoImplicit false

namespace ToolRelay.Yaml

/-! ## Tags and directives -/

/-- A tag as it is written. -/
structure Tag where
  handle : List Char
  suffix : List Char
  deriving DecidableEq, Repr

/-- A line at the top of a document. -/
inductive Directive
  | version (major minor : Nat)
  | tag (handle : List Char) (stem : List Char)
  deriving DecidableEq, Repr

namespace Tag

/-- What may stand in a tag. -/
def isTagChar (c : Char) : Bool :=
  isNameChar c ||
    c ∈ [';', '/', '?', ':', '@', '&', '=', '+', '$', '.', '%', '!', '~', '*', '\'', '(', ')']

/-- What may stand in a tag that is written in full, and in a directive. -/
def isFullTagChar (c : Char) : Bool :=
  isTagChar c || c ∈ [',', '[', ']']

/-- Whether every percent sign stands before two hexadecimal digits. -/
def wellEscaped : List Char → Bool
  | [] => true
  | '%' :: a :: b :: r => (Url.hexValue? a).isSome && (Url.hexValue? b).isSome && wellEscaped r
  | c :: r => c != '%' && wellEscaped r

/-- The text that escaped characters stand for. -/
def unescape? (l : List Char) : Option (List Char) :=
  if wellEscaped l then Text.Utf8.decode? (Url.octets l) else none

/-- The characters of a tag that a text begins with, and the text behind them. -/
def chars? (full : Bool) (l : List Char) : Option (List Char × List Char) :=
  let test := if full then isFullTagChar else isTagChar
  (unescape? (l.takeWhile test)).map fun t => (t, l.dropWhile test)

/-- The handle that the text begins with, and the text behind it. -/
def handle? : List Char → Option (List Char × List Char)
  | '!' :: r =>
    let name := r.takeWhile isNameChar
    match r.dropWhile isNameChar with
    | '!' :: rest => some ('!' :: name ++ ['!'], rest)
    | rest => some ('!' :: name, rest)
  | _ => none

/-- The tag behind `!<`, and the text behind it. -/
def full? (l : List Char) : Option (Tag × List Char) := do
  let (t, rest) ← chars? true l
  match t, rest with
  | [], _ => none
  | t, '>' :: rest => some (⟨[], t⟩, rest)
  | _, _ => none

/-- The tag that a text begins with, in short, and the text behind it. -/
def short? (l : List Char) : Option (Tag × List Char) := do
  let (handle, rest) ← handle? l
  let (t, rest) ← chars? false rest
  if 1 < handle.length ∧ handle.getLast? = some '!' then
    if t.isEmpty then none else some (⟨handle, t⟩, rest)
  else
    match handle.drop 1 ++ t with
    | [] => some (⟨[], ['!']⟩, rest)
    | suffix => some (⟨['!'], suffix⟩, rest)

/-- The tag that a text begins with, and the text behind it, where a word must end. In flow
collections a comma will do. -/
def ofText? (flow : Bool) (l : List Char) : Option (Tag × List Char) := do
  let (tag, rest) ← match l with
    | '!' :: '<' :: r => full? r
    | l => short? l
  if atWordEnd rest || (flow && rest.head? == some ',') then some (tag, rest) else none

end Tag

namespace Directive

/-- A number of a version, of at most nine digits, and the text behind it. -/
def number? (l : List Char) : Option (Nat × List Char) :=
  let digits := l.takeWhile Char.isDigit
  if digits.isEmpty ∨ 9 < digits.length then none
  else some (digits.foldl (fun n c => n * 10 + (c.toNat - 48)) 0, l.dropWhile Char.isDigit)

/-- The version that a directive names, and the text behind it. -/
def version? (l : List Char) : Option (Directive × List Char) := do
  let (major, l) ← number? (l.dropWhile isBlank)
  match l with
  | '.' :: l =>
    let (minor, l) ← number? l
    return (.version major minor, l)
  | _ => none

/-- The handle that a directive defines, and the text behind it. -/
def tag? (l : List Char) : Option (Directive × List Char) := do
  let (handle, l) ← Tag.handle? (l.dropWhile isBlank)
  if handle.getLast? = some '!' ∧ l.head?.any isBlank then
    let (stem, l) ← Tag.chars? true (l.dropWhile isBlank)
    if stem.isEmpty || !atWordEnd l then none else return (.tag handle stem, l)
  else none

/-- The directive behind a percent sign, and the text from the end of its line on. -/
def ofText? (l : List Char) : Option (Directive × List Char) := do
  let rest := l.dropWhile isNameChar
  let (directive, rest) ← match l.takeWhile isNameChar with
    | ['Y', 'A', 'M', 'L'] => if atWordEnd rest then version? rest else none
    | ['T', 'A', 'G'] => if atWordEnd rest then tag? rest else none
    | _ => none
  let rest := dropComment rest
  if atLineEnd rest then some (directive, dropBreak rest) else none

end Directive

/-! ## Tokens -/

/-- A token. -/
inductive Token
  | directive (directive : Directive)
  | documentStart
  | documentEnd
  | blockSequenceStart
  | blockMappingStart
  | blockEnd
  | flowSequenceStart
  | flowSequenceEnd
  | flowMappingStart
  | flowMappingEnd
  | blockEntry
  | flowEntry
  | key
  | value
  | reference (name : List Char)
  | anchor (name : List Char)
  | tag (tag : Tag)
  /-- A scalar, and whether it was written without quotes and outside a block. -/
  | scalar (plain : Bool) (text : List Char)
  deriving DecidableEq, Repr

end ToolRelay.Yaml
