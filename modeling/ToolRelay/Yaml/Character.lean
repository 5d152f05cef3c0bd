/-!
# Characters of a YAML text

Which characters may occur at all, which separate words and lines, and how far a position lies in
the text. A line ends with a line feed, a carriage return, both in this order, or one of the
separators of Unicode.
-/

set_option autoImplicit false

namespace ToolRelay.Yaml

/-- Whether a character may occur in a text. -/
def isAllowed (c : Char) : Bool :=
  let n := c.toNat
  c == '\t' || c == '\n' || c == '\r' || (0x20 ≤ n && n ≤ 0x7E) || n == 0x85 ||
    (0xA0 ≤ n && n ≤ 0xFFFD) || 0x10000 ≤ n

/-- Whether a character is a blank within a line. -/
def isBlank (c : Char) : Bool :=
  c == ' ' || c == '\t'

/-- Whether a character ends a line. -/
def isBreak (c : Char) : Bool :=
  c == '\n' || c == '\r' || c == '\u0085' || c == '\u2028' || c == '\u2029'

/-- Whether a character may stand in the name of an anchor, a directive or a tag handle. -/
def isNameChar (c : Char) : Bool :=
  c.isAlphanum || c == '_' || c == '-'

/-- Whether the text is at the end of a line. -/
def atLineEnd : List Char → Bool
  | [] => true
  | c :: _ => isBreak c

/-- Whether the text is at the end of a word. -/
def atWordEnd : List Char → Bool
  | [] => true
  | c :: _ => isBlank c || isBreak c

/-- The text behind the line break that it begins with, if it does. -/
def dropBreak : List Char → List Char
  | '\r' :: '\n' :: r => r
  | c :: r => if isBreak c then r else c :: r
  | [] => []

/-- The character that a line break leaves in a scalar: the separators of Unicode stay, and any
other break becomes a line feed. -/
def keptBreak (c : Char) : Char :=
  if c = '\u2028' ∨ c = '\u2029' then c else '\n'

/-- The text without its blanks and its comment, up to the end of the line. -/
def dropComment (l : List Char) : List Char :=
  match l.dropWhile isBlank with
  | '#' :: r => r.dropWhile fun c => !isBreak c
  | r => r

/-- Whether the text begins with the mark of a document's beginning. -/
def atDocumentStart : List Char → Bool
  | '-' :: '-' :: '-' :: r => atWordEnd r
  | _ => false

/-- Whether the text begins with the mark of a document's end. -/
def atDocumentEnd : List Char → Bool
  | '.' :: '.' :: '.' :: r => atWordEnd r
  | _ => false

/-- Whether the text begins with the mark of a document. -/
def atDocumentMark (l : List Char) : Bool :=
  atDocumentStart l || atDocumentEnd l

/-- A position: the text from there on, how many characters lie before it, in which line it is, and
how many characters of that line lie before it. -/
structure Cursor where
  rest : List Char
  index : Nat
  line : Nat
  column : Nat
  deriving DecidableEq, Repr

namespace Cursor

/-- The beginning of a text. -/
def start (text : List Char) : Cursor :=
  ⟨text, 0, 0, 0⟩

/-- The line and the column behind some text, from those before it. -/
def advance (line column : Nat) : List Char → Nat × Nat
  | [] => (line, column)
  | '\r' :: '\n' :: r => advance (line + 1) 0 r
  | c :: r => if isBreak c then advance (line + 1) 0 r else advance line (column + 1) r

/-- The position where `rest` is to come. -/
def movedTo (c : Cursor) (rest : List Char) : Cursor :=
  let passed := c.rest.take (c.rest.length - rest.length)
  let (line, column) := advance c.line c.column passed
  ⟨rest, c.index + passed.length, line, column⟩

end Cursor
end ToolRelay.Yaml
