import ToolRelay.Yaml.Character

/-!
# Folded lines

A scalar that runs over several lines is read as pieces: characters, blanks, and line breaks. In a
gap between characters, blanks stay only where the gap has no line break. Of several breaks the
first is dropped, and a single one becomes a space; only the separators of Unicode are never
dropped.
-/

set_option autoImplicit false

namespace ToolRelay.Yaml

/-- A piece of a scalar. -/
inductive Piece
  | char (c : Char)
  | blank (c : Char)
  | lineBreak (kept : Char)
  /-- A line break behind a backslash, which leaves nothing. -/
  | escapedBreak
  deriving DecidableEq, Repr

/-- What lies between two characters. -/
inductive Gap
  | blanks (l : List Char)
  /-- The first line break, unless it was escaped, and those after it. -/
  | breaks (first : Option Char) (more : List Char)
  deriving DecidableEq, Repr

namespace Gap

/-- The gap with nothing in it. -/
def none : Gap :=
  .blanks []

/-- The gap with one more blank. -/
def blank (c : Char) : Gap → Gap
  | .blanks l => .blanks (l ++ [c])
  | g => g

/-- The gap with one more line break. -/
def lineBreak (c : Char) : Gap → Gap
  | .blanks _ => .breaks (some c) []
  | .breaks first more => .breaks first (more ++ [c])

/-- What the gap leaves in the scalar. -/
def text : Gap → List Char
  | .blanks l => l
  | .breaks (some c) more =>
    if c ≠ '\n' then c :: more else if more.isEmpty then [' '] else more
  | .breaks Option.none more => more

end Gap

namespace Piece

/-- Whether the piece is part of a gap. -/
def inGap : Piece → Bool
  | .char _ => false
  | _ => true

/-- Whether the piece is a line break. -/
def isLineBreak : Piece → Bool
  | .lineBreak _ => true
  | _ => false

/-- The text of some pieces, behind a gap. -/
def foldFrom (gap : Gap) : List Piece → List Char
  | [] => gap.text
  | .char c :: r => gap.text ++ c :: foldFrom .none r
  | .blank c :: r => foldFrom (gap.blank c) r
  | .lineBreak c :: r => foldFrom (gap.lineBreak c) r
  | .escapedBreak :: r => gap.text ++ foldFrom (.breaks Option.none []) r

/-- The text of some pieces. -/
def fold (l : List Piece) : List Char :=
  foldFrom .none l

/-- The gap that some pieces end with. -/
def endGap (l : List Piece) : List Piece :=
  (l.reverse.takeWhile inGap).reverse

/-- The pieces without the gap that they end with. -/
def dropEndGap (l : List Piece) : List Piece :=
  (l.reverse.dropWhile inGap).reverse

end Piece
end ToolRelay.Yaml
