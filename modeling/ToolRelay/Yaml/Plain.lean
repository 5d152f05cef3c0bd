import ToolRelay.Yaml.Fold

/-!
# Plain scalars

A scalar without quotes ends at a colon that ends a word, at a comment, at the mark of a document,
and at a line that is indented too little; within flow collections also at their punctuation.
-/

set_option autoImplicit false

namespace ToolRelay.Yaml.Plain

/-- The punctuation of flow collections. -/
def isPunctuation (c : Char) : Bool :=
  c ∈ [',', '[', ']', '{', '}']

/-- Whether a colon before the text would run into the punctuation of a flow collection. -/
def clashes (l : List Char) : Bool :=
  match l with
  | c :: _ => isPunctuation c || c == '?'
  | [] => false

/-- Where in a scalar the text is: in a gap or behind a character, whether the gap has a line
break, and in which column. -/
structure Place where
  inGap : Bool
  broken : Bool
  column : Nat
  deriving DecidableEq, Repr

/-- The pieces of the scalar that goes on with the text, and the text behind it and its last gap. A
tab may not stand before column `least` where a line is indented. -/
def pieces (flow : Bool) (least : Nat) (p : Place) :
    List Char → Option (List Piece × List Char)
  | [] => some ([], [])
  | '\r' :: '\n' :: r =>
    (pieces flow least ⟨true, true, 0⟩ r).map fun (l, rest) => (.lineBreak '\n' :: l, rest)
  | c :: r =>
    if isBlank c then
      if p.broken && p.column < least && c == '\t' then none
      else (pieces flow least { p with inGap := true, column := p.column + 1 } r).map
        fun (l, rest) => (.blank c :: l, rest)
    else if isBreak c then
      (pieces flow least ⟨true, true, 0⟩ r).map
        fun (l, rest) => (.lineBreak (keptBreak c) :: l, rest)
    else if p.inGap && ((p.column == 0 && atDocumentMark (c :: r)) || c == '#' ||
        (!flow && p.column < least)) then
      some ([], c :: r)
    else if flow && c == ':' && clashes r then none
    else if (c == ':' && atWordEnd r) || (flow && isPunctuation c) then some ([], c :: r)
    else (pieces flow least ⟨false, false, p.column + 1⟩ r).map
      fun (l, rest) => (.char c :: l, rest)

end ToolRelay.Yaml.Plain
