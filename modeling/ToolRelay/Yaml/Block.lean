import ToolRelay.Yaml.Fold

/-!
# Block scalars

A block scalar is made up of the lines below its header that are indented far enough. A literal one
keeps its line breaks; a folded one folds the breaks between two lines of which neither begins with
a blank. What becomes of the breaks at the end is for the header to say.
-/

set_option autoImplicit false

namespace ToolRelay.Yaml.Block

/-- What becomes of the line breaks that a scalar ends with. -/
inductive Chomping
  | strip
  | clip
  | keep
  deriving DecidableEq, Repr

/-- What a header says: how much the lines are indented is left to the first line if it is not
given. -/
structure Header where
  folded : Bool
  chomping : Chomping
  indentation : Option Nat
  deriving DecidableEq, Repr

/-- The chomping that a text begins with, if it does, and the text behind it. -/
def chomping? : List Char → Option Chomping × List Char
  | '+' :: r => (some .keep, r)
  | '-' :: r => (some .strip, r)
  | l => (none, l)

/-- The indentation that a text begins with, if it does, and the text behind it; it cannot be
zero. -/
def indentation? : List Char → Option (Option Nat × List Char)
  | '0' :: _ => none
  | c :: r => if '1' ≤ c ∧ c ≤ '9' then some (some (c.toNat - 48), r) else some (none, c :: r)
  | [] => some (none, [])

/-- The header behind the sign of a block scalar, with the text on the lines below it. -/
def header? (folded : Bool) (l : List Char) : Option (Header × List Char) := do
  let (before, l) := chomping? l
  let (indentation, l) ← indentation? l
  let (after, l) := if before.isNone && indentation.isSome then chomping? l else (none, l)
  let l := dropComment l
  if atLineEnd l then
    return (⟨folded, ((before.or after).getD .clip), indentation⟩, dropBreak l)
  else none

/-- The line breaks of the empty lines at the beginning of a text, the column in which it goes on,
the widest of the columns where a line began, and the text from there on. -/
structure Opening where
  breaks : List Char
  column : Nat
  widest : Nat
  rest : List Char
  deriving DecidableEq, Repr

/-- Reads empty lines, whose indentation goes up to `limit` if that is given. No tab may stand in an
indentation. -/
def opening? (limit : Option Nat) (column widest : Nat) : List Char → Option Opening
  | [] => some ⟨[], column, max widest column, []⟩
  | '\r' :: '\n' :: r =>
    (opening? limit 0 (max widest column) r).map fun o => { o with breaks := '\n' :: o.breaks }
  | c :: r =>
    let inside := limit.all (column < ·)
    if c = ' ' && inside then opening? limit (column + 1) widest r
    else if c = '\t' && inside then none
    else if isBreak c then
      (opening? limit 0 (max widest column) r).map
        fun o => { o with breaks := keptBreak c :: o.breaks }
    else some ⟨[], column, max widest column, c :: r⟩

/-- The pieces of lines indented by `indent`, and the text behind them and behind the indentation
of the line that it is on. -/
def pieces (indent : Nat) (inLine : Bool) (column : Nat) :
    List Char → Option (List Piece × List Char)
  | [] => some ([], [])
  | '\r' :: '\n' :: r =>
    (pieces indent false 0 r).map fun (l, rest) => (.lineBreak '\n' :: l, rest)
  | c :: r =>
    if isBreak c then
      (pieces indent false 0 r).map fun (l, rest) => (.lineBreak (keptBreak c) :: l, rest)
    else if inLine || column == indent then
      (pieces indent true 0 r).map fun (l, rest) => (.char c :: l, rest)
    else if c = ' ' then pieces indent false (column + 1) r
    else if c = '\t' then none
    else some ([], c :: r)

/-- A line that is not empty, and the line breaks behind it. -/
structure Line where
  text : List Char
  breaks : List Char
  deriving DecidableEq, Repr

/-- The line breaks that some pieces begin with, and the lines behind them. -/
def linesOf : List Piece → List Char × List Line
  | [] => ([], [])
  | .lineBreak b :: r => (b :: (linesOf r).1, (linesOf r).2)
  | .char c :: r =>
    match linesOf r with
    | ([], l :: ls) => ([], { l with text := c :: l.text } :: ls)
    | (bs, ls) => ([], ⟨[c], bs⟩ :: ls)
  | _ :: r => linesOf r

/-- Whether a line begins with a blank. -/
def Line.indented (l : Line) : Bool :=
  l.text.head?.any isBlank

/-- What is left of the breaks between two lines. -/
def between (folded : Bool) (l next : Line) : List Char :=
  if folded && l.breaks.head? == some '\n' && !l.indented && !next.indented then
    if l.breaks.length == 1 then [' '] else l.breaks.drop 1
  else l.breaks

/-- What is left of the breaks behind the last line. -/
def Chomping.apply (breaks : List Char) : Chomping → List Char
  | .strip => []
  | .clip => breaks.take 1
  | .keep => breaks

/-- The text of some lines. -/
def join (h : Header) : List Line → List Char
  | [] => []
  | [l] => l.text ++ h.chomping.apply l.breaks
  | l :: next :: r => l.text ++ between h.folded l next ++ join h (next :: r)

/-- The text of a scalar that begins with line breaks. -/
def text (h : Header) (opening : List Char) (lines : List Line) : List Char :=
  if lines.isEmpty then if h.chomping = .keep then opening else []
  else opening ++ join h lines

/-- The text of the scalar behind the sign of a block scalar, and what comes behind it. `least` is
the column that its lines reach at least, and `base` the one that a given indentation counts from. -/
def scalar? (folded : Bool) (least base : Nat) (l : List Char) :
    Option (List Char × List Char) := do
  let (h, l) ← header? folded l
  let given := h.indentation.map (base + ·)
  let o ← opening? given 0 0 l
  let indent := given.getD (max o.widest (max least 1))
  let (ps, rest) ← pieces indent false o.column o.rest
  let (_, lines) := linesOf ps
  return (text h o.breaks lines, rest)

end ToolRelay.Yaml.Block
