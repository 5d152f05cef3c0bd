import ToolRelay.Url.Percent
import ToolRelay.Yaml.Fold

/-!
# Quoted scalars

Between single quotes only the single quote is special, and is written twice. Between double quotes
a backslash begins an escape. Both may run over several lines, none of which may look like the mark
of a document, and both must be closed.
-/

set_option autoImplicit false

namespace ToolRelay.Yaml.Quoted

/-- The pieces of the text behind an opening single quote, and the text behind the closing one.
`lineStart` tells whether the text is at the start of a line. -/
def single (lineStart : Bool) : List Char → Option (List Piece × List Char)
  | [] => none
  | '\'' :: '\'' :: r => (single false r).map fun (l, rest) => (.char '\'' :: l, rest)
  | '\'' :: r => some ([], r)
  | '\r' :: '\n' :: r => (single true r).map fun (l, rest) => (.lineBreak '\n' :: l, rest)
  | c :: r =>
    if lineStart && atDocumentMark (c :: r) then none
    else if isBreak c then
      (single true r).map fun (l, rest) => (.lineBreak (keptBreak c) :: l, rest)
    else
      (single false r).map fun (l, rest) => ((if isBlank c then .blank c else .char c) :: l, rest)

/-- The characters that escapes of one letter stand for. -/
def named : List (Char × Char) :=
  [('0', '\x00'), ('a', '\x07'), ('b', '\x08'), ('t', '\t'), ('\t', '\t'), ('n', '\n'),
    ('v', '\x0b'), ('f', '\x0c'), ('r', '\r'), ('e', '\x1b'), (' ', ' '), ('"', '"'), ('/', '/'),
    ('\\', '\\'), ('N', '\u0085'), ('_', '\u00a0'), ('L', '\u2028'), ('P', '\u2029')]

/-- How many hexadecimal digits follow a letter. -/
def digitsOf : List (Char × Nat) :=
  [('x', 2), ('u', 4), ('U', 8)]

/-- The character of a number, if there is one. -/
def charOf? (n : Nat) : Option Char :=
  if n < 0xD800 ∨ (0xDFFF < n ∧ n ≤ 0x10FFFF) then some (Char.ofNat n) else none

/-- The number of hexadecimal digits. -/
def hexNumber? (l : List Char) : Option Nat :=
  l.foldlM (fun n c => (Url.hexValue? c).map (n * 16 + ·)) 0

/-- The character of the escape that stands behind a backslash, and how many characters it takes. -/
def escape? : List Char → Option (Char × Nat)
  | [] => none
  | c :: r =>
    match named.lookup c, digitsOf.lookup c with
    | some d, _ => some (d, 1)
    | none, some n =>
      if r.length < n then none
      else ((hexNumber? (r.take n)).bind charOf?).map fun d => (d, n + 1)
    | none, none => none

/-- The pieces of the text behind an opening double quote, and the text behind the closing one.
`lineStart` tells whether the text is at the start of a line. -/
def double (lineStart : Bool) : List Char → Option (List Piece × List Char)
  | [] => none
  | '"' :: r => some ([], r)
  | '\r' :: '\n' :: r => (double true r).map fun (l, rest) => (.lineBreak '\n' :: l, rest)
  | '\\' :: '\r' :: '\n' :: r => (double true r).map fun (l, rest) => (.escapedBreak :: l, rest)
  | c :: r =>
    if lineStart && atDocumentMark (c :: r) then none
    else if c = '\\' then
      if r.head?.any isBreak then
        (double true (r.drop 1)).map fun (l, rest) => (.escapedBreak :: l, rest)
      else match escape? r with
        | none => none
        | some (d, n) => (double false (r.drop n)).map fun (l, rest) => (.char d :: l, rest)
    else if isBreak c then
      (double true r).map fun (l, rest) => (.lineBreak (keptBreak c) :: l, rest)
    else
      (double false r).map fun (l, rest) => ((if isBlank c then .blank c else .char c) :: l, rest)
termination_by l => l.length
decreasing_by all_goals simp only [List.length_cons, List.length_drop]; omega

end ToolRelay.Yaml.Quoted
