import ToolRelay.Text.Line
import ToolRelay.Url.Percent

/-!
# Paths

The path of a URL with an authority is a list of segments, each written behind a slash. In reading,
a segment of one dot is left out and one of two dots takes away the segment before it; where such a
segment comes last, an empty one ends the path. Two dots never take away the letter of a drive,
wherever it stands and whatever the scheme. A file path may begin with such a letter, and then the
file is on this machine.
-/

set_option autoImplicit false

namespace ToolRelay.Url

/-- The kinds of schemes that differ in how the rest of a URL is read. -/
inductive SchemeKind
  /-- The schemes of the web, which always have a host. -/
  | web
  /-- Files, whose host may be empty. -/
  | file
  /-- All others. -/
  | other
  deriving DecidableEq, Repr

/-- Whether a backslash separates segments as a slash does. -/
def SchemeKind.special : SchemeKind → Bool
  | .other => false
  | _ => true

/-- Whether a character separates segments. -/
def SchemeKind.isSlash (k : SchemeKind) (c : Char) : Bool :=
  c == '/' || (k.special && c == '\\')

namespace Path

/-- The segment with an encoded dot in place of a plain one read as a dot. -/
def dots : List Char → List Char
  | '%' :: '2' :: e :: r => if e = 'e' ∨ e = 'E' then '.' :: dots r else '%' :: '2' :: e :: dots r
  | c :: r => c :: dots r
  | [] => []

/-- Whether a segment stands for the place where it is. -/
def isHere (segment : List Char) : Bool :=
  dots segment == ['.']

/-- Whether a segment stands for the place above. -/
def isAbove (segment : List Char) : Bool :=
  dots segment == ['.', '.']

/-- Whether tabs and line ends are passed over in reading: they are, everywhere in a URL. -/
def isPassedOver (c : Char) : Bool :=
  c == '\t' || c == '\n' || c == '\r'

/-- The characters of a text that are not passed over. -/
def seen (l : List Char) : List Char :=
  l.filter fun c => !isPassedOver c

/-- The segment for a drive, if this is one: a letter and a colon, or a bar in its place. -/
def drive? : List Char → Option (List Char)
  | [c, d] => if c.isAlpha && (d == ':' || d == '|') then some [c, ':'] else none
  | _ => none

/-- Whether two dots leave a segment where it is: a drive, or one with a backslash behind it. -/
def stays : List Char → Bool
  | c :: d :: r => c.isAlpha && (d == ':' || d == '|') && (r.isEmpty || r.head? == some '\\')
  | _ => false

/-- The segments without the last one, unless it stays. -/
def shorten (segments : List (List Char)) : List (List Char) :=
  if segments.getLast?.any stays then segments else segments.dropLast

/-- A drive and what follows it in the same piece, where something that is passed over stands in
between. -/
def driveAndRest? (piece : List Char) : Option (List Char × List Char) :=
  match piece.dropWhile isPassedOver with
  | c :: r =>
    match r.dropWhile isPassedOver with
    | ':' :: r =>
      if c.isAlpha && r.head?.any isPassedOver && !(seen r).isEmpty then some ([c, ':'], seen r)
      else none
    | _ => none
  | [] => none

/-- What is read of a path: its segments, and whether it begins with a drive of this machine. -/
structure Reading where
  segments : List (List Char)
  onDrive : Bool
  deriving DecidableEq, Repr

/-- The segments with one more, which is neither one dot nor two, given as it was written. -/
def Reading.push (r : Reading) (piece : List Char) : Reading :=
  { r with segments := r.segments ++ [encode pathSet (seen piece)] }

/-- The segments with the first one of a file. -/
def Reading.pushFirst (r : Reading) (piece : List Char) : Reading :=
  match drive? (seen piece) with
  | some drive => ⟨[drive], true⟩
  | none => r.push piece

/-- The segments with one more piece, given whether it is the last one. -/
def Reading.add (k : SchemeKind) (final : Bool) (r : Reading) (piece : List Char) : Reading :=
  let first := k == .file && r.segments.isEmpty
  let ending := if final then [[]] else []
  match if first then driveAndRest? piece else none with
  | some (drive, rest) => { r with segments := [drive, encode pathSet rest] }
  | none =>
    if isAbove (seen piece) then { r with segments := shorten r.segments ++ ending }
    else if isHere (seen piece) then { r with segments := r.segments ++ ending }
    else if first then r.pushFirst piece
    else r.push piece

/-- The segments that a list of pieces adds to those before it. -/
def Reading.follow (k : SchemeKind) (r : Reading) : List (List Char) → Reading
  | [] => r
  | [piece] => r.add k true piece
  | piece :: rest => (r.add k false piece).follow k rest

/-- The segments without the empty ones that they begin with, but for the last segment. -/
def dropEmpty : List (List Char) → List (List Char)
  | [] :: s :: r => dropEmpty (s :: r)
  | l => l

/-- What is read of a text, which may begin with a slash. Empty segments before the others do not
count in a file. -/
def read (k : SchemeKind) (text : List Char) : Reading :=
  let text := (text.map fun c => if k.isSlash c then '/' else c).dropWhile isPassedOver
  let behind := if text.head? = some '/' then text.drop 1 else text
  let r := Reading.follow k ⟨[], false⟩ (Text.pieces '/' behind)
  if k = .file then { r with segments := dropEmpty r.segments } else r

/-- The segments as they are written, each behind a slash. -/
def text (segments : List (List Char)) : List Char :=
  segments.flatMap ('/' :: ·)

end Path
end ToolRelay.Url
