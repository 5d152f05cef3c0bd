import ToolRelay.Text.Line
import ToolRelay.Request

/-!
# Command lines as a shell reads them

A command line is shown so that a shell would read the same words in it: a word with a character
that means something to a shell stands in single quotes, in which a single quote itself is written
as a quote that closes, an escaped quote, and a quote that opens again. `split?` is the other side:
it cuts a line into words by the rules of a POSIX shell.
-/

set_option autoImplicit false

namespace ToolRelay.Shell

/-- Whether a character may mean something to a shell. -/
def isSpecial (c : Char) : Bool :=
  c ∈ ['\n', '\'', '|', '&', ';', '<', '>', '(', ')', '$', '`', '\\', '"', ' ', '\t',
    '*', '?', '[', '#', '~', '=', '%']

/-- A single quote inside single quotes. -/
def quotedChar (c : Char) : List Char :=
  if c = '\'' then ['\'', '\\', '\'', '\''] else [c]

/-- A word as it is written on a line. -/
def quote (word : List Char) : List Char :=
  if word.isEmpty || word.any isSpecial then '\'' :: word.flatMap quotedChar ++ ['\''] else word

/-- The words on a line, one space apart. -/
def join (words : List (List Char)) : List Char :=
  Text.joinWith [' '] (words.map quote)

/-- Where the reading of a line stands. -/
inductive Mode
  /-- Between two words. -/
  | between
  /-- Behind a backslash between two words. -/
  | betweenEscaped
  /-- In a word, outside quotes. -/
  | word
  /-- Behind a backslash in a word, outside quotes. -/
  | escaped
  /-- Between single quotes. -/
  | single
  /-- Between double quotes. -/
  | double
  /-- Behind a backslash between double quotes. -/
  | doubleEscaped
  /-- In a comment, which ends with the line. -/
  | comment
  deriving DecidableEq, Repr

/-- Whether a character separates words. -/
def isSeparator (c : Char) : Bool :=
  c == ' ' || c == '\t' || c == '\n'

/-- The words of a line, given the mode and the characters of the word under way. A line feed behind
a backslash joins two lines. There are no words if a quote is left open. -/
def splitFrom : Mode → List Char → List Char → Option (List (List Char))
  | .between, _, [] => some []
  | .comment, _, [] => some []
  | .word, w, [] => some [w]
  | .betweenEscaped, _, [] => some [['\\']]
  | .escaped, w, [] => some [w ++ ['\\']]
  | _, _, [] => none
  | .between, _, c :: r =>
    if isSeparator c then splitFrom .between [] r
    else if c = '\'' then splitFrom .single [] r
    else if c = '"' then splitFrom .double [] r
    else if c = '\\' then splitFrom .betweenEscaped [] r
    else if c = '#' then splitFrom .comment [] r
    else splitFrom .word [c] r
  | .betweenEscaped, _, c :: r =>
    if c = '\n' then splitFrom .between [] r else splitFrom .word [c] r
  | .word, w, c :: r =>
    if isSeparator c then (splitFrom .between [] r).map (w :: ·)
    else if c = '\'' then splitFrom .single w r
    else if c = '"' then splitFrom .double w r
    else if c = '\\' then splitFrom .escaped w r
    else splitFrom .word (w ++ [c]) r
  | .escaped, w, c :: r => if c = '\n' then splitFrom .word w r else splitFrom .word (w ++ [c]) r
  | .single, w, c :: r => if c = '\'' then splitFrom .word w r else splitFrom .single (w ++ [c]) r
  | .double, w, c :: r =>
    if c = '"' then splitFrom .word w r
    else if c = '\\' then splitFrom .doubleEscaped w r
    else splitFrom .double (w ++ [c]) r
  | .doubleEscaped, w, c :: r =>
    if c = '\n' then splitFrom .double w r
    else if c ∈ ['$', '`', '"', '\\'] then splitFrom .double (w ++ [c]) r
    else splitFrom .double (w ++ ['\\', c]) r
  | .comment, _, c :: r => if c = '\n' then splitFrom .between [] r else splitFrom .comment [] r

/-- The words of a line. -/
def split? (line : List Char) : Option (List (List Char)) :=
  splitFrom .between [] line

end ToolRelay.Shell

namespace ToolRelay

/-- The command line of a request, as a shell would read it. -/
def CommandRequest.line (r : CommandRequest) : String :=
  String.ofList (Shell.join ((r.program :: r.arguments).map String.toList))

end ToolRelay
