import ToolRelay.Yaml.Block
import ToolRelay.Yaml.Plain
import ToolRelay.Yaml.Quoted
import ToolRelay.Yaml.Token

/-!
# Reading tokens

A key of a mapping is only known for one when the colon behind it comes up, so a place where a key
may begin is kept in mind, and the token that announces it is put in there afterwards. Such a key
must stand on one line and take no more than 1024 characters. Block collections end where a token
stands further to the left than their own column.
-/

set_option autoImplicit false

namespace ToolRelay.Yaml

/-- A place where a key may begin. -/
structure KeyPlace where
  /-- How many tokens stand before it. -/
  before : Nat
  /-- Whether nothing but a key can stand there. -/
  required : Bool
  index : Nat
  line : Nat
  column : Nat
  deriving DecidableEq, Repr

/-- How far the reading of a text has come. -/
structure Lexer where
  cursor : Cursor
  /-- The tokens so far, the last one first. -/
  tokens : List Token
  /-- The columns of the block collections that are open, the innermost first. -/
  levels : List Nat
  /-- Whether a key may begin at this place. -/
  keyAllowed : Bool
  /-- The place of a key, if there is one, for each flow collection that is open, the innermost
  first, and for what is around them all. -/
  keys : List (Option KeyPlace)
  deriving Repr

namespace Lexer

/-- The beginning of a text. -/
def start (text : List Char) : Lexer :=
  ⟨.start text, [], [], true, [none]⟩

/-- How long a key may be. -/
def maxKeyLength : Nat := 1024

/-- Whether a flow collection is open. -/
def inFlow (s : Lexer) : Bool :=
  1 < s.keys.length

/-- The column that what belongs to the innermost block collection must reach. -/
def leastColumn (s : Lexer) : Nat :=
  match s.levels with
  | [] => 0
  | column :: _ => column + 1

/-- The state behind a token that ends where `rest` begins. -/
def emit (s : Lexer) (t : Token) (rest : List Char) : Lexer :=
  { s with tokens := t :: s.tokens, cursor := s.cursor.movedTo rest }

/-- The state with a token put in behind the first `before` tokens. -/
def insert (s : Lexer) (before : Nat) (t : Token) : Lexer :=
  let behind := s.tokens.length - before
  { s with tokens := s.tokens.take behind ++ t :: s.tokens.drop behind }

/-- The text behind space and comments, and whether a key may begin there: on a new line it may,
unless a flow collection is open. Tabs count as space where no key may begin. -/
def skipSpace (flow : Bool) (keyAllowed inComment lineStart : Bool) :
    List Char → List Char × Bool
  | [] => ([], keyAllowed)
  | c :: r =>
    if isBreak c then skipSpace flow (keyAllowed || !flow) false true r
    else if inComment || c = ' ' || (c = '\t' && (flow || !keyAllowed)) then
      skipSpace flow keyAllowed inComment false r
    else if c = '\uFEFF' && lineStart then skipSpace flow keyAllowed false false r
    else if c = '#' then skipSpace flow keyAllowed true false r
    else (c :: r, keyAllowed)

/-- The state at the next token. -/
def skip (s : Lexer) : Lexer :=
  let (rest, keyAllowed) :=
    skipSpace s.inFlow s.keyAllowed false (s.cursor.column == 0) s.cursor.rest
  { s with cursor := s.cursor.movedTo rest, keyAllowed := keyAllowed }

/-- Whether the place of a key is too far back for a key. -/
def isStale (c : Cursor) (k : KeyPlace) : Bool :=
  k.line < c.line || k.index + maxKeyLength < c.index

/-- The state without the places that are too far back; none of them may be required. -/
def dropStale? (s : Lexer) : Option Lexer :=
  if s.keys.any fun k => k.any fun k => isStale s.cursor k && k.required then none
  else some { s with keys := s.keys.map fun k => k.filter fun k => !isStale s.cursor k }

/-- The state without the innermost place of a key, which may not be required. -/
def dropKey? (s : Lexer) : Option Lexer :=
  match s.keys with
  | some k :: r => if k.required then none else some { s with keys := none :: r }
  | _ => some s

/-- The state with this place kept in mind for a key, if a key may begin here. -/
def saveKey? (s : Lexer) : Option Lexer :=
  if s.keyAllowed then
    (dropKey? s).map fun t =>
      let required := !s.inFlow && s.levels.head? == some s.cursor.column
      let k := ⟨s.tokens.length, required, s.cursor.index, s.cursor.line, s.cursor.column⟩
      { t with keys := some k :: t.keys.drop 1 }
  else some s

/-- The state with a block collection opened behind the first `before` tokens, if none that is open
reaches this column. -/
def openBlock (s : Lexer) (column before : Nat) (t : Token) : Lexer :=
  if s.inFlow || s.levels.head?.any (column ≤ ·) then s
  else { s.insert before t with levels := column :: s.levels }

/-- The state with every block collection closed that begins behind a column, or with all closed. -/
def closeBlocks (s : Lexer) (column : Option Nat) : Lexer :=
  if s.inFlow then s
  else
    let closed := s.levels.takeWhile fun l => column.all (· < l)
    { s with
      tokens := closed.map (fun _ => .blockEnd) ++ s.tokens
      levels := s.levels.drop closed.length }

/-- Reads a directive, or the mark of a document. -/
def outer? (s : Lexer) (t : Token) (rest : List Char) : Option Lexer :=
  (dropKey? (closeBlocks s none)).map fun s => { s with keyAllowed := false }.emit t rest

/-- Reads the bracket that opens a flow collection. -/
def openFlow? (s : Lexer) (t : Token) (rest : List Char) : Option Lexer :=
  (saveKey? s).map fun s => { s with keys := none :: s.keys, keyAllowed := true }.emit t rest

/-- Reads the bracket that closes a flow collection. -/
def closeFlow? (s : Lexer) (t : Token) (rest : List Char) : Option Lexer :=
  (dropKey? s).map fun s =>
    { s with keys := if s.inFlow then s.keys.drop 1 else s.keys, keyAllowed := false }.emit t rest

/-- Reads the comma of a flow collection. -/
def flowEntry? (s : Lexer) (rest : List Char) : Option Lexer :=
  (dropKey? s).map fun s => { s with keyAllowed := true }.emit .flowEntry rest

/-- Opens a block collection with the sign that stands here; a key must be allowed there. -/
def openWith? (s : Lexer) (t : Token) : Option Lexer :=
  if s.inFlow then some s
  else if s.keyAllowed then some (s.openBlock s.cursor.column s.tokens.length t)
  else none

/-- Reads the dash of an item. -/
def blockEntry? (s : Lexer) (rest : List Char) : Option Lexer := do
  let s ← s.openWith? .blockSequenceStart
  let s ← s.dropKey?
  return { s with keyAllowed := true }.emit .blockEntry rest

/-- Reads the question mark of a key. -/
def key? (s : Lexer) (rest : List Char) : Option Lexer := do
  let s ← s.openWith? .blockMappingStart
  let s ← s.dropKey?
  return { s with keyAllowed := !s.inFlow }.emit .key rest

/-- Reads the colon of a value. If a key may have begun before it, it did. -/
def value? (s : Lexer) (rest : List Char) : Option Lexer :=
  match s.keys with
  | some k :: r =>
    let s := { s.insert k.before .key with keys := none :: r }
    let s := s.openBlock k.column k.before .blockMappingStart
    some ({ s with keyAllowed := false }.emit .value rest)
  | _ => do
    let s ← s.openWith? .blockMappingStart
    return { s with keyAllowed := !s.inFlow }.emit .value rest

/-- Reads a token that a key may begin with. -/
def word? (s : Lexer) (t : Token) (rest : List Char) : Option Lexer :=
  (saveKey? s).map fun s => { s with keyAllowed := false }.emit t rest

/-- What may stand behind the name of an anchor, blanks and line breaks apart. -/
def endsName (l : List Char) : Bool :=
  atWordEnd l || l.head?.any (['?', ':', ',', ']', '}', '%', '@', '`'].contains ·)

/-- Reads the name of an anchor or of a reference to one. -/
def name? (s : Lexer) (make : List Char → Token) (l : List Char) : Option Lexer :=
  let name := l.takeWhile isNameChar
  let rest := l.dropWhile isNameChar
  if name.isEmpty || !endsName rest then none else s.word? (make name) rest

/-- Reads a tag. -/
def tag? (s : Lexer) : Option Lexer := do
  let (tag, rest) ← Tag.ofText? s.inFlow s.cursor.rest
  s.word? (.tag tag) rest

/-- Reads a quoted scalar from the text behind its opening quote. -/
def quoted? (s : Lexer) (read : Bool → List Char → Option (List Piece × List Char))
    (l : List Char) : Option Lexer := do
  let (ps, rest) ← read false l
  s.word? (.scalar false (Piece.fold ps)) rest

/-- Reads a block scalar from the text behind its sign. -/
def block? (s : Lexer) (folded : Bool) (l : List Char) : Option Lexer := do
  let s ← s.dropKey?
  let (text, rest) ← Block.scalar? folded s.leastColumn (s.leastColumn - 1) l
  return { s with keyAllowed := true }.emit (.scalar false text) rest

/-- Reads a plain scalar. Behind one that is followed by a line break a key may begin. -/
def plain? (s : Lexer) : Option Lexer := do
  let (ps, rest) ←
    Plain.pieces s.inFlow s.leastColumn ⟨false, false, s.cursor.column⟩ s.cursor.rest
  let s ← s.word? (.scalar true (Piece.fold (Piece.dropEndGap ps))) rest
  return { s with keyAllowed := (Piece.endGap ps).any Piece.isLineBreak }

/-- What no plain scalar begins with, unless something joins it. -/
def isIndicator (c : Char) : Bool :=
  c ∈ ['-', '?', ':', ',', '[', ']', '{', '}', '#', '&', '*', '!', '|', '>', '\'', '"', '%', '@', '`']

/-- Whether a plain scalar begins here. -/
def startsPlain (flow : Bool) (c : Char) (r : List Char) : Bool :=
  (!isBlank c && !isBreak c && !isIndicator c) || (c == '-' && !r.head?.any isBlank) ||
    (!flow && (c == '?' || c == ':') && !atWordEnd r)

/-- Reads the token that stands here. -/
def token? (s : Lexer) (c : Char) (r : List Char) : Option Lexer :=
  let flow := s.inFlow
  if s.cursor.column = 0 ∧ c = '%' then
    (Directive.ofText? r).bind fun (d, rest) => s.outer? (.directive d) rest
  else if s.cursor.column = 0 ∧ atDocumentStart (c :: r) then s.outer? .documentStart (r.drop 2)
  else if s.cursor.column = 0 ∧ atDocumentEnd (c :: r) then s.outer? .documentEnd (r.drop 2)
  else if c = '[' then s.openFlow? .flowSequenceStart r
  else if c = '{' then s.openFlow? .flowMappingStart r
  else if c = ']' then s.closeFlow? .flowSequenceEnd r
  else if c = '}' then s.closeFlow? .flowMappingEnd r
  else if c = ',' then s.flowEntry? r
  else if c = '-' ∧ atWordEnd r then s.blockEntry? r
  else if c = '?' ∧ (flow ∨ atWordEnd r) then s.key? r
  else if c = ':' ∧ (flow ∨ atWordEnd r) then s.value? r
  else if c = '*' then s.name? .reference r
  else if c = '&' then s.name? .anchor r
  else if c = '!' then s.tag?
  else if c = '|' ∧ !flow then s.block? false r
  else if c = '>' ∧ !flow then s.block? true r
  else if c = '\'' then s.quoted? Quoted.single r
  else if c = '"' then s.quoted? Quoted.double r
  else if startsPlain flow c r then s.plain?
  else none

/-- Reads the tokens up to the end of the text. -/
def run? : (fuel : Nat) → Lexer → Option (List Token)
  | 0, _ => none
  | fuel + 1, s =>
    (dropStale? s.skip).bind fun s =>
      let s := s.closeBlocks (some s.cursor.column)
      match s.cursor.rest with
      | [] => (dropKey? (s.closeBlocks none)).map fun s => s.tokens.reverse
      | c :: r => (s.token? c r).bind (run? fuel)

end Lexer

/-- The tokens of a text. Each takes a character of it. -/
def Token.ofText? (text : List Char) : Option (List Token) :=
  Lexer.run? (text.length + 1) (.start text)

end ToolRelay.Yaml
