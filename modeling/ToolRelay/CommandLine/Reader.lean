import ToolRelay.CommandLine.Basic
import ToolRelay.Config
import ToolRelay.Text.Line

/-!
# Reading a command line

A word that begins with a dash is an option: one long option behind two dashes, with a value behind
an equals sign if there is one, or short options of a letter each behind a single dash. Two dashes
alone end the options, and a dash alone is a value like any other word.

The words are read one by one, first those of the program and behind the name of a command those of
the command. A value is only looked at when the next option or value begins or the words are at an
end, so a word that is wrong by its form comes before a value that is wrong. Options of the program
may also be given to the command, and what is given to the command counts. The number of seconds may
come from the environment; it must be a number there even if it is not needed.
-/

set_option autoImplicit false

namespace ToolRelay.CommandLine

/-- A word by its form. -/
inductive Word
  | value
  | endOfOptions
  | long (name : String) (value : Option String)
  | short (letters : List Char)
  deriving DecidableEq, Repr

/-- The form of a word. -/
def Word.of (word : String) : Word :=
  match word.toList with
  | ['-', '-'] => .endOfOptions
  | '-' :: '-' :: r =>
    let (name, attached) := Text.cut '=' r
    .long (String.ofList name) (attached.map String.ofList)
  | ['-'] => .value
  | '-' :: r => .short r
  | _ => .value

/-- The names of commands. -/
inductive Verb
  | serve
  | list
  | get
  | call
  deriving DecidableEq, Repr

namespace Verb

/-- All names. -/
def all : List Verb := [.serve, .list, .get, .call]

/-- The name as a word. -/
def name : Verb → String
  | .serve => "serve"
  | .list => "list"
  | .get => "get"
  | .call => "call"

/-- The name that a word is. -/
def ofName? (word : String) : Option Verb :=
  all.find? fun v => v.name == word

end Verb

/-- What a value is given for. -/
inductive Slot
  | timeout
  | profile
  | operation
  | param
  | file
  deriving DecidableEq, Repr

/-- What an option does. -/
inductive Switch
  | help
  | version
  | verbose
  | quiet
  | json
  /-- The next word is a value. -/
  | valued (slot : Slot)
  deriving DecidableEq, Repr

/-- Whose words are read: those of the program, or of a command. -/
abbrev Scope := Option Verb

namespace Scope

/-- The long options that can be given everywhere. -/
def sharedOptions : List (String × Switch) :=
  [("help", .help), ("version", .version), ("verbose", .verbose), ("quiet", .quiet),
    ("timeout-secs", .valued .timeout)]

/-- The long options of a scope that are its own. -/
def ownOptions : Scope → List (String × Switch)
  | none => []
  | some .serve => []
  | some .list => [("json", .json)]
  | some .get => [("json", .json)]
  | some .call => [("json", .json), ("param", .valued .param), ("param-file", .valued .file)]

/-- The long option of a name. -/
def long? (s : Scope) (name : String) : Option Switch :=
  (sharedOptions ++ ownOptions s).lookup name

/-- The short option of a letter. -/
def short? (letter : Char) : Option Switch :=
  [('h', Switch.help), ('V', .version), ('v', .verbose), ('q', .quiet)].lookup letter

/-- What the values without an option are given for, one after the other. -/
def places : Scope → List Slot
  | none => []
  | some .serve => [.profile]
  | some .list => [.profile]
  | some .get => [.profile, .operation]
  | some .call => [.profile, .operation]

end Scope

/-- What has been given. -/
structure Given where
  /-- How often more words were asked for. -/
  verbose : Nat
  quiet : Bool
  json : Bool
  timeout : Option Nat
  profile : Option Profile
  operation : Option String
  params : List String
  file : Option String
  deriving DecidableEq, Repr

namespace Given

/-- Nothing has been given yet. -/
def nothing : Given := ⟨0, false, false, none, none, none, [], none⟩

/-- The number of seconds in a text. -/
def seconds (text : String) : Except Stop Nat :=
  match Decimal.natural? Config.maxTimeout text.toList with
  | some n => .ok n
  | none => .error .notNumber

/-- Takes a value. -/
def take (g : Given) (value : String) : Slot → Except Stop Given
  | .timeout =>
    if g.timeout.isSome then .error .repeated
    else (seconds value).map fun n => { g with timeout := some n }
  | .profile => match Profile.ofName? value false with
    | some p => .ok { g with profile := some p }
    | none => .error .invalidValue
  | .operation => .ok { g with operation := some value }
  | .param => .ok { g with params := g.params ++ [value] }
  | .file =>
    if g.file.isSome then .error .repeated else .ok { g with file := some value }

/-- The seconds that were given, or else those of the environment, if it names some. -/
def timeoutIn (g : Given) (fromEnv : Option String) : Except Stop (Option Nat) :=
  match g.timeout, fromEnv with
  | some n, _ => .ok (some n)
  | none, some text => (seconds text).map some
  | none, none => .ok none

end Given

/-- How far the words of a scope have been read. -/
structure Scan where
  given : Given
  /-- What the last value is given for, and the value unless it is still to come. -/
  pending : Option (Slot × Option String)
  /-- What further values without an option are given for. -/
  places : List Slot
  /-- Whether there may be options still. -/
  options : Bool
  deriving DecidableEq, Repr

namespace Scan

/-- Before the first word of a scope. -/
def start (s : Scope) : Scan := ⟨.nothing, none, s.places, true⟩

/-- Whether the next word is a value if it can be one. -/
def awaiting (s : Scan) : Bool :=
  s.pending.any fun (_, value) => value.isNone

/-- Looks at the last value. -/
def settle (s : Scan) : Except Stop Scan :=
  match s.pending with
  | none => .ok s
  | some (_, none) => .error .invalidValue
  | some (slot, some value) =>
    (s.given.take value slot).map fun given => { s with given, pending := none }

/-- Does what an option without a value attached to it does. -/
def apply (s : Scan) (switch : Switch) : Except Stop Scan :=
  match s.settle with
  | .error e => .error e
  | .ok s => match switch with
    | .help => .error .help
    | .version => .error .version
    | .verbose => .ok { s with given := { s.given with verbose := s.given.verbose + 1 } }
    | .quiet =>
      if s.given.quiet then .error .repeated
      else .ok { s with given := { s.given with quiet := true } }
    | .json =>
      if s.given.json then .error .repeated
      else .ok { s with given := { s.given with json := true } }
    | .valued slot => .ok { s with pending := some (slot, none) }

/-- Reads a long option. -/
def long (scope : Scope) (s : Scan) (name : String) (value : Option String) : Except Stop Scan :=
  match scope.long? name, value with
  | none, _ => .error .unknownArgument
  | some switch, none => s.apply switch
  | some (.valued slot), some value =>
    match s.settle with
    | .error e => .error e
    | .ok s => (s.given.take value slot).map fun given => { s with given }
  | some _, some _ => .error .needlessValue

/-- Reads short options. -/
def shorts (s : Scan) : List Char → Except Stop Scan
  | [] => .ok s
  | letter :: rest => match Scope.short? letter with
    | none => .error .unknownArgument
    | some switch => match s.apply switch with
      | .error e => .error e
      | .ok s => s.shorts rest

/-- Why a word is one too many. Behind the end of options even the name of a command is. -/
def surplus (scope : Scope) (s : Scan) (word : String) : Stop :=
  if scope.isNone && (s.options || (Verb.ofName? word).isNone) then .unknownCommand
  else .unknownArgument

/-- Puts a value without an option into its place. -/
def place (scope : Scope) (s : Scan) (word : String) : Except Stop Scan :=
  match s.places with
  | [] => .error (surplus scope s word)
  | slot :: rest => s.settle.map fun s => { s with pending := some (slot, some word), places := rest }

/-- Reads a word that is a value by its form. -/
def value (scope : Scope) (s : Scan) (word : String) : Except Stop Scan :=
  match s.options, s.pending with
  | true, some (slot, none) => .ok { s with pending := some (slot, some word) }
  | _, _ => s.place scope word

/-- Reads a word. -/
def word (scope : Scope) (s : Scan) (word : String) : Except Stop Scan :=
  if s.options then
    match Word.of word with
    | .endOfOptions => .ok { s with options := false }
    | .long name value => s.long scope name value
    | .short letters => s.shorts letters
    | .value => s.value scope word
  else s.place scope word

/-- The command that a word names: only among the words of the program, and not in place of a value
that is to come. -/
def verb? (scope : Scope) (s : Scan) (word : String) : Option Verb :=
  if scope.isNone && s.options && !s.awaiting then Verb.ofName? word else none

/-- Reads words as far as the name of a command. Gives also the command and the words behind it. -/
def words (scope : Scope) (s : Scan) : List String → Except Stop (Scan × Option (Verb × List String))
  | [] => .ok (s, none)
  | w :: rest => match s.verb? scope w with
    | some verb => .ok (s, some (verb, rest))
    | none => match s.word scope w with
      | .error e => .error e
      | .ok s => s.words scope rest

end Scan

namespace Given

/-- The command of a name with what was given to it. -/
def command (g : Given) (verb : Verb) : Except Stop Command :=
  match g.profile with
  | none => .error .missingArgument
  | some p => match verb with
    | .serve => .ok (.serve p)
    | .list => .ok (.list p g.json)
    | .get => .ok (.get p g.operation g.json)
    | .call => match g.operation with
      | none => .error .missingArgument
      | some operation => .ok (.call p ⟨operation, g.params, g.file⟩ g.json)

end Given

/-- Reads the words of a command. Gives the command and what was given with it. -/
def ofCommandWords (verb : Verb) (words : List String) (fromEnv : Option String) :
    Except Stop (Command × Given) := do
  let (scan, _) ← (Scan.start (some verb)).words (some verb) words
  let scan ← scan.settle
  let _ ← scan.given.timeoutIn fromEnv
  let command ← scan.given.command verb
  return (command, scan.given)

/-- What a command line without a command lacks. -/
def lacking (g : Given) (timeout : Option Nat) : Stop :=
  if g.verbose = 0 ∧ g.quiet = false ∧ timeout = none then .nothingGiven else .missingCommand

/-- What the words of a command line say, given the seconds in the environment. -/
def ofWords (words : List String) (fromEnv : Option String) : Except Stop CommandLine := do
  let (scan, behind) ← (Scan.start none).words none words
  match behind with
  | none =>
    let scan ← scan.settle
    let timeout ← scan.given.timeoutIn fromEnv
    .error (lacking scan.given timeout)
  | some (verb, rest) =>
    let (command, inner) ← ofCommandWords verb rest fromEnv
    let scan ← scan.settle
    let outer ← scan.given.timeoutIn fromEnv
    let verbose := if inner.verbose = 0 then scan.given.verbose else inner.verbose
    return {
      level := .of verbose (inner.quiet || scan.given.quiet)
      timeout := inner.timeout.orElse fun _ => outer
      command }

end ToolRelay.CommandLine
