import ToolRelay.Config
import ToolRelay.Program
import ToolRelay.Reply
import ToolRelay.Text.Line

/-!
# The outside

What lies outside of the library runs programs and answers searches. With a configuration it
answers every request.

A machine has programs, directories and files, and says what becomes of a program that is to be
run on it. Paths are taken from the directory that the machine works in; nothing outside of that
directory is known but some programs of the system. A machine together with a search service is one
such outside.
-/

set_option autoImplicit false

namespace ToolRelay

/-! ## Machines -/

/-- A program on a machine: how it goes when it is run, and whether it may be run. -/
structure InstalledProgram where
  course : Program.Course
  executable : Bool
  deriving DecidableEq, Repr

/-- The programs that can be run by their names, those of the system that can be run by their full
paths, and the directories and files by their names from the working directory on. -/
structure Machine where
  programs : List (String × InstalledProgram)
  system : List (String × InstalledProgram)
  directories : List (List String)
  files : List (List String × List UInt8)
  deriving DecidableEq, Repr

namespace Machine

/-- Why a program does not start. -/
inductive StartError
  /-- The program, an argument or the directory holds the character that ends texts. -/
  | nulCharacter
  | notFound
  | notDirectory
  | notPermitted
  | argumentsTooLong
  | nameTooLong
  deriving DecidableEq, Repr

/-- The text of the error. -/
def StartError.message : StartError → String
  | .nulCharacter => "nul byte found in provided data"
  | .notFound => "No such file or directory (os error 2)"
  | .notDirectory => "Not a directory (os error 20)"
  | .notPermitted => "Permission denied (os error 13)"
  | .argumentsTooLong => "Argument list too long (os error 7)"
  | .nameTooLong => "File name too long (os error 36)"

/-- The machine with nothing on it. -/
def bare : Machine := ⟨[], [], [], []⟩

/-- What a path leads to. -/
inductive Node
  | directory (names : List String)
  | file (octets : List UInt8)
  deriving DecidableEq, Repr

/-- How many octets a name may have. -/
def maxName : Nat := 255

/-- How many octets a path may have. -/
def maxPath : Nat := 4095

/-- How many octets an argument may have. -/
def maxArgument : Nat := 131071

/-- What stands under a list of names. -/
def node? (m : Machine) (names : List String) : Option Node :=
  if names ∈ m.directories then some (.directory names)
  else (m.files.lookup names).map .file

/-- Follows the names of a path. One dot stays where it is, two dots go back. -/
def follow (m : Machine) : Node → List String → Except StartError Node
  | node, [] => .ok node
  | .file _, _ :: _ => .error .notDirectory
  | .directory names, name :: rest =>
    if name = "" ∨ name = "." then follow m (.directory names) rest
    else if name = ".." then follow m (.directory names.dropLast) rest
    else if maxName < name.utf8ByteSize then .error .nameTooLong
    else match node? m (names ++ [name]) with
      | some node => follow m node rest
      | none => .error .notFound

/-- The names in a path. -/
def namesOf (path : String) : List String :=
  (Text.pieces '/' path.toList).map String.ofList

/-- What a path leads to from a directory. -/
def resolve (m : Machine) (start : List String) (path : String) : Except StartError Node :=
  if path = "" ∨ path.toList.head? = some '/' then .error .notFound
  else if maxPath < path.utf8ByteSize then .error .nameTooLong
  else follow m (.directory start) (namesOf path)

/-- The octets of the file that a path leads to. -/
def fileAt (m : Machine) (path : String) : Option (List UInt8) :=
  match m.resolve [] path with
  | .ok (.file octets) => some octets
  | _ => none

/-- The directory that a program is run in. -/
def workingDir (m : Machine) : Option String → Except StartError (List String)
  | none => .ok []
  | some path => match m.resolve [] path with
    | .ok (.directory names) => .ok names
    | .ok (.file _) => .error .notDirectory
    | .error e => .error e

/-- The program, if it may be run. -/
def permitted (p : InstalledProgram) : Except StartError InstalledProgram :=
  if p.executable then .ok p else .error .notPermitted

/-- The program of a name. A name with a slash in it is a path: of a program of the system, or of a
file, which may not be run. -/
def program (m : Machine) (dir : List String) (name : String) :
    Except StartError InstalledProgram :=
  if name.toList.contains '/' then
    match m.system.lookup name with
    | some p => permitted p
    | none => match m.resolve dir name with
      | .ok _ => .error .notPermitted
      | .error e => .error e
  else if maxName < name.utf8ByteSize then .error .nameTooLong
  else match m.programs.lookup name with
    | some p => permitted p
    | none => .error .notFound

/-- The texts that a request passes on. -/
def passedOn (r : CommandRequest) : List String :=
  r.program :: r.arguments ++ r.workingDir.toList

/-- The program that a request starts, or why it starts none. -/
def start (m : Machine) (r : CommandRequest) : Except StartError InstalledProgram :=
  if (passedOn r).any fun s => s.toList.contains '\x00' then .error .nulCharacter
  else match m.workingDir r.workingDir with
    | .error e => .error e
    | .ok dir => match m.program dir r.program with
      | .error e => .error e
      | .ok p =>
        if r.arguments.any fun s => maxArgument < s.utf8ByteSize then .error .argumentsTooLong
        else .ok p

/-- What becomes of the program of a request. -/
def run (m : Machine) (r : CommandRequest) : Program.Run :=
  match m.start r with
  | .error e => .unstarted e.message
  | .ok p => .started p.course

/-- A directory as a path from the working directory. -/
def directoryText (names : List String) : String :=
  "/".intercalate ("." :: names)

end Machine

/-! ## The outside -/

/-- Something that runs programs and answers searches. -/
structure Outside where
  run : CommandRequest → Program.Run
  fetch : Url → Reply

namespace Outside

/-- The outside of a machine with a search service. -/
def of (machine : Machine) (fetch : Url → Reply) : Outside :=
  ⟨machine.run, fetch⟩

/-- The outside where nothing is found: no program starts and no search is answered. -/
def nothing : Outside :=
  .of .bare fun _ => .unanswered

/-- The reply to a request for an address, which is none if a request cannot carry it. -/
def reply (o : Outside) (u : Url) : Reply :=
  if u.isSendable then o.fetch u else .unanswered

/-- What a request comes to. -/
def answer (o : Outside) (c : Config) : ExternalRequest → Outcome
  | .command r => (r.conclude c.limit (o.run r)).map .output
  | .search r => (r.conclude c.searchUrl (o.reply (r.url c.searchUrl))).map .records

end Outside

end ToolRelay
