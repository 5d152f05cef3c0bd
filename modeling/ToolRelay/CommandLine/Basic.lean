import ToolRelay.Profile
import ToolRelay.Request

/-!
# What a command line says

A command line gives one command for a profile, and with it how much to log and how long an external
call may take. With every demand for more words a level more is logged, and with a demand for
silence nothing but errors. A command line that says something else stops the program.
-/

set_option autoImplicit false

namespace ToolRelay

/-- The levels, those with fewer words first. -/
inductive LogLevel
  | error
  | info
  | debug
  | trace
  deriving DecidableEq, Repr

namespace LogLevel

/-- The name of the level. -/
def name : LogLevel → String
  | .error => "error"
  | .info => "info"
  | .debug => "debug"
  | .trace => "trace"

/-- The level for a number of demands for more words, and perhaps one for silence, which wins. -/
def of (verbose : Nat) (quiet : Bool) : LogLevel :=
  if quiet then .error
  else match verbose with
    | 0 => .info
    | 1 => .debug
    | _ => .trace

/-- The directives of the log for a level: of other parts only warnings are logged. -/
def directives (l : LogLevel) : List String :=
  ["mcp_relay=" ++ l.name, "warn"]

end LogLevel

/-- The call of an operation as it is given on a command line. -/
structure Invocation where
  /-- The name of the operation. -/
  operation : String
  /-- The arguments as keys and values. -/
  params : List String
  /-- The path of a file with further arguments. -/
  file : Option String
  deriving DecidableEq, Repr

/-- What is to be done. -/
inductive Command
  /-- Serves the profile to a client. -/
  | serve (profile : Profile)
  /-- Lists the operations of the profile. -/
  | list (profile : Profile) (json : Bool)
  /-- Shows one operation of the profile, or all, in detail. -/
  | get (profile : Profile) (name : Option String) (json : Bool)
  /-- Calls an operation of the profile. -/
  | call (profile : Profile) (invocation : Invocation) (json : Bool)
  deriving DecidableEq, Repr

/-- What a command line says. -/
structure CommandLine where
  level : LogLevel
  /-- How many seconds an external call may take. -/
  timeout : Option Nat
  command : Command
  deriving DecidableEq, Repr

/-- Why a command line gives no command. -/
inductive CommandLine.Stop
  /-- Help is asked for. -/
  | help
  /-- The version is asked for. -/
  | version
  /-- Nothing is given at all, which calls for help as well. -/
  | nothingGiven
  | missingCommand
  | unknownCommand
  /-- An option has no value, or no profile has the name. -/
  | invalidValue
  | unknownArgument
  | missingArgument
  /-- An option that can be given once is given again. -/
  | repeated
  /-- An option that takes no value has one. -/
  | needlessValue
  /-- The value of an option is no number. -/
  | notNumber
  deriving DecidableEq, Repr

/-- How command lines look. -/
def CommandLine.usage : String :=
  "usage: mcp-relay [-v] [-q] [--timeout-secs SECS] <serve|list|get|call> <PROFILE> ..."

/-- What people are told. -/
def CommandLine.Stop.message : CommandLine.Stop → String
  | .help => usage
  | .version => programName ++ " " ++ programVersion
  | .nothingGiven => usage
  | .missingCommand => "error: a command is required"
  | .unknownCommand => "error: unknown command"
  | .invalidValue => "error: invalid or missing value"
  | .unknownArgument => "error: unexpected argument"
  | .missingArgument => "error: a required argument is missing"
  | .repeated => "error: an argument cannot be used more than once"
  | .needlessValue => "error: a value for an option that takes none"
  | .notNumber => "error: not a number of seconds"

/-- The status that the program ends with. -/
def CommandLine.Stop.exitCode : CommandLine.Stop → Nat
  | .help => 0
  | .version => 0
  | _ => 2

end ToolRelay
