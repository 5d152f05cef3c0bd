import ToolRelay.Details
import ToolRelay.Invocation
import ToolRelay.Listing
import ToolRelay.Outside
import ToolRelay.Session

/-!
# Commands

What each command prints and whether it fails. Listing and showing operations needs nothing from
outside; a call makes one request at most, and fails if its answer is an error. A command that
serves a client comes to a session with it as soon as the configuration is settled. Any other
command comes to its result, and so does one without a configuration.
-/

set_option autoImplicit false

namespace ToolRelay

/-- Why a command fails. -/
inductive CommandError
  | config (error : ConfigError)
  | unknownOperation (error : Details.NotFound)
  | arguments (error : InvocationError)
  /-- The answer to the call is an error. -/
  | answered (operation : String)
  /-- The client and the server did not come together. -/
  | noClient (server : String)

/-- The text of the error. -/
def CommandError.message : CommandError → String
  | .config e => e.message
  | .unknownOperation e => e.message
  | .arguments e => e.message
  | .answered operation => "'" ++ operation ++ "' returned an error"
  | .noClient server => "Failed to start MCP server '" ++ server ++ "'"

/-- What a command leaves behind: what it printed, why it failed if it did, and the requests that it
made. -/
structure CommandResult where
  stdout : String
  error : Option CommandError
  requests : List ExternalRequest

namespace CommandResult

/-- The result of a command that printed something and made no request. -/
def printed (stdout : String) : CommandResult := ⟨stdout, none, []⟩

/-- The result of a command that failed before it did anything. -/
def failed (error : CommandError) : CommandResult := ⟨"", some error, []⟩

end CommandResult

/-- What a command finds: the environment, the files, how names are written in ASCII, and the
outside. -/
structure Surroundings where
  env : Environment
  fileAt : String → Option (List UInt8)
  names : Url.ToAscii
  outside : Outside

namespace Surroundings

/-- The style of what is printed. -/
def style (w : Surroundings) : Console.Style :=
  .detect (w.env "COLUMNS") (w.env "NO_COLOR")

/-- Lists the operations of a profile. -/
def list (w : Surroundings) (p : Profile) (json : Bool) : CommandResult :=
  .printed (if json then (Listing.json p).text ++ "\n" else Listing.text p w.style)

/-- Shows operations of a profile in detail. -/
def get (w : Surroundings) (p : Profile) (name : Option String) (json : Bool) : CommandResult :=
  match Details.select p name with
  | .error e => .failed (.unknownOperation e)
  | .ok specs =>
    .printed (if json then (Details.json p specs).indented ++ "\n" else Details.text specs w.style)

/-- Prints what came of a call. -/
def report (w : Surroundings) (r : CallReport) (json : Bool) (requests : List ExternalRequest) :
    CommandResult where
  stdout := if json then r.json.indented ++ "\n" else r.text w.style
  error := if r.envelope.isError then some (.answered r.call.name) else none
  requests := requests

/-- The configuration, with seconds that may be given on the command line. -/
def config (w : Surroundings) (timeout : Option Nat) : Except ConfigError Config :=
  Config.ofEnvironment w.names w.env timeout

/-- Calls an operation of a profile, in the given number of milliseconds. -/
def call (w : Surroundings) (timeout : Option Nat) (elapsed : Nat) (p : Profile) (i : Invocation)
    (json : Bool) : CommandResult :=
  match w.config timeout with
  | .error e => .failed (.config e)
  | .ok config => match i.prepare p.registry w.fileAt with
    | .error e => .failed (.arguments e)
    | .ok call =>
      let (envelope, requests) :=
        (Dispatch.call p.registry call.name (some call.arguments)).run (w.outside.answer config)
      w.report ⟨p, call, elapsed, envelope⟩ json requests

/-- Serves a profile to a client that never says anything. -/
def serveNobody (w : Surroundings) (timeout : Option Nat) (p : Profile) : CommandResult :=
  match w.config timeout with
  | .error e => .failed (.config e)
  | .ok _ => .failed (.noClient p.serverName)

/-- Does what a command line says, with a client that never says anything and a call that takes the
given number of milliseconds. -/
def run (w : Surroundings) (elapsed : Nat) (c : CommandLine) : CommandResult :=
  match c.command with
  | .serve p => w.serveNobody c.timeout p
  | .list p json => w.list p json
  | .get p name json => w.get p name json
  | .call p i json => w.call c.timeout elapsed p i json

end Surroundings

/-- What a command line comes to. -/
inductive Execution
  | done (result : CommandResult)
  /-- A client is served under a configuration, in a session that begins so. -/
  | serving (config : Config) (session : Session)

/-- What a command line comes to where a call takes the given number of milliseconds. -/
def Surroundings.execute (w : Surroundings) (elapsed : Nat) (c : CommandLine) : Execution :=
  match c.command, w.config c.timeout with
  | .serve p, .ok config => .serving config (.fresh p)
  | _, _ => .done (w.run elapsed c)

end ToolRelay
