import ToolRelay.Application
import ToolRelay.CommandLine.Reader

/-!
# The program

Reads the command line, the environment and the file of arguments, does what the command line says,
and serves a client on standard input and output. The program does not reach outside of itself: a
request to the outside finds nothing there, and of names it knows those in ASCII.
-/

set_option autoImplicit false

namespace ToolRelay.Main

/-- The variables of the environment that matter. -/
def variableNames : List String :=
  ["SEARXNG_URL", "SEARXNG_HOST", "SEARXNG_PORT", "MCP_RELAY_TIMEOUT_SECS", "COLUMNS", "NO_COLOR"]

/-- The environment. -/
def environment : IO Environment := do
  let values ← variableNames.filterMapM fun name => do
    return (← IO.getEnv name).map fun value => (name, value)
  return fun name => values.lookup name

/-- The octets of a file, if it can be read. -/
def octetsOf (path : String) : IO (Option (List UInt8)) := do
  try
    return some (← IO.FS.readBinFile path).toList
  catch _ =>
    return none

/-- The files that a command reads. -/
def filesOf : Command → IO (String → Option (List UInt8))
  | .call _ i _ => match i.file with
    | some path => do
      let octets ← octetsOf path
      return fun p => if p = path then octets else none
    | none => return fun _ => none
  | _ => return fun _ => none

/-- Prints the reason of a failure. -/
def complain (e : CommandError) : IO UInt32 := do
  IO.eprintln ("Error: " ++ e.message)
  return 1

/-- Does what is to be done in a session. -/
def carryOut (config : Config) (s : Session) (effects : List Session.Effect) : IO Session := do
  let output ← IO.getStdout
  let (s, written, _) := s.carryOut (Outside.nothing.answer config) effects
  for (id, answer) in written do
    output.putStrLn (answer.json id).text
  output.flush
  return s

/-- Serves a client until it says no more. -/
partial def serve (config : Config) (s : Session) : IO Session := do
  let line ← (← IO.getStdin).getLine
  if line.isEmpty then
    return s
  let chars := (Text.pieces '\n' line.toList).head?.getD []
  let (s, effects) := s.line (.ofText (String.ofList (Text.dropReturn chars)))
  let s ← carryOut config s effects
  if s.phase = .closed ∨ s.phase = .refused then
    return s
  serve config s

/-- Runs a command. -/
def run (w : Surroundings) (c : CommandLine) : IO UInt32 := do
  match w.execute 0 c with
  | .serving config session =>
    let s ← serve config session
    if s.cameAbout then return 0 else complain (.noClient s.profile.serverName)
  | .done result =>
    IO.print result.stdout
    match result.error with
    | none => return 0
    | some e => complain e

end ToolRelay.Main

open ToolRelay in
/-- Runs the program. -/
def main (args : List String) : IO UInt32 := do
  let env ← Main.environment
  match CommandLine.ofWords args (env "MCP_RELAY_TIMEOUT_SECS") with
  | .error stop =>
    if stop.exitCode = 0 then IO.println stop.message else IO.eprintln stop.message
    return stop.exitCode.toUInt32
  | .ok c =>
    let files ← Main.filesOf c.command
    Main.run ⟨env, files, Url.plainNames, .nothing⟩ c
