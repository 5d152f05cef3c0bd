import ToolRelay.Decimal.Digits
import ToolRelay.Payload
import ToolRelay.Shell.Words
import ToolRelay.Text.Utf8

/-!
# Programs that are run

A program may not start at all. One that has started is waited for, and so are the ends of the two
streams that it prints to: a stream ends where nothing holds it open any more, and a program may
leave others behind that do. Whoever waits has a limit, and all three must have come by then. Only a
program that exits with the status zero has an output; every other run is a failure, which shows the
command line and what the program had to say about it.
-/

set_option autoImplicit false

namespace ToolRelay
namespace Program

/-- How a program ended. -/
inductive Status
  | exit (code : Nat)
  /-- A signal ended the program, which may have left an image of its memory behind. -/
  | signal (number : Nat) (dumped : Bool := false)
  deriving DecidableEq, Repr

namespace Status

/-- The names of the signals, the first of them with the number one. -/
def signalNames : List String :=
  ["SIGHUP", "SIGINT", "SIGQUIT", "SIGILL", "SIGTRAP", "SIGABRT", "SIGBUS", "SIGFPE", "SIGKILL",
    "SIGUSR1", "SIGSEGV", "SIGUSR2", "SIGPIPE", "SIGALRM", "SIGTERM", "SIGSTKFLT", "SIGCHLD",
    "SIGCONT", "SIGSTOP", "SIGTSTP", "SIGTTIN", "SIGTTOU", "SIGURG", "SIGXCPU", "SIGXFSZ",
    "SIGVTALRM", "SIGPROF", "SIGWINCH", "SIGIO", "SIGPWR", "SIGSYS"]

/-- The name of a signal, if it has one. -/
def signalName? : Nat → Option String
  | 0 => none
  | n + 1 => signalNames[n]?

/-- Whether the program succeeded. -/
def succeeded (s : Status) : Bool :=
  s == .exit 0

/-- The status in words. -/
def text : Status → String
  | .exit code => "exit status: " ++ String.ofList (Decimal.ofNat code)
  | .signal number dumped =>
    "signal: " ++ String.ofList (Decimal.ofNat number) ++
      (match signalName? number with
        | some name => " (" ++ name ++ ")"
        | none => "") ++
      if dumped then " (core dumped)" else ""

end Status

/-- Something that is waited for: it never comes, or it comes at a moment, counted in milliseconds
from the start, or at a moment it turns out that it cannot be had. -/
inductive Awaited (α : Type)
  | never
  | comes (moment : Nat) (value : α)
  | fails (moment : Nat) (reason : String)
  deriving DecidableEq, Repr

namespace Awaited

variable {α β : Type}

/-- Both of two things, which have come when the later one has. As soon as one of them fails the
other one is waited for no more; the first one is looked at first. -/
def both : Awaited α → Awaited β → Awaited (α × β)
  | .fails m reason, .fails n reason' => if m ≤ n then .fails m reason else .fails n reason'
  | .fails m reason, _ => .fails m reason
  | _, .fails n reason => .fails n reason
  | .comes m a, .comes n b => .comes (max m n) (a, b)
  | _, _ => .never

/-- What has come by a limit, or why it cannot be had; nothing if the limit is reached before. -/
def within (limit : Nat) : Awaited α → Option (Except String α)
  | .never => none
  | .comes m a => if m ≤ limit then some (.ok a) else none
  | .fails m reason => if m ≤ limit then some (.error reason) else none

end Awaited

/-- A program that has started: its exit, and the ends of the two streams with all that was printed
to each. A stream may end long after the exit, or never. -/
structure Course where
  exit : Awaited Status
  stdout : Awaited (List UInt8)
  stderr : Awaited (List UInt8)
  deriving DecidableEq, Repr

/-- All that is waited for. -/
def Course.whole (c : Course) : Awaited ((Status × List UInt8) × List UInt8) :=
  (c.exit.both c.stdout).both c.stderr

/-- The program that prints, closes its streams and exits, all of it at once. -/
def Course.prompt (status : Status) (stdout stderr : List UInt8) : Course :=
  ⟨.comes 0 status, .comes 0 stdout, .comes 0 stderr⟩

/-- The program that goes on without end. -/
def Course.endless : Course :=
  ⟨.never, .never, .never⟩

/-- What becomes of a program. -/
inductive Run
  | unstarted (reason : String)
  | started (course : Course)
  deriving DecidableEq, Repr

/-- Whether the program started. -/
def Run.isStarted : Run → Bool
  | .unstarted _ => false
  | .started _ => true

/-- What a program that printed this has to say about its failure: what it printed as errors, or
else what it printed otherwise. -/
def complaint (stdout stderr : List Char) : List Char :=
  if Text.trim stderr = [] then Text.trim stdout else Text.trim stderr

/-- A complaint on a line of its own behind a message; there is no such line without a complaint. -/
def complaintLine (stdout stderr : List Char) : List Char :=
  match complaint stdout stderr with
  | [] => []
  | l => '\n' :: l

end Program

open Program

/-- The report of a program that has exited, given all that it printed. -/
def CommandRequest.report (r : CommandRequest) (status : Status) (stdout stderr : List UInt8) :
    Except Failure CommandOutput :=
  let out := Text.Utf8.decodeLossy stdout
  let err := Text.Utf8.decodeLossy stderr
  if status.succeeded then .ok ⟨String.ofList out, String.ofList err⟩
  else .error (.of ("Command failed: " ++ r.line ++ " (" ++ status.text ++ ")" ++
    String.ofList (complaintLine out err)))

/-- What a request comes to when its program runs so and is waited for up to a limit in
milliseconds, which is told in whole seconds. -/
def CommandRequest.conclude (r : CommandRequest) (limit : Nat) : Run → Except Failure CommandOutput
  | .unstarted reason => .error (.of ("failed to spawn `" ++ r.program ++ "`: " ++ reason))
  | .started course => match course.whole.within limit with
    | none => .error (.of ("`" ++ r.line ++ "` timed out after " ++
        String.ofList (Decimal.ofNat (limit / 1000)) ++ "s"))
    | some (.error reason) => .error (.of ("failed waiting for `" ++ r.line ++ "`: " ++ reason))
    | some (.ok ((status, stdout), stderr)) => r.report status stdout stderr

end ToolRelay
