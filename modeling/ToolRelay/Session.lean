import ToolRelay.Dispatch
import ToolRelay.Profile
import ToolRelay.Session.Message

/-!
# Sessions

A session serves the operations of a profile to one client. The client begins with a request that
opens the session and a notification that it is ready; then it may ask for anything, and have several
calls under way at a time. A line that is no message ends the session, and one that is out of place
at the beginning keeps it from coming about.

A client should not use an id again while it waits for an answer. If it does, the id stands for the
latest request under it, so earlier calls can no longer be cancelled; and whatever is answered under
the id, nothing else is awaited under it, so a call that it stands for is cancelled.

A session is a state and what happens is a step of it: a line comes in, or a request to the outside
comes to its end. The steps say what is to be written and what is to be requested.
-/

set_option autoImplicit false

namespace ToolRelay

namespace Session

/-- What a request is answered with. -/
inductive Answer
  | result (value : Json)
  | error (code : Int) (message : String)
  deriving Repr

/-- An answer as it is written, with the id of its request. -/
def Answer.json (id : RequestId) : Answer → Json
  | .result v => .record [("jsonrpc", .str "2.0"), ("id", id.json), ("result", v)]
  | .error code message => .record [("jsonrpc", .str "2.0"), ("id", id.json),
      ("error", .record [("code", .int code), ("message", .str message)])]

/-- The code of an error for a method that is not offered. -/
def methodNotFound : Int := -32601

/-- The code of an error for a request that was not carried out. -/
def internalError : Int := -32603

/-- The latest version of the protocol that is offered. -/
def latestVersion : String := "2025-03-26"

/-- The version that servers give of themselves. -/
def serverVersion : String := "0.6.4"

/-- The result of a call. -/
def resultOf (e : Envelope) : Json :=
  .record [("content", .arr [.record [("type", .str "text"), ("text", .str e.text)]]),
    ("isError", .bool e.isError)]

/-- An operation in the list of all. -/
def toolJson (s : Spec) : Json :=
  .record [("name", .str s.name), ("description", .str s.description),
    ("inputSchema", .ofDict s.inputSchema)]

/-- What the server says about itself. -/
def greeting (p : Profile) (version : String) : Json :=
  .record [("protocolVersion", .str version),
    ("capabilities", .record [("tools", .record [])]), ("instructions", .str p.instructions),
    ("serverInfo", .record [("name", .str p.serverName), ("version", .str serverVersion)])]

/-- The version for a client that asks for one: that one, unless it is later than all offered. -/
def agreedVersion (asked : String) : String :=
  if asked < latestVersion then asked else latestVersion

/-- How far a session is. -/
inductive Phase
  /-- Nothing has come in yet. -/
  | fresh
  /-- The client has been greeted and is not ready yet. -/
  | greeted
  | ready
  /-- The session is over. -/
  | closed
  /-- The session did not come about. -/
  | refused
  deriving DecidableEq, Repr

/-- A call under way. -/
structure OpenCall where
  /-- What tells the call from all others of the session. -/
  ticket : Nat
  id : RequestId
  /-- Whether the id stands for this call: no later request has the same one. -/
  meant : Bool
  /-- The name of the operation. -/
  name : String
  /-- The answer for what the request of the call comes to. -/
  answer : Outcome → Envelope

/-- What is to be done after a step. -/
inductive Effect
  | write (id : RequestId) (answer : Answer)
  /-- A request to the outside, for the call with the ticket. -/
  | perform (ticket : Nat) (request : ExternalRequest)

end Session

open Session

/-- A session with a client. -/
structure Session where
  profile : Profile
  phase : Session.Phase
  /-- The calls under way, the earliest first. -/
  calls : List Session.OpenCall
  /-- The ticket of the next call. -/
  next : Nat

namespace Session

/-- A session in which nothing has come in yet. -/
def fresh (p : Profile) : Session := ⟨p, .fresh, [], 0⟩

/-- Whether the session came about. -/
def cameAbout (s : Session) : Bool :=
  s.phase == .ready || s.phase == .closed

/-- The session after a line that is no message in its place. -/
def stop (s : Session) : Session :=
  { s with phase := if s.cameAbout then .closed else .refused }

/-- The session in which an id stands for no call under way, since a new request has it. -/
def reuse (s : Session) (id : RequestId) : Session :=
  { s with calls := s.calls.map fun c => if c.id = id then { c with meant := false } else c }

/-- The call of an operation: answered at once, or begun. -/
def begin (s : Session) (id : RequestId) (name : String) (arguments : Option (Dict Json)) :
    Session × List Effect :=
  match Dispatch.call s.profile.registry name arguments with
  | .answered e => (s, [.write id (.result (resultOf e))])
  | .waiting request answer =>
    ({ s with calls := s.calls ++ [⟨s.next, id, true, name, answer⟩], next := s.next + 1 },
      [.perform s.next request])

/-- A request in a session that is ready. -/
def request (s : Session) (id : RequestId) : Request → Session × List Effect
  | .ping => (s, [.write id (.result (.record []))])
  | .greet _ => (s, [.write id (.result (greeting s.profile latestVersion))])
  | .listTools =>
    (s, [.write id (.result (.record [("tools", .arr (s.profile.registry.specs.map toolJson))]))])
  | .callTool name arguments => s.begin id name arguments
  | .listNone member => (s, [.write id (.result (.record [(member, .arr [])]))])
  | .complete =>
    (s, [.write id (.result (.record [("completion", .record [("values", .arr [])])]))])
  | .unsupported method => (s, [.write id (.error methodNotFound method)])

/-- Takes the first call that passes a test out of a list of calls. -/
def takeCall (test : OpenCall → Bool) : List OpenCall → Option (OpenCall × List OpenCall)
  | [] => none
  | c :: rest =>
    if test c then some (c, rest)
    else (takeCall test rest).map fun (found, others) => (found, c :: others)

/-- Cancels the call that an id stands for, if it is under way. -/
def cancel (s : Session) (id : RequestId) : Session × List Effect :=
  match takeCall (fun c => c.meant && c.id == id) s.calls with
  | none => (s, [])
  | some (c, rest) => ({ s with calls := rest },
      [.write id (.error internalError ("call to '" ++ c.name ++ "' cancelled"))])

/-- A message comes in. -/
def receive (s : Session) (m : Message) : Session × List Effect :=
  match s.phase, m with
  | .fresh, .request id (.greet version) =>
    ({ s with phase := .greeted },
      [.write id (.result (greeting s.profile (agreedVersion version)))])
  | .greeted, .notification .initialized => ({ s with phase := .ready }, [])
  | .ready, .request id r => (s.reuse id).request id r
  | .ready, .notification (.cancelled id) => s.cancel id
  | .ready, _ => (s, [])
  | .closed, _ => (s, [])
  | .refused, _ => (s, [])
  | _, _ => (s.stop, [])

/-- A line comes in. -/
def line (s : Session) (l : Line) : Session × List Effect :=
  match l with
  | .message m => s.receive m
  | .passedOver => (s, [])
  | .unreadable => (s.stop, [])

/-- The request of the call with a ticket comes to its end. Nothing is left to write for a call that
was cancelled. -/
def conclude (s : Session) (ticket : Nat) (o : Outcome) : Session × List Effect :=
  match takeCall (fun c => c.ticket == ticket) s.calls with
  | none => (s, [])
  | some (c, rest) =>
    let (s, effects) := { s with calls := rest }.cancel c.id
    (s, .write c.id (.result (resultOf (c.answer o))) :: effects)

/-- Carries out what is to be done in a world that answers every request at once. Gives what is
written and the requests that were made. -/
def carryOut (world : ExternalRequest → Outcome) (s : Session) :
    List Effect → Session × List (RequestId × Answer) × List ExternalRequest
  | [] => (s, [], [])
  | .write id a :: rest =>
    let (s, written, requests) := carryOut world s rest
    (s, (id, a) :: written, requests)
  | .perform ticket r :: rest =>
    let (s, effects) := s.conclude ticket (world r)
    let now := effects.filterMap fun
      | .write id a => some (id, a)
      | .perform _ _ => none
    let (s, written, requests) := carryOut world s rest
    (s, now ++ written, r :: requests)

/-- A session with a client that sends some messages, in a world that answers every request at
once. -/
def converse (world : ExternalRequest → Outcome) (s : Session) :
    List Message → Session × List (RequestId × Answer) × List ExternalRequest
  | [] => (s, [], [])
  | m :: rest =>
    let (s, effects) := s.receive m
    let (s, written, requests) := s.carryOut world effects
    let (s, later, more) := s.converse world rest
    (s, written ++ later, requests ++ more)

end Session
end ToolRelay
