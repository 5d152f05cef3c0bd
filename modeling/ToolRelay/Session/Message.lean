import ToolRelay.Session.Parameter

/-!
# Messages of a client

A client sends one message a line, as JSON: requests, each under an id of its own and with a method
and parameters, notifications, which have no answer, and replies to what it was asked itself. A
message must be understood in full, down to the types of its parameters (see
`ToolRelay.Session.Parameter`); members that are not known are let through, and a known member may
not come twice.

A line may also hold a notification of another protocol, which is passed over.
-/

set_option autoImplicit false

namespace ToolRelay
namespace Session

/-- What a request is known by. -/
inductive RequestId
  | number (n : Int)
  | text (s : String)
  deriving DecidableEq, Repr

namespace RequestId

/-- The id as JSON. -/
def json : RequestId → Json
  | .number n => .int n
  | .text s => .str s

/-- The id that a value is. -/
def ofJson? : Json → Option RequestId
  | .int n => if n < 0x8000000000000000 then some (.number n) else none
  | .str s => some (.text s)
  | _ => none

end RequestId

/-- What a client asks for. -/
inductive Request
  | ping
  /-- The first request of all, with a version of the protocol. -/
  | greet (version : String)
  | listTools
  | callTool (name : String) (arguments : Option (Dict Json))
  /-- A list of something that there is none of, under the name that the list has. -/
  | listNone (member : String)
  | complete
  /-- A method that the protocol knows and the server does not offer. -/
  | unsupported (method : String)

/-- What a client tells. -/
inductive Notification
  /-- The client is ready. -/
  | initialized
  | cancelled (id : RequestId)
  | other
  deriving DecidableEq, Repr

/-- A message of a client. -/
inductive Message
  | request (id : RequestId) (request : Request)
  | notification (notification : Notification)
  /-- An answer to a request that the server never made. -/
  | reply

open Json (Raw Shape)

/-- The id under a name of a message. -/
def idNamed? (name : String) (m : Raw) : Option RequestId :=
  (m.valueNamed? name).bind RequestId.ofJson?

/-- Parameters: an object, in which the protocol keeps a member to itself. -/
def parameters? (v : Raw) : Option Raw :=
  match v with
  | .object members =>
    if (Shape.optional "_meta" Shape.object).fits (Raw.membersNamed "_meta" members) then some v
    else none
  | _ => none

/-- The parameters of a message that must have some, if they have a shape. -/
def shaped? (s : Shape) (m : Raw) : Option Raw :=
  ((m.member? "params").bind parameters?).filter s

/-- Whether the parameters of a message, if it has any, are such. -/
def mayPage : Raw → Bool
  | .object members =>
    (Shape.optional "params" fun p => (parameters? p).isSome).fits
      (Raw.membersNamed "params" members)
  | _ => false

/-- The lists of things that there are none of, and the names of their members. -/
def emptyLists : List (String × String) :=
  [("resources/list", "resources"), ("resources/templates/list", "resourceTemplates"),
    ("prompts/list", "prompts")]

/-- The request of a call of an operation. -/
def callOf (p : Raw) : Option Request :=
  (p.textNamed? "name").map fun name =>
    .callTool name ((p.valueNamed? "arguments").bind Json.dict?)

/-- A request that is not supported, if its parameters are right. -/
def unsupported? (method : String) (s : Shape) (m : Raw) : Option Request :=
  (shaped? s m).map fun _ => .unsupported method

/-- The request of a method. -/
def request? (m : Raw) (method : String) : Option Request :=
  match method with
  | "ping" => some .ping
  | "initialize" =>
    (shaped? Parameter.greeting m).bind fun p => (p.textNamed? "protocolVersion").map .greet
  | "tools/list" => if mayPage m then some .listTools else none
  | "tools/call" => (shaped? Parameter.call m).bind callOf
  | "completion/complete" => (shaped? Parameter.completion m).map fun _ => .complete
  | "logging/setLevel" => unsupported? method Parameter.level m
  | "prompts/get" => unsupported? method Parameter.prompt m
  | "resources/read" => unsupported? method Parameter.resource m
  | "resources/subscribe" => unsupported? method Parameter.resource m
  | "resources/unsubscribe" => unsupported? method Parameter.resource m
  | _ => (emptyLists.lookup method).bind fun member =>
    if mayPage m then some (.listNone member) else none

/-- The notification of a method. -/
def notification? (m : Raw) (method : String) : Option Notification :=
  match method with
  | "notifications/initialized" => some .initialized
  | "notifications/roots/list_changed" => some .other
  | "notifications/cancelled" =>
    (shaped? Parameter.cancellation m).bind fun p => (idNamed? "requestId" p).map .cancelled
  | "notifications/progress" => (shaped? Parameter.progress m).map fun _ => .other
  | _ => none

namespace Message

/-- The request that a line is, if it is one. -/
def asRequest? (m : Raw) : Option Message :=
  match idNamed? "id" m, (m.textNamed? "method").bind (request? m) with
  | some id, some r => some (.request id r)
  | _, _ => none

/-- The notification that a line is, if it is one. -/
def asNotification? (m : Raw) : Option Message :=
  ((m.textNamed? "method").bind (notification? m)).map .notification

/-- The message that a line is. What it could be is tried in this order: a request, an answer with a
result, a notification, an answer with an error. -/
def ofRaw? (m : Raw) : Option Message :=
  let versioned := (m.member? "jsonrpc").any Parameter.version
  match if versioned then asRequest? m else none with
  | some r => some r
  | none =>
    if Parameter.reply m then some .reply
    else
      match if versioned then asNotification? m else none with
      | some n => some n
      | none => if Parameter.failure m then some .reply else none

end Message

/-- What stands on a line. -/
inductive Line
  | message (message : Message)
  /-- A notification of another protocol. -/
  | passedOver
  | unreadable

namespace Line

/-- The requests of the protocol, of either side. -/
def knownRequests : List String :=
  ["initialize", "ping", "prompts/get", "prompts/list", "resources/list", "resources/read",
    "resources/subscribe", "resources/unsubscribe", "resources/templates/list", "tools/call",
    "tools/list", "completion/complete", "logging/setLevel", "roots/list", "sampling/createMessage"]

/-- The notifications of the protocol, of either side. -/
def knownNotifications : List String :=
  ["notifications/cancelled", "notifications/initialized", "notifications/message",
    "notifications/progress", "notifications/prompts/list_changed",
    "notifications/resources/list_changed", "notifications/resources/updated",
    "notifications/roots/list_changed", "notifications/tools/list_changed"]

/-- Whether a value is a notification of another protocol: it has a method that this one does not
know, and either it has no id or its method says that it is a notification. -/
def isForeign (v : Json) : Bool :=
  match v.getStr? "method" with
  | none => false
  | some method =>
    method ∉ knownNotifications &&
      (((v.get? "id").isNone && method ∉ knownRequests) ||
        "notifications/".toList.isPrefixOf method.toList)

/-- What the parts of a line say. -/
def ofRaw (raw : Raw) : Line :=
  match raw.toJson? Json.maxDepth with
  | none => .unreadable
  | some v =>
    match Message.ofRaw? raw with
    | some m => .message m
    | none => if isForeign v then .passedOver else .unreadable

/-- What a line says. -/
def ofText (line : String) : Line :=
  match Raw.ofMarks? (line.toList.map some) with
  | some raw => ofRaw raw
  | none => .unreadable

end Line
end Session
end ToolRelay
