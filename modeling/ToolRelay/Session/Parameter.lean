import ToolRelay.Json.Shape

/-!
# Parameters of the protocol

What the parameters of the requests and notifications of a client look like, and what it answers to
requests of the server. Whatever a parameter says, it is let in only in this shape.
-/

set_option autoImplicit false

namespace ToolRelay.Session.Parameter

open Json Json.Shape

/-- What a client is capable of. -/
def capabilities : Shape :=
  record [optional "experimental" (dictionary object),
    optional "roots" (record [optional "listChanged" boolean]),
    optional "sampling" object,
    optional "elicitation" (record [optional "schemaValidation" boolean])]

/-- A picture for a client. -/
def icon : Shape :=
  record [required "src" text, optional "mimeType" text, optional "sizes" text]

/-- The name of a client and what else is known of it. -/
def client : Shape :=
  record [required "name" text, optional "title" text, required "version" text,
    optional "icons" (list icon), optional "websiteUrl" text]

/-- What a client says of itself in the first request. -/
def greeting : Shape :=
  record [required "protocolVersion" text, required "capabilities" capabilities,
    required "clientInfo" client]

/-- A call of an operation. -/
def call : Shape :=
  record [required "name" text, optional "arguments" object]

/-- Where something is to be completed: in the address of a resource, or in a prompt. -/
def reference : Shape :=
  oneOf "type" [("ref/resource", [required "uri" text]),
    ("ref/prompt", [required "name" text, optional "title" text])]

/-- A request to complete an argument. -/
def completion : Shape :=
  record [required "ref" reference,
    required "argument" (record [required "name" text, required "value" text]),
    optional "context" (record [optional "arguments" (dictionary text)])]

/-- The levels that a client may set. -/
def levels : List String :=
  ["debug", "info", "notice", "warning", "error", "critical", "alert", "emergency"]

/-- A request to set the level of messages. -/
def level : Shape :=
  record [required "level" (word levels nothing)]

/-- A request for a prompt. -/
def prompt : Shape :=
  record [required "name" text, optional "arguments" object]

/-- A request that concerns a resource. -/
def resource : Shape :=
  record [required "uri" text]

/-- What a request is known by. -/
def requestId : Shape := fun v =>
  text v || integer (-0x8000000000000000) 0x8000000000000000 v

/-- A notification that a request is no longer wanted. -/
def cancellation : Shape :=
  record [required "requestId" requestId, optional "reason" text]

/-- A notification of how far something has come. -/
def progress : Shape :=
  record [required "progressToken" requestId, required "progress" number, optional "total" number,
    optional "message" text]

/-- The result of a request: any object, a list of places, or what a person said to a question. -/
def result : Shape := fun v =>
  object v || record [] v ||
    record [required "roots" (list (record [required "uri" text, optional "name" text]))] v ||
    record [required "action" (word ["accept", "decline", "cancel"] null),
      optional "content" anything] v

/-- The error of a request. -/
def error : Shape :=
  record [required "code" (integer (-0x80000000) 0x80000000), required "message" text,
    optional "data" anything]

/-- The version of the format of all messages. -/
def version : Shape
  | .string body => Raw.text? body == some "2.0"
  | _ => false

/-- An answer with a result. -/
def reply : Shape :=
  record [required "jsonrpc" version, required "id" requestId, required "result" result]

/-- An answer with an error. -/
def failure : Shape :=
  record [required "jsonrpc" version, required "id" requestId, required "error" error]

end ToolRelay.Session.Parameter
