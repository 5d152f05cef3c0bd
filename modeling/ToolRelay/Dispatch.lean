import ToolRelay.Registry

/-!
# Dispatch

A call names an operation and carries arguments. It is either answered at once, with an error, or
it asks for exactly one request and is answered by what that comes to: a `Call` is one or the
other. `Call.run` puts a call to an outside world and tells which requests were made.
-/

set_option autoImplicit false

namespace ToolRelay

/-- What goes back to the caller. -/
structure Envelope where
  text : String
  isError : Bool
  deriving DecidableEq, Repr

/-- Why a call has no result. -/
inductive DispatchError
  | unknownTool (name : String)
  | missingArguments (operation : String) (missing : List String)
  | invalidArguments (operation reason : String)
  | external (label : String) (failure : Failure)
  | unrenderable (label : String)
  deriving DecidableEq, Repr

/-- The text of the error. -/
def DispatchError.message : DispatchError → String
  | .unknownTool name => "Unknown tool: " ++ name
  | .missingArguments operation missing =>
    "Missing required argument(s) for '" ++ operation ++ "': " ++ ", ".intercalate missing
  | .invalidArguments operation reason =>
    "Invalid arguments for '" ++ operation ++ "': " ++ reason
  | .external label failure => label ++ ": " ++ failure.message
  | .unrenderable label => label ++ ": unable to render result"

/-- The answer to a call with a result or an error. -/
def Envelope.of : Except DispatchError String → Envelope
  | .ok text => ⟨text, false⟩
  | .error e => ⟨e.message, true⟩

/-- A call that has been looked into: answered, or waiting for what a request comes to. -/
inductive Call
  | answered (envelope : Envelope)
  | waiting (request : ExternalRequest) (answer : Outcome → Envelope)

namespace Dispatch

/-- Whether an argument counts as supplied: `null` and the empty text do not. -/
def supplied : Json → Bool
  | .null => false
  | .str s => s != ""
  | _ => true

/-- The arguments that count as supplied. -/
def dropUnsupplied (args : Dict Json) : Dict Json :=
  args.filter fun _ v => supplied v

/-- The operation and its plan for a call, or the error that answers it. -/
def prepare (registry : Registry) (name : String) (args : Dict Json) :
    Except DispatchError (Spec × Plan) :=
  match registry.lookup name with
  | none => .error (.unknownTool name)
  | some spec =>
    let args := dropUnsupplied args
    let missing := spec.missing args
    if missing.isEmpty then
      match spec.plan args with
      | .error e => .error (.invalidArguments spec.name e.message)
      | .ok plan => .ok (spec, plan)
    else .error (.missingArguments spec.name missing)

/-- The result of a planned request, from what it came to. -/
def finish (label : String) (plan : Plan) : Outcome → Except DispatchError String
  | .error failure => .error (.external label failure)
  | .ok payload =>
    let payload := match plan.limit with
      | some limit => payload.truncate limit
      | none => payload
    match plan.template.render plan.query payload with
    | .ok text => .ok text
    | .error _ => .error (.unrenderable label)

/-- Looks into a call; no arguments are the same as an empty object. -/
def call (registry : Registry) (name : String) (args : Option (Dict Json)) : Call :=
  match prepare registry name (args.getD .empty) with
  | .error e => .answered (.of (.error e))
  | .ok (spec, plan) =>
    .waiting plan.request fun outcome => .of (finish spec.errorLabel plan outcome)

end Dispatch

/-- Puts a call to a world that answers requests. Gives the answer and the requests made. -/
def Call.run (world : ExternalRequest → Outcome) : Call → Envelope × List ExternalRequest
  | .answered envelope => (envelope, [])
  | .waiting request answer => (answer (world request), [request])

end ToolRelay
