import ToolRelay.Argument.Coercion
import ToolRelay.Argument.File
import ToolRelay.CommandLine.Basic
import ToolRelay.Console.Heading
import ToolRelay.Console.Table
import ToolRelay.Dispatch

/-!
# Calling an operation from the command line

The arguments are put together from the keys and values on the command line and from a file, with
those on the command line first, and turned into values of the types of the operation. The call
itself is the same as that of any client. What comes of it is reported for people or as JSON.
-/

set_option autoImplicit false

namespace ToolRelay

/-- Why there are no arguments to call an operation with. -/
inductive InvocationError
  | pair (error : PairError)
  | file (error : FileError)
  deriving DecidableEq, Repr

/-- The text of the error. -/
def InvocationError.message : InvocationError → String
  | .pair e => e.message
  | .file e => e.message

/-- The name of an operation and the arguments that it is called with. -/
structure PreparedCall where
  name : String
  arguments : Dict Json

namespace Invocation

/-- The arguments as texts. -/
def provided (i : Invocation) (fileAt : String → Option (List UInt8)) :
    Except InvocationError (Dict String) :=
  match Argument.pairs i.params with
  | .error e => .error (.pair e)
  | .ok known => match i.file with
    | none => .ok known
    | some path => match Argument.loadFile known path (fileAt path) with
      | .error e => .error (.file e)
      | .ok all => .ok all

/-- The call with arguments as texts. The name of an operation that is registered may differ from it
in the case of letters, and all arguments of one that is not are texts. -/
def prepared (i : Invocation) (registry : Registry) (provided : Dict String) : PreparedCall :=
  let name := Text.trimmed i.operation
  match registry.find? name with
  | some s => ⟨s.name, Coercion.arguments s provided⟩
  | none => ⟨name, provided.map fun _ raw => .str raw⟩

/-- The call of an operation of a registry. -/
def prepare (i : Invocation) (registry : Registry) (fileAt : String → Option (List UInt8)) :
    Except InvocationError PreparedCall :=
  (i.provided fileAt).map (i.prepared registry)

end Invocation

/-- What came of a call. -/
structure CallReport where
  profile : Profile
  call : PreparedCall
  /-- How many milliseconds the call took. -/
  elapsed : Nat
  envelope : Envelope

namespace CallReport

/-- The mark of success or failure. -/
def mark (r : CallReport) (style : Console.Style) : List Char :=
  if r.envelope.isError then style.paint .error "✖ error".toList
  else style.paint .success "✔ ok".toList

/-- The arguments for people, if there are any. -/
def argumentsText (r : CallReport) (style : Console.Style) : String :=
  if r.call.arguments.isEmpty then ""
  else Console.table ["ARGUMENT", "VALUE"]
    (r.call.arguments.entries.map fun (k, v) => [k, v.plain]) style ++ "\n\n"

/-- The answer for people. -/
def answerText (r : CallReport) (style : Console.Style) : List Char :=
  if r.envelope.isError then style.paint .error r.envelope.text.toList
  else r.envelope.text.toList

/-- The report for people. -/
def text (r : CallReport) (style : Console.Style) : String :=
  Console.heading r.call.name (some (String.ofList (Decimal.ofNat r.elapsed) ++ " ms")) style ++
    "\n" ++ String.ofList (r.mark style) ++ "\n" ++ r.argumentsText style ++
    String.ofList (r.answerText style) ++ "\n"

/-- The report as JSON. -/
def json (r : CallReport) : Json :=
  .record [("status", .str (if r.envelope.isError then "error" else "ok")),
    ("profile", .str r.profile.name), ("tool", .str r.call.name), ("elapsed_ms", .nat r.elapsed),
    ("arguments", .ofDict r.call.arguments), ("text", .str r.envelope.text)]

end CallReport
end ToolRelay
