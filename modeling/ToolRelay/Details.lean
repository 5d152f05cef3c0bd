import ToolRelay.Argument.Described
import ToolRelay.Console.Heading
import ToolRelay.Console.Table
import ToolRelay.Profile

/-!
# Operations in detail

One operation of a profile, or all of them, with everything that is said about the parameters: as
tables for people, in which the required parameters come first, or as JSON.
-/

set_option autoImplicit false

namespace ToolRelay.Details

/-- No operation of a profile has the name. -/
structure NotFound where
  name : String
  profile : Profile
  deriving DecidableEq, Repr

/-- The text of the error. -/
def NotFound.message (e : NotFound) : String :=
  "tool '" ++ e.name ++ "' not found in profile '" ++ e.profile.name ++ "' (available: " ++
    ", ".intercalate e.profile.registry.names ++ ")"

/-- The operations to show: that of the name, and all of them without a name or with a blank one. -/
def select (p : Profile) (name : Option String) : Except NotFound (List Spec) :=
  match (name.map Text.trimmed).filter (· ≠ "") with
  | none => .ok p.registry.specs
  | some name => match p.registry.find? name with
    | some s => .ok [s]
    | none => .error ⟨name, p⟩

/-- The headers of the table of parameters. -/
def headers : List String :=
  ["NAME", "TYPE", "REQ", "DEFAULT", "DESCRIPTION"]

/-- The default of a parameter in a cell. -/
def defaultText : Option Json → String
  | some (.str s) => "\"" ++ s ++ "\""
  | some v => v.text
  | none => "-"

/-- The description of a parameter, with the values to choose from behind it if they are listed. -/
def descriptionText (p : ParameterInfo) : String :=
  if p.choices.isEmpty then p.description
  else p.description ++ (if p.description = "" then "" else " ") ++
    "[" ++ "|".intercalate p.choices ++ "]"

/-- The row of a parameter. -/
def row (p : ParameterInfo) : List String :=
  [p.name, p.type, if p.required then "yes" else "no", defaultText p.default, descriptionText p]

/-- The rows of parameters given in the order of their names: those required first. -/
def rows (parameters : List ParameterInfo) : List (List String) :=
  (parameters.filter (·.required) ++ parameters.filter fun p => !p.required).map row

/-- The parameters for people. -/
def parametersText (s : Spec) (style : Console.Style) : String :=
  if s.parameters.isEmpty then String.ofList (style.paint .dim "(no parameters)".toList)
  else Console.table headers (rows s.parameters) style

/-- An operation for people. -/
def operationText (style : Console.Style) (s : Spec) : String :=
  Console.heading s.name (some s.description) style ++ "\n" ++ parametersText s style ++ "\n"

/-- Operations for people, a blank line between two of them. -/
def text (specs : List Spec) (style : Console.Style) : String :=
  "\n".intercalate (specs.map (operationText style))

/-- A parameter as JSON. -/
def parameterJson (p : ParameterInfo) : Json :=
  .record [("name", .str p.name), ("type", .str p.type), ("required", .bool p.required),
    ("default", .ofOption p.default), ("description", .str p.description),
    ("choices", .texts p.choices)]

/-- An operation as JSON. -/
def operationJson (s : Spec) : Json :=
  .record [("name", .str s.name), ("description", .str s.description),
    ("error_label", .str s.errorLabel), ("parameters", .arr (s.parameters.map parameterJson)),
    ("input_schema", .ofDict s.inputSchema)]

/-- Operations of a profile as JSON. -/
def json (p : Profile) (specs : List Spec) : Json :=
  .record [("status", .str "ok"), ("profile", .str p.name), ("count", .nat specs.length),
    ("tools", .arr (specs.map operationJson))]

end ToolRelay.Details
