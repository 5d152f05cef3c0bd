import ToolRelay.Argument.Described
import ToolRelay.Console.Heading
import ToolRelay.Console.Table
import ToolRelay.Profile

/-!
# Listing the operations of a profile

The operations in the order of their registration, each with its parameters and its description: as
a table for people, or as JSON.
-/

set_option autoImplicit false

namespace ToolRelay.Listing

/-- How long a description may be in the table. -/
def maxDescription : Nat := 90

/-- A parameter in a word: its name, a star if it is required, and its type. -/
def parameterText (p : ParameterInfo) : String :=
  p.name ++ (if p.required then "*" else "") ++ ":" ++ p.type

/-- The parameters of an operation in one cell. -/
def parametersText (s : Spec) : String :=
  if s.parameters.isEmpty then "-" else ", ".intercalate (s.parameters.map parameterText)

/-- A text on one line. -/
def oneLine (s : String) : String :=
  String.ofList (s.toList.map fun c => if c = '\n' then ' ' else c)

/-- The headers of the table. -/
def headers : List String :=
  ["#", "NAME", "PARAMS", "DESCRIPTION"]

/-- The rows of the table, numbered from one. -/
def rows (specs : List Spec) : List (List String) :=
  specs.zipIdx.map fun (s, i) =>
    [String.ofList (Decimal.ofNat (i + 1)), s.name, parametersText s,
      Text.clipped maxDescription (oneLine s.description)]

/-- The word of advice under the table. -/
def advice (p : Profile) : String :=
  "Use `mcp-relay get " ++ p.name ++ " <name>` for parameter details"

/-- What stands over the table. -/
def heading (p : Profile) (style : Console.Style) : String :=
  Console.heading ("Tools (" ++ String.ofList (Decimal.ofNat p.registry.size) ++ ")")
    (some ("profile=" ++ p.name ++ " • server=" ++ p.serverName)) style

/-- The listing for people. -/
def text (p : Profile) (style : Console.Style) : String :=
  heading p style ++ "\n" ++ Console.table headers (rows p.registry.specs) style ++ "\n\n" ++
    String.ofList (style.paint .dim (advice p).toList) ++ "\n"

/-- An operation in the listing. -/
def operationJson (s : Spec) : Json :=
  .record [("name", .str s.name), ("description", .str s.description),
    ("required", .texts s.required)]

/-- The listing as JSON. -/
def json (p : Profile) : Json :=
  .record [("status", .str "ok"), ("profile", .str p.name), ("server", .str p.serverName),
    ("count", .nat p.registry.size), ("tools", .arr (p.registry.specs.map operationJson))]

end ToolRelay.Listing
