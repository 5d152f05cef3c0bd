import ToolRelay.Json.Text

/-!
# Why a value is refused

A value that does not have the type it is declared with is refused with the cause; `message` words
it. What was found is described by its type and, where that is short, its value.
-/

set_option autoImplicit false

namespace ToolRelay

/-- Why a value, or an object that lacks one, is refused. -/
inductive DecodeError
  /-- A value of another type. -/
  | wrongType (found : Json) (expected : String)
  /-- A number outside the range of its type. -/
  | outOfRange (found : Int) (expected : String)
  /-- An object in place of a label that does not have exactly one member. -/
  | notSingleKey
  /-- A label that is none of those allowed. -/
  | unknownLabel (found : String) (allowed : List String)
  /-- A member that must be there and is not. -/
  | missingField (name : String)
  /-- An array with more items than there are places. -/
  | tooLong (length : Nat)
  deriving Repr

namespace DecodeError

/-- A value as diagnostics describe it. -/
def described : Json → String
  | .null => "null"
  | .bool true => "boolean `true`"
  | .bool false => "boolean `false`"
  | .int n => "integer `" ++ String.ofList (Decimal.ofInt n) ++ "`"
  | .float x => "floating point `" ++ String.ofList x.jsonText ++ "`"
  | .str s => "string " ++ Text.quoted s
  | .arr _ => "sequence"
  | .obj _ => "map"

/-- A list of labels as diagnostics name them. -/
def oneOf : List String → String
  | [] => "nothing"
  | [a] => "`" ++ a ++ "`"
  | [a, b] => "`" ++ a ++ "` or `" ++ b ++ "`"
  | labels => "one of " ++ ", ".intercalate (labels.map fun a => "`" ++ a ++ "`")

/-- The text of a refusal. -/
def message : DecodeError → String
  | .wrongType found expected =>
    "invalid type: " ++ described found ++ ", expected " ++ expected
  | .outOfRange found expected =>
    "invalid value: integer `" ++ String.ofList (Decimal.ofInt found) ++ "`, expected " ++ expected
  | .notSingleKey => "invalid value: map, expected map with a single key"
  | .unknownLabel found allowed =>
    "unknown variant `" ++ found ++ "`, expected " ++ oneOf allowed
  | .missingField name => "missing field `" ++ name ++ "`"
  | .tooLong length =>
    "invalid length " ++ String.ofList (Decimal.ofNat length) ++
      ", expected fewer elements in array"

end DecodeError
end ToolRelay
