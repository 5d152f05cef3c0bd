import ToolRelay.Json.Basic
import ToolRelay.Decimal.Shortest
import ToolRelay.Yaml.Token.Lexer
import ToolRelay.Yaml.Value

/-!
# YAML

The value of a YAML text with one document, and what it is as JSON. A text without a document is
null. As JSON the keys of a mapping become texts; some keys have none. A tag that a document makes
up becomes the only member of an object, and a float that is not finite becomes null.
-/

set_option autoImplicit false

namespace ToolRelay.Yaml

/-- The value of a text. -/
def ofText? (s : String) : Option Value :=
  let l := s.toList
  if l.all isAllowed then do
    let tokens ← Token.ofText? l
    match ← Document.ofTokens? tokens with
    | none => return .null
    | some n => n.toValue?
  else none

namespace Value

/-- The text of a key. -/
def keyText? : Value → Option String
  | .str l => some (String.ofList l)
  | .bool true => some "true"
  | .bool false => some "false"
  | .int n => some (String.ofList (Decimal.ofInt n))
  | .float x => if x.finite then some (String.ofList x.jsonText) else none
  | _ => none

mutual

/-- The value as JSON, if all keys have a text. Of several keys with one text the last counts. -/
def toJson? : Value → Option Json
  | .null => some .null
  | .bool b => some (.bool b)
  | .int n => some (.int n)
  | .float x => some (if x.finite then .float x else .null)
  | .str l => some (.str (String.ofList l))
  | .seq items => (toItems? items).map .arr
  | .map entries => (toMembers? entries).map .record
  | .tagged tag v =>
    (toJson? v).map fun v => .record [(String.ofList ('!' :: bareTag tag), v)]

/-- The items of a sequence as JSON. -/
def toItems? : List Value → Option (List Json)
  | [] => some []
  | v :: r =>
    match toJson? v, toItems? r with
    | some v, some r => some (v :: r)
    | _, _ => none

/-- The entries of a mapping as members. -/
def toMembers? : List (Value × Value) → Option (List (String × Json))
  | [] => some []
  | (k, v) :: r =>
    match keyText? k, toJson? v, toMembers? r with
    | some k, some v, some r => some ((k, v) :: r)
    | _, _, _ => none

end

end Value
end ToolRelay.Yaml
