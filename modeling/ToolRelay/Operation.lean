import ToolRelay.Argument.Signature
import ToolRelay.Request
import ToolRelay.Template

/-!
# Operations

An operation names itself, lists its parameters, and plans a request out of arguments that have
been read. Its `Spec` is what the rest of the library sees of it: the schema of its arguments with
the required names and the defaults read off it, and planning from an argument object. A spec can
also be made for any schema that describes an object and has a property for each required name.
-/

set_option autoImplicit false

namespace ToolRelay

/-- What an accepted call is to do. -/
structure Plan where
  request : ExternalRequest
  /-- How many records or lines to show at most. -/
  limit : Option Nat
  template : Template
  /-- The query that the answer repeats. -/
  query : String
  deriving DecidableEq, Repr

/-- Arguments that have the right types and are still refused. -/
structure Rejection where
  reason : String
  deriving DecidableEq, Repr

/-- Why there is no plan. -/
inductive PlanError
  | decode (error : DecodeError)
  | rejected (rejection : Rejection)
  deriving Repr

/-- The text of a refusal. -/
def PlanError.message : PlanError → String
  | .decode e => e.message
  | .rejected r => r.reason

/-- An operation with typed arguments. -/
structure Operation where
  name : String
  description : String
  /-- What stands before the message of a failed request. -/
  errorLabel : String
  {Args : Type}
  signature : Signature Args
  plan : Args → Except Rejection Plan

/-- An operation as the rest of the library sees it. -/
structure Spec where
  name : String
  description : String
  errorLabel : String
  inputSchema : Dict Json
  required : List String
  defaults : Dict Json
  plan : Dict Json → Except PlanError Plan

/-- Reads the arguments and plans the request. -/
def Operation.planObject (op : Operation) (args : Dict Json) : Except PlanError Plan :=
  match op.signature.decode args with
  | .error e => .error (.decode e)
  | .ok v => match op.plan v with
    | .error r => .error (.rejected r)
    | .ok plan => .ok plan

/-- The spec of an operation. -/
def Operation.spec (op : Operation) : Spec where
  name := op.name
  description := op.description
  errorLabel := op.errorLabel
  inputSchema := op.signature.schema
  required := op.signature.requiredNames
  defaults := Dict.ofList op.signature.defaults
  plan := op.planObject

/-- Why a schema makes no spec. -/
inductive SchemaFault
  /-- The schema does not describe an object. -/
  | notObject
  /-- A required name has no property. -/
  | noProperty (name : String)
  deriving DecidableEq, Repr

/-- The text of a fault. -/
def SchemaFault.reason : SchemaFault → String
  | .notObject => "top-level type must be \"object\""
  | .noProperty name => "required field '" ++ name ++ "' has no property"

namespace Spec

/-- The names that a schema requires. -/
def requiredOf (schema : Dict Json) : List String :=
  match schema.get? "required" with
  | some (.arr names) => names.filterMap Json.str?
  | _ => []

/-- The properties that a schema describes. -/
def propertiesOf (schema : Dict Json) : Option (List (String × Json)) :=
  (schema.get? "properties").bind Json.obj?

/-- The defaults of the properties that have one. -/
def defaultsOf (properties : List (String × Json)) : Dict Json :=
  Dict.ofList (properties.filterMap fun (name, p) => (p.get? "default").map fun d => (name, d))

/-- The spec of a schema. Clients only need the shape of the arguments, so the schema's own title
and dialect are left out. A schema without properties describes none, and is not held to have one
for each required name. -/
def ofSchema (name description errorLabel : String) (schema : Json)
    (plan : Dict Json → Except PlanError Plan) : Except SchemaFault Spec :=
  match schema with
  | .obj members =>
    let schema := Dict.ofList members
    if schema.get? "type" |>.bind Json.str? |>.any (· == "object") then
      let schema := (schema.erase "$schema").erase "title"
      let required := requiredOf schema
      let properties := propertiesOf schema
      let unmet := properties.bind fun ps =>
        required.find? fun name => (Dict.find? name ps).isNone
      match unmet with
      | some name => .error (.noProperty name)
      | none => .ok
        { name, description, errorLabel, inputSchema := schema, required
          defaults := defaultsOf (properties.getD []), plan }
    else .error .notObject
  | _ => .error .notObject

/-- The required names that the arguments lack, in the order of the schema. -/
def missing (s : Spec) (args : Dict Json) : List String :=
  s.required.filter fun name => !args.contains name

/-- A JSON value with the name of its type, as the summary of a spec shows it. -/
def shownValue : Json → String
  | .null => "Null"
  | .bool true => "Bool(true)"
  | .bool false => "Bool(false)"
  | .str s => "String(" ++ Text.quoted s ++ ")"
  | .arr items => "Array [" ++ shownItems items ++ "]"
  | .obj members => "Object \x7b" ++ shownMembers members ++ "\x7d"
  | v => "Number(" ++ v.text ++ ")"
where
  /-- Items with commas between them. -/
  shownItems : List Json → String
    | [] => ""
    | [v] => shownValue v
    | v :: r => shownValue v ++ ", " ++ shownItems r
  /-- Members with commas between them. -/
  shownMembers : List (String × Json) → String
    | [] => ""
    | [(k, v)] => Text.quoted k ++ ": " ++ shownValue v
    | (k, v) :: r => Text.quoted k ++ ": " ++ shownValue v ++ ", " ++ shownMembers r

/-- A summary of the spec: its name, the required names, and the defaults. -/
def shown (s : Spec) : String :=
  "OperationSpec \x7b name: " ++ Text.quoted s.name ++ ", required: [" ++
    ", ".intercalate (s.required.map Text.quoted) ++ "], defaults: \x7b" ++
    shownValue.shownMembers s.defaults.entries ++ "\x7d, .. \x7d"

end Spec
end ToolRelay
