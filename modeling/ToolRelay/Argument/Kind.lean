import ToolRelay.Argument.Error

/-!
# The types that arguments can have

A `Kind α` describes arguments that denote values of the type `α`: texts, natural numbers of a
certain width, labels out of a closed set, and each of these with `null` for none. The description
serves all ways of looking at an argument: `decode` reads it, `encode` writes it, and `schema` tells
a client what to send.
-/

set_option autoImplicit false

namespace ToolRelay

/-- The widths of natural numbers. -/
inductive Width
  | bits8
  | bits32
  | bits64
  deriving DecidableEq, Repr

namespace Width

/-- The largest number of the width. -/
def bound : Width → Nat
  | .bits8 => 0xFF
  | .bits32 => 0xFFFFFFFF
  | .bits64 => 0xFFFFFFFFFFFFFFFF

/-- How diagnostics name the width. -/
def expected : Width → String
  | .bits8 => "u8"
  | .bits32 => "u32"
  | .bits64 => "usize"

/-- How schemas name the width. -/
def format : Width → String
  | .bits8 => "uint8"
  | .bits32 => "uint32"
  | .bits64 => "uint"

end Width

/-- A closed set of labelled values under a name of its own. -/
structure Labels (α : Type) where
  name : String
  values : List α
  label : α → String
  /-- What a client is told about a value; either all values have such a note or none has. -/
  note : α → Option String

namespace Labels

variable {α : Type}

/-- The labels in the order they are listed in. -/
def all (ls : Labels α) : List String :=
  ls.values.map ls.label

/-- The value of a label. -/
def find? (ls : Labels α) (label : String) : Option α :=
  ls.values.find? fun v => ls.label v == label

/-- The schema of the labels: values with notes are told apart one by one. -/
def schema (ls : Labels α) : Json :=
  match ls.values.mapM fun v => (ls.note v).map fun note => (ls.label v, note) with
  | some noted => .record [("oneOf", .arr (noted.map fun (label, note) =>
      .record [("const", .str label), ("description", .str note), ("type", .str "string")]))]
  | none => .record [("enum", .texts ls.all), ("type", .str "string")]

end Labels

/-- The arguments that denote values of a type. -/
inductive Kind : Type → Type 1
  /-- Texts. -/
  | text : Kind String
  /-- Natural numbers of a width. -/
  | natural (width : Width) : Kind Nat
  /-- Labels of a closed set. -/
  | label {α : Type} (labels : Labels α) : Kind α
  /-- Arguments of a kind, or `null` for none. -/
  | optional {α : Type} (kind : Kind α) : Kind (Option α)

namespace Kind

/-- Reads a label: its text, or an object whose only member has that name and the value `null`. -/
def decodeLabel {α : Type} (ls : Labels α) : Json → Except DecodeError α
  | .str s => match ls.find? s with
    | some v => .ok v
    | none => .error (.unknownLabel s ls.all)
  | .obj [(s, content)] => match ls.find? s with
    | some v => match content with
      | .null => .ok v
      | content => .error (.wrongType content "unit")
    | none => .error (.unknownLabel s ls.all)
  | .obj _ => .error .notSingleKey
  | v => .error (.wrongType v "string or map")

/-- Reads an argument. -/
def decode : {α : Type} → Kind α → Json → Except DecodeError α
  | _, .text, v => match v with
    | .str s => .ok s
    | v => .error (.wrongType v "a string")
  | _, .natural width, v => match v with
    | .int n =>
      if 0 ≤ n ∧ n ≤ width.bound then .ok n.toNat else .error (.outOfRange n width.expected)
    | v => .error (.wrongType v width.expected)
  | _, .label ls, v => decodeLabel ls v
  | _, .optional kind, v => match v with
    | .null => .ok none
    | v => (kind.decode v).map some

/-- Writes an argument. -/
def encode : {α : Type} → Kind α → α → Json
  | _, .text, s => .str s
  | _, .natural _, n => .nat n
  | _, .label ls, v => .str (ls.label v)
  | _, .optional kind, v => match v with
    | some v => kind.encode v
    | none => .null

/-- The sets of labels that the schema refers to by name. -/
def definitions : {α : Type} → Kind α → List (String × Json)
  | _, .text => []
  | _, .natural _ => []
  | _, .label ls => [(ls.name, ls.schema)]
  | _, .optional kind => kind.definitions

/-- The members of the schema that tell a client what to send. -/
def schema : {α : Type} → Kind α → List (String × Json)
  | _, .text => [("type", .str "string")]
  | _, .natural width =>
    [("type", .str "integer"), ("format", .str width.format), ("minimum", .nat 0)] ++
      (if width = .bits8 then [("maximum", .nat width.bound)] else [])
  | _, .label ls => [("$ref", .str ("#/$defs/" ++ ls.name))]
  | _, .optional kind =>
    let inner := kind.schema
    match inner.lookup "type" with
    | some (.str t) =>
      ("type", .texts [t, "null"]) :: inner.filter fun member => member.1 != "type"
    | _ => [("anyOf", .arr [.record inner, .record [("type", .str "null")]])]

end Kind
end ToolRelay
