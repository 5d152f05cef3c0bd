import ToolRelay.Argument.Kind

/-!
# Signatures

A signature lists the parameters of an operation and says what its arguments come to. Decoding goes
through the object that a client sent in the order of its names and stops at the first argument of
a wrong type; only when all are right is a missing one reported, the first in the order of the
signature. Names that the signature does not list are passed over.
-/

set_option autoImplicit false

namespace ToolRelay

/-- A parameter: required, or with a value to fall back on when the argument is missing. -/
structure Parameter (α : Type) where
  name : String
  description : String
  kind : Kind α
  fallback : Option α

namespace Parameter

variable {α : Type}

/-- The schema of the parameter. -/
def schema (p : Parameter α) : Json :=
  .record (p.kind.schema ++ [("description", .str p.description)] ++
    (p.fallback.map fun v => ("default", p.kind.encode v)).toList)

/-- The value of the argument, if it is there and right, or the fallback if it is not there. -/
def read (p : Parameter α) (args : Dict Json) : Except DecodeError α :=
  match args.get? p.name with
  | some v => p.kind.decode v
  | none => match p.fallback with
    | some v => .ok v
    | none => .error (.missingField p.name)

end Parameter

/-- Parameters in order, with the type of what their arguments come to. -/
inductive Signature : Type → Type 1
  | nil : Signature Unit
  | cons {α β : Type} (p : Parameter α) (rest : Signature β) : Signature (α × β)

namespace Signature

/-- A required parameter. -/
def required {α β : Type} (name : String) (kind : Kind α) (description : String)
    (rest : Signature β) : Signature (α × β) :=
  .cons ⟨name, description, kind, none⟩ rest

/-- A parameter with a fallback. -/
def withDefault {α β : Type} (name : String) (kind : Kind α) (fallback : α) (description : String)
    (rest : Signature β) : Signature (α × β) :=
  .cons ⟨name, description, kind, some fallback⟩ rest

/-- The names of the parameters. -/
def names : {α : Type} → Signature α → List String
  | _, .nil => []
  | _, .cons p rest => p.name :: rest.names

/-- The names of the required parameters. -/
def requiredNames : {α : Type} → Signature α → List String
  | _, .nil => []
  | _, .cons p rest => if p.fallback.isNone then p.name :: rest.requiredNames else rest.requiredNames

/-- What is wrong with an argument of a certain name, if anything is. -/
def fault? : {α : Type} → Signature α → String → Json → Option DecodeError
  | _, .nil, _, _ => none
  | _, .cons p rest, name, v =>
    if p.name = name then
      match p.kind.decode v with
      | .ok _ => none
      | .error e => some e
    else rest.fault? name v

/-- What the arguments come to, read in the order of the parameters. -/
def read : {α : Type} → Signature α → Dict Json → Except DecodeError α
  | _, .nil, _ => .ok ()
  | _, .cons p rest, args =>
    match p.read args, rest.read args with
    | .ok v, .ok w => .ok (v, w)
    | .error e, _ => .error e
    | _, .error e => .error e

/-- What the arguments come to. The first fault in the order of the names is reported, and a
missing argument only if there is no fault. -/
def decode {α : Type} (sig : Signature α) (args : Dict Json) : Except DecodeError α :=
  match args.entries.findSome? fun (name, v) => sig.fault? name v with
  | some e => .error e
  | none => sig.read args

/-- The schemas of the parameters. -/
def properties : {α : Type} → Signature α → List (String × Json)
  | _, .nil => []
  | _, .cons p rest => (p.name, p.schema) :: rest.properties

/-- The sets of labels that the schemas of the parameters refer to. -/
def definitions : {α : Type} → Signature α → List (String × Json)
  | _, .nil => []
  | _, .cons p rest => p.kind.definitions ++ rest.definitions

/-- The fallbacks, as arguments. -/
def defaults : {α : Type} → Signature α → List (String × Json)
  | _, .nil => []
  | _, .cons p rest =>
    (p.fallback.map fun v => (p.name, p.kind.encode v)).toList ++ rest.defaults

/-- The schema of the argument object. -/
def schema {α : Type} (sig : Signature α) : Dict Json :=
  let members :=
    [("type", .str "object"), ("properties", .record sig.properties)] ++
      (if sig.requiredNames.isEmpty then [] else [("required", .texts sig.requiredNames)]) ++
      (if sig.definitions.isEmpty then [] else [("$defs", .record sig.definitions)])
  Dict.ofList members

end Signature
end ToolRelay
