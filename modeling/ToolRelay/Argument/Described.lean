import ToolRelay.Operation

/-!
# Parameters as described by a schema

What a schema says about each parameter, for people: its type in a word, whether it is required,
its default, its description, and the values it can take when those are listed. A property may refer
to a definition, or offer alternatives of which the first that is not `null` counts; `resolve`
follows these to the schema that describes the values.
-/

set_option autoImplicit false

namespace ToolRelay

/-- A parameter as a schema describes it. -/
structure ParameterInfo where
  name : String
  type : String
  required : Bool
  default : Option Json
  description : String
  /-- The values that the parameter can take, when they are listed. -/
  choices : List String
  deriving Repr

namespace Schema

/-- The definition that a property refers to, if it does and there is one. -/
def definition? (root : Dict Json) (v : Json) : Option Json :=
  match v.getStr? "$ref" with
  | none => none
  | some reference =>
    if "#/$defs/".toList.isPrefixOf reference.toList then
      (root.get? "$defs").bind fun defs => defs.get? (String.ofList (reference.toList.drop 8))
    else none

/-- Whether an alternative stands for something else than `null`. -/
def offersValue (v : Json) : Bool :=
  v.getStr? "type" != some "null"

/-- A member of an object is smaller than its members together, which ends the search for types. -/
theorem sizeOf_lt_of_find? {name : String} {l : List (String × Json)} {v : Json}
    (h : Dict.find? name l = some v) : sizeOf v < sizeOf l := by
  induction l with
  | nil => simp [Dict.find?] at h
  | cons a r ih =>
    obtain ⟨k, w⟩ := a
    unfold Dict.find? at h
    split at h
    · cases h
      simp only [List.cons.sizeOf_spec, Prod.mk.sizeOf_spec]
      omega
    · have := ih h
      simp only [List.cons.sizeOf_spec]
      omega

/-- A member of an object is smaller than the object. -/
theorem sizeOf_lt_of_get? {v w : Json} {name : String} (h : v.get? name = some w) :
    sizeOf w < sizeOf v := by
  cases v with
  | obj members =>
    have := sizeOf_lt_of_find? (l := members) h
    simp only [Json.obj.sizeOf_spec]
    omega
  | _ => simp [Json.get?] at h

/-- The schema that describes the values of a property. -/
def resolve (root : Dict Json) (v : Json) : Json :=
  match definition? root v with
  | some d => d
  | none =>
    match _h : v.get? "anyOf" with
    | some (.arr branches) =>
      match _h' : branches.find? offersValue with
      | some first => resolve root first
      | none => v
    | _ => v
termination_by sizeOf v
decreasing_by
  have h₁ := sizeOf_lt_of_get? _h
  have h₂ := List.sizeOf_lt_of_mem (List.mem_of_find?_eq_some _h')
  simp only [Json.arr.sizeOf_spec] at h₁
  omega

/-- The values that a schema lists: an enumeration, or constants one by one. -/
def choicesOf (v : Json) : List String :=
  match v.get? "enum" with
  | some (.arr values) => values.map Json.plain
  | _ => match v.get? "oneOf" with
    | some (.arr variants) => variants.filterMap fun variant => variant.getStr? "const"
    | _ => []

/-- The type of a schema in a word. Of several types the first that is not `null` counts. -/
def typeOf (v : Json) : String :=
  match v.get? "type" with
  | some (.str t) => t
  | some (.arr types) => ((types.filterMap Json.str?).find? (· ≠ "null")).getD "any"
  | _ => if (choicesOf v).isEmpty then "any" else "string"

/-- The description of a property, or else of the schema it resolves to. -/
def descriptionOf (property target : Json) : String :=
  let found := match property.get? "description" with
    | some d => some d
    | none => target.get? "description"
  (found.bind Json.str?).getD ""

end Schema

/-- The parameters of a spec in the order of their names. -/
def Spec.parameters (s : Spec) : List ParameterInfo :=
  ((Spec.propertiesOf s.inputSchema).getD []).map fun (name, property) =>
    let target := Schema.resolve s.inputSchema property
    { name
      type := Schema.typeOf target
      required := s.required.contains name
      default := s.defaults.get? name
      description := Schema.descriptionOf property target
      choices := Schema.choicesOf target }

end ToolRelay
