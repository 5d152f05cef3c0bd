import ToolRelay.Proofs.Description

/-!
# What a schema makes of a spec

A spec is made of any schema that describes an object (`ofSchema_eq_ok_iff` says all that its making
says). What the spec requires and what it describes are read off two members of the schema,
`required` and `properties`, and only where the second is an object are the two compared. So a spec
requires names that it does not describe exactly when it requires some and lists no properties:
the names that people are told to give are then not those that a call is found to lack.
-/

set_option autoImplicit false

namespace ToolRelay.Spec

/-- The shape that clients see of a schema. -/
def shapeOf (members : List (String × Json)) : Dict Json :=
  ((Dict.ofList members).erase "$schema").erase "title"

/-- Whether every name that a schema requires has a property, where it lists properties. -/
def Met (schema : Dict Json) : Prop :=
  ∀ properties, propertiesOf schema = some properties →
    ∀ field ∈ requiredOf schema, field ∈ properties.map (·.1)

/-- No required name is unmet exactly if each has a property. -/
theorem unmet_eq_none_iff (schema : Dict Json) :
    ((propertiesOf schema).bind fun ps =>
      (requiredOf schema).find? fun field => (Dict.find? field ps).isNone) = none ↔ Met schema := by
  unfold Met
  cases propertiesOf schema with
  | none => simp
  | some ps =>
    have hfield : ∀ field : String,
        ¬(Dict.find? field ps).isNone = true ↔ field ∈ ps.map (·.1) := by
      intro field
      rw [Option.isNone_iff_eq_none, Dict.find?_eq_none_iff, not_not]
    simp only [Option.bind_some, List.find?_eq_none, hfield, Option.some.injEq, forall_eq']

variable {name description label : String} {plan : Dict Json → Except PlanError Plan}

/-- A spec is made of a schema that describes an object and has a property for each name that it
requires, if it lists properties at all. The spec shows the shape of the schema. -/
theorem ofSchema_eq_ok_iff {schema : Json} {s : Spec} :
    ofSchema name description label schema plan = .ok s ↔
      ∃ members, schema = .obj members ∧
        (Dict.ofList members).get? "type" = some (.str "object") ∧ Met (shapeOf members) ∧
        s = { name, description, errorLabel := label, inputSchema := shapeOf members
              required := requiredOf (shapeOf members)
              defaults := defaultsOf ((propertiesOf (shapeOf members)).getD []), plan } := by
  cases schema with
  | obj members =>
    have htype : (((Dict.ofList members).get? "type").bind Json.str?).any (· == "object") = true ↔
        (Dict.ofList members).get? "type" = some (.str "object") := by
      cases (Dict.ofList members).get? "type" with
      | none => simp
      | some v => cases v <;> simp [Json.str?]
    simp only [Json.obj.injEq, exists_eq_left', ← htype, ← unmet_eq_none_iff]
    unfold ofSchema
    dsimp only [shapeOf]
    split
    · next h =>
      rw [h]
      -- either a name is found that has no property, or the spec is made
      split
      · next unmet => simp [unmet]
      · next met => simp [met, eq_comm]
    · next h => simp [h]
  | _ => simp [ofSchema]

/-- The names of the properties that a spec describes. -/
def propertyNames (s : Spec) : List String :=
  ((propertiesOf s.inputSchema).getD []).map (·.1)

/-- The names that people are told to give. -/
def describedRequired (s : Spec) : List String :=
  (s.parameters.filter (·.required)).map (·.name)

/-- A name is described as required exactly if it is required and has a property. -/
theorem mem_describedRequired_iff (s : Spec) (field : String) :
    field ∈ s.describedRequired ↔ field ∈ s.propertyNames ∧ field ∈ s.required := by
  simp only [describedRequired, parameters, propertyNames, List.mem_map, List.mem_filter]
  constructor
  · rintro ⟨info, ⟨⟨⟨key, property⟩, hproperty, rfl⟩, hrequired⟩, rfl⟩
    exact ⟨⟨(key, property), hproperty, rfl⟩, by simpa using hrequired⟩
  · rintro ⟨⟨⟨key, property⟩, hproperty, rfl⟩, hrequired⟩
    exact ⟨_, ⟨⟨(key, property), hproperty, rfl⟩, by simpa using hrequired⟩, rfl⟩

/-- A call without arguments is found to lack all that is required. -/
theorem mem_missing_empty_iff (s : Spec) (field : String) :
    field ∈ s.missing .empty ↔ field ∈ s.required := by
  simp [missing, Dict.contains]

/-- **What is required is described, if anything is.** A spec that was made of a schema requires
only names of its properties exactly when the schema has an object of properties or requires no
name, and exactly then the names that people are told to give are those that a call without
arguments is found to lack. -/
theorem required_described_iff {schema : Json} {s : Spec}
    (h : ofSchema name description label schema plan = .ok s) :
    ((∀ field ∈ s.required, field ∈ s.propertyNames) ↔
      (propertiesOf s.inputSchema).isSome = true ∨ requiredOf s.inputSchema = []) ∧
    ((∀ field, field ∈ s.describedRequired ↔ field ∈ s.missing .empty) ↔
      (propertiesOf s.inputSchema).isSome = true ∨ requiredOf s.inputSchema = []) := by
  have hdescribed : (∀ field ∈ s.required, field ∈ s.propertyNames) ↔
      (propertiesOf s.inputSchema).isSome = true ∨ requiredOf s.inputSchema = [] := by
    obtain ⟨members, -, -, hmet, rfl⟩ := ofSchema_eq_ok_iff.1 h
    unfold propertyNames
    dsimp only
    cases hproperties : propertiesOf (shapeOf members) with
    | some ps =>
      have hall := hmet ps hproperties
      simpa using hall
    | none =>
      -- no name is described here, so none may be required
      simp [List.eq_nil_iff_forall_not_mem]
  refine ⟨hdescribed, ?_⟩
  rw [← hdescribed]
  constructor
  · intro hsame field hfield
    have hlacking := (mem_missing_empty_iff s field).2 hfield
    exact ((mem_describedRequired_iff s field).1 ((hsame field).2 hlacking)).1
  · intro hnames field
    rw [mem_describedRequired_iff, mem_missing_empty_iff]
    exact and_iff_right_of_imp (hnames field)

/-- A schema with a property for the one name that it requires, and one for another. -/
theorem required_described_iff_query :
    ∃ s, ofSchema "find" "Finds" "Find Error"
        (.record [("type", .str "object"), ("required", .texts ["query"]),
          ("properties", .record [("limit", .record []), ("query", .record [])])])
        (fun _ => .error (.rejected ⟨"never"⟩)) = .ok s ∧
      s.required = ["query"] ∧
      ∀ field, field ∈ s.describedRequired ↔ field ∈ s.missing .empty := by
  obtain ⟨s, h, hrequired, hproperties⟩ : ∃ s, ofSchema "find" "Finds" "Find Error"
      (.record [("type", .str "object"), ("required", .texts ["query"]),
        ("properties", .record [("limit", .record []), ("query", .record [])])])
      (fun _ => .error (.rejected ⟨"never"⟩)) = .ok s ∧ s.required = ["query"] ∧
      (propertiesOf s.inputSchema).isSome = true := ⟨_, rfl, rfl, rfl⟩
  exact ⟨s, h, hrequired, (required_described_iff h).2.2 (.inl hproperties)⟩

/-- A schema without properties may require a name: nobody is told to give it, and every call lacks
it. -/
theorem required_not_described :
    ∃ s, ofSchema "find" "Finds" "Find Error"
        (.record [("type", .str "object"), ("required", .texts ["query"])])
        (fun _ => .error (.rejected ⟨"never"⟩)) = .ok s ∧
      s.required = ["query"] ∧ s.propertyNames = [] ∧ s.describedRequired = [] ∧
      s.missing .empty = ["query"] :=
  ⟨_, rfl, rfl, rfl, rfl, rfl⟩

/-! ## The specs of operations -/

/-- The default that is read off properties under a name. -/
theorem get?_defaultsOf {properties : List (String × Json)}
    (distinct : (properties.map (·.1)).Nodup) (key : String) :
    (defaultsOf properties).get? key =
      (Dict.find? key properties).bind fun property => property.get? "default" := by
  have hkeys := distinct.sublist
    (Dict.map_fst_filterMap_sublist properties fun property => property.get? "default")
  have hfind := Dict.find?_filterMap distinct (fun property => property.get? "default") key
  rw [defaultsOf]
  exact (Dict.get?_ofList hkeys key).trans hfind

/-- The spec of an operation is the one that is made of its schema. -/
theorem ofSchema_spec {op : Operation} (h : op.signature.Describable) :
    ofSchema op.spec.name op.spec.description op.spec.errorLabel (.ofDict op.spec.inputSchema)
      op.spec.plan = .ok op.spec := by
  have hshape : shapeOf op.signature.schema.entries = op.signature.schema := by
    refine Dict.ext_get? fun key => ?_
    rw [shapeOf, Dict.ofList_entries, Dict.erase, Dict.erase, Dict.get?_filter, Dict.get?_filter]
    by_cases hkey : key = "$schema" ∨ key = "title"
    · have hnone : op.signature.schema.get? key = none :=
        op.signature.get?_schema_eq_none key (by rcases hkey with rfl | rfl <;> decide)
      simp [hnone]
    · have hkept : (key != "$schema" && key != "title") = true := by simpa using hkey
      cases op.signature.schema.get? key <;> simp [hkept]
  have hdistinct : (op.signature.properties.map (·.1)).Nodup := by
    rw [Signature.map_fst_properties]
    exact h.distinct
  have hproperties := op.propertiesOf_spec
  have hdefaults : defaultsOf (Dict.ofList op.signature.properties).entries =
      Dict.ofList op.signature.defaults := by
    have hlist : Dict.ofList op.signature.defaults = defaultsOf op.signature.properties := by
      rw [op.signature.defaults_eq]
      rfl
    refine Dict.ext_get? fun key => ?_
    rw [hlist, get?_defaultsOf hdistinct, get?_defaultsOf (Dict.nodup_keys _),
      ← Dict.get?_ofList hdistinct]
    rfl
  rw [ofSchema_eq_ok_iff]
  refine ⟨op.signature.schema.entries, rfl, ?_, ?_, ?_⟩
  · rw [Dict.ofList_entries]
    exact op.signature.get?_schema_type
  · rw [hshape]
    intro properties hps name hname
    rw [show op.spec.inputSchema = op.signature.schema from rfl, hps] at hproperties
    cases hproperties
    rw [Dict.mem_keys_ofList, Signature.map_fst_properties]
    rw [Signature.requiredOf_schema] at hname
    exact op.signature.requiredNames_subset hname
  · rw [hshape, op.signature.requiredOf_schema,
      show propertiesOf op.signature.schema = _ from hproperties, Option.getD_some, hdefaults]
    rfl

end ToolRelay.Spec
