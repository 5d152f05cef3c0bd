import ToolRelay.Proofs.SchemaSpecs

/-!
# Schemas in place of references

A property may refer to a definition instead of being written out. The two are described alike only
where the definition is described as it is written: a reference ends at the definition, also if that
refers on or offers alternatives, while one that is written in place is followed to its end.
`described_in_place_iff` says what then changes, for people and for the arguments that are built.
-/

set_option autoImplicit false

namespace ToolRelay

/-! ## What resolving ends at -/

namespace Schema

/-- What the definitions of a schema hold under a name. -/
def named? (root : Dict Json) (name : String) : Option Json :=
  (root.get? "$defs").bind fun defs => defs.get? name

/-- Whether a schema describes its values itself, without a reference or an alternative. -/
structure Final (root : Dict Json) (v : Json) : Prop where
  definition : definition? root v = none
  alternative : ∀ branches, v.get? "anyOf" = some (.arr branches) →
    branches.find? offersValue = none

/-- The schema that is a reference to a definition. -/
def reference (name : String) : Json :=
  .record [("$ref", .str ("#/$defs/" ++ name))]

/-- A reference names its definition. -/
theorem get?_reference (name : String) :
    (reference name).get? "$ref" = some (.str ("#/$defs/" ++ name)) := rfl

variable {root root' : Dict Json}

/-- A final value is resolved to itself. -/
theorem Final.resolve_eq {v : Json} (h : Final root v) : resolve root v = v :=
  resolve_of_plain h.definition h.alternative

/-- References depend on the definitions only. -/
theorem definition?_congr (h : root.get? "$defs" = root'.get? "$defs") (v : Json) :
    definition? root v = definition? root' v := by
  unfold definition?
  rw [h]

/-- What a reference leads to has a name. -/
theorem exists_named_of_definition {v d : Json} (h : definition? root v = some d) :
    ∃ name, named? root name = some d := by
  unfold definition? at h
  split at h
  · cases h
  · split at h
    · exact ⟨_, h⟩
    · cases h

/-- The definitions are all of the schema that resolving looks at. -/
theorem resolve_congr_root (h : root.get? "$defs" = root'.get? "$defs") (v : Json) :
    resolve root v = resolve root' v := by
  fun_induction resolve root v with
  | case1 v d hdef => exact (resolve_of_definition (definition?_congr h v ▸ hdef)).symm
  | case2 v hdef branches hany first hfirst ih =>
    rw [ih, resolve_of_branch (definition?_congr h v ▸ hdef) hany hfirst]
  | case3 v hdef branches hany hnone =>
    refine (resolve_of_plain (definition?_congr h v ▸ hdef) ?_).symm
    intro branches' hany'
    cases hany.symm.trans hany'
    exact hnone
  | case4 v hdef hany =>
    refine (resolve_of_plain (definition?_congr h v ▸ hdef) ?_).symm
    intro branches hany'
    exact absurd hany' (hany branches)

/-- Resolving ends at a schema that describes its values, or at a definition whatever it is. -/
theorem final_or_exists_named (root : Dict Json) (v : Json) :
    Final root (resolve root v) ∨ ∃ name, named? root name = some (resolve root v) := by
  fun_induction resolve root v with
  | case1 v d hdef => exact .inr (exists_named_of_definition hdef)
  | case2 v hdef branches hany first hfirst ih => exact ih
  | case3 v hdef branches hany hnone =>
    left
    refine ⟨hdef, ?_⟩
    intro branches' hany'
    cases hany.symm.trans hany'
    exact hnone
  | case4 v hdef hany =>
    left
    refine ⟨hdef, ?_⟩
    intro branches hany'
    exact absurd hany' (hany branches)

/-- A reference is resolved to its definition, be that a reference or not. -/
theorem resolve_of_reference {v d : Json} {name : String}
    (href : v.get? "$ref" = some (.str ("#/$defs/" ++ name))) (hd : named? root name = some d) :
    resolve root v = d :=
  resolve_of_definition (definition?_of_reference href hd)

/-- Resolving a second time changes nothing anywhere exactly when it does not change a
definition. -/
theorem resolve_resolve_iff (root : Dict Json) :
    (∀ v, resolve root (resolve root v) = resolve root v) ↔
      ∀ name d, named? root name = some d → resolve root d = d := by
  constructor
  · intro hagain name d hd
    have hreference := hagain (reference name)
    rwa [resolve_of_reference (get?_reference name) hd] at hreference
  · intro hdefinitions v
    rcases final_or_exists_named root v with hfinal | ⟨name, hname⟩
    · exact hfinal.resolve_eq
    · exact hdefinitions name _ hname

end Schema

/-! ## What is said of one property -/

/-- The value with the members of a name changed. -/
def Json.withMember (name : String) (f : Json → Json) : Json → Json
  | .obj members => .obj (members.map fun (k, v) => (k, if k = name then f v else v))
  | v => v

/-- What is said of the parameter of a name. -/
def Spec.parameter? (s : Spec) (name : String) : Option ParameterInfo :=
  s.parameters.find? fun info => info.name == name

/-- What is said of a property. -/
def Spec.infoOf (s : Spec) (name : String) (property : Json) : ParameterInfo where
  name
  type := Schema.typeOf (Schema.resolve s.inputSchema property)
  required := s.required.contains name
  default := s.defaults.get? name
  description := Schema.descriptionOf property (Schema.resolve s.inputSchema property)
  choices := Schema.choicesOf (Schema.resolve s.inputSchema property)

/-- The schema that a spec has for a parameter. -/
def Spec.property? (s : Spec) (name : String) : Option Json :=
  (Spec.propertiesOf s.inputSchema).bind (Dict.find? name)

/-- A parameter is told by its property. -/
theorem Spec.parameter?_eq (s : Spec) (name : String) :
    s.parameter? name = (s.property? name).map (s.infoOf name) := by
  rw [parameter?, property?,
    show s.parameters = ((propertiesOf s.inputSchema).getD []).map fun e => s.infoOf e.1 e.2 from rfl]
  cases propertiesOf s.inputSchema with
  | none => rfl
  | some properties =>
    rw [Option.getD_some, List.find?_map, Option.bind_some]
    show Option.map _ (properties.find? fun e => e.1 == name) = _
    rw [Dict.find?_entry_eq, Option.map_map]
    rfl

/-- What is said of a property that refers to a definition is what is said of the definition. -/
theorem Spec.exists_parameter_of_reference {s : Spec} {key target : String} {property d : Json}
    (hproperty : s.property? key = some property)
    (href : property.get? "$ref" = some (.str ("#/$defs/" ++ target)))
    (hd : Schema.named? s.inputSchema target = some d) :
    ∃ info, s.parameter? key = some info ∧ info.type = Schema.typeOf d ∧
      info.choices = Schema.choicesOf d := by
  have hresolve := Schema.resolve_of_reference href hd
  refine ⟨s.infoOf key property, ?_, ?_, ?_⟩
  · rw [parameter?_eq, hproperty]
    rfl
  · rw [infoOf, hresolve]
  · rw [infoOf, hresolve]

/-- The type of an argument is that of its parameter, or a text where there is none. -/
theorem Coercion.typeOf_eq (s : Spec) (name : String) :
    typeOf s name = ((s.parameter? name).map (·.type)).getD "string" := rfl

namespace Coercion

/-- The words that texts are read by, other than as they are. -/
def readWords : List String :=
  ["integer", "number", "boolean", "array"]

/-- The word that a text is read by for a type. -/
def readAs (type : String) : String :=
  if type ∈ readWords then type else "string"

/-- The word that a value is of. -/
def wordOf : Json → String
  | .int _ => "integer"
  | .float _ => "number"
  | .bool _ => "boolean"
  | .arr _ => "array"
  | _ => "string"

/-- For a type that no text is read for, a text stays as it is. -/
theorem coerce_of_not_mem {type : String} (h : type ∉ readWords) (raw : String) :
    coerce raw type = .str raw := by
  simp only [readWords, List.mem_cons, List.not_mem_nil, or_false, not_or] at h
  obtain ⟨hinteger, hnumber, hboolean, harray⟩ := h
  simp only [coerce, if_neg hinteger, if_neg hnumber, if_neg hboolean, if_neg harray]

/-- A text is read for the type that the type is read as. -/
theorem coerce_readAs (raw type : String) : coerce raw (readAs type) = coerce raw type := by
  unfold readAs
  split
  · rfl
  · next h => rw [coerce_of_not_mem h, coerce_of_not_mem (by decide)]

/-- One text reads as a value of every type. -/
theorem wordOf_coerce_one (type : String) : wordOf (coerce "1" type) = readAs type := by
  unfold readAs
  split
  · next h =>
    simp only [readWords, List.mem_cons, List.not_mem_nil, or_false] at h
    rcases h with rfl | rfl | rfl | rfl <;> rfl
  · next h =>
    rw [coerce_of_not_mem h]
    rfl

/-- Two types give every text one value exactly when it is read by one word for both. -/
theorem coerce_eq_iff (t t' : String) :
    (∀ raw, coerce raw t = coerce raw t') ↔ readAs t = readAs t' := by
  constructor
  · intro h
    rw [← wordOf_coerce_one t, ← wordOf_coerce_one t', h]
  · intro h raw
    rw [← coerce_readAs raw t, ← coerce_readAs raw t', h]

/-- Two specs that tell one type of every parameter but one build the same arguments exactly when
texts are read alike for that one. -/
theorem arguments_eq_iff_readAs {s s' : Spec} {key : String}
    (h : ∀ other, other ≠ key → typeOf s' other = typeOf s other) :
    (∀ provided, arguments s' provided = arguments s provided) ↔
      readAs (typeOf s' key) = readAs (typeOf s key) := by
  rw [← coerce_eq_iff]
  constructor
  · intro hsame raw
    have hget := congrArg (·.get? key) (hsame (Dict.empty.insert key raw))
    simpa [arguments, Dict.get?_insert] using hget
  · intro hsame provided
    refine Dict.ext_get? fun name => ?_
    rw [arguments, arguments, Dict.get?_map, Dict.get?_map]
    by_cases hname : name = key
    · subst hname
      simp only [hsame]
    · rw [h name hname]

end Coercion

/-! ## Writing a definition in place -/

namespace Schema

/-- A member of a schema, with the property of a key written as a definition has it. -/
def written (key : String) (d : Json) (name : String) (member : Json) : Json :=
  if name = "properties" then member.withMember key fun _ => d else member

/-- A schema with the property of a key written as a definition has it. -/
def inPlace (schema : Json) (key : String) (d : Json) : Json :=
  schema.withMember "properties" (Json.withMember key fun _ => d)

variable {root : Dict Json} {key : String} {d : Json}

/-- Writing a property changes no other member of the schema. -/
theorem get?_map_written {name : String} (h : name ≠ "properties") :
    (root.map (written key d)).get? name = root.get? name := by
  rw [Dict.get?_map, show written key d name = id from funext fun _ => if_neg h, Option.map_id_fun]
  rfl

/-- Writing a property changes that property only. -/
theorem propertiesOf_map_written (root : Dict Json) (key : String) (d : Json) :
    Spec.propertiesOf (root.map (written key d)) =
      (Spec.propertiesOf root).map fun properties =>
        properties.map fun (name, property) => (name, if name = key then d else property) := by
  unfold Spec.propertiesOf
  rw [Dict.get?_map]
  cases root.get? "properties" with
  | none => rfl
  | some properties => cases properties <;> rfl

/-- Writing a property leaves the required names as they are. -/
theorem requiredOf_map_written (root : Dict Json) (key : String) (d : Json) :
    Spec.requiredOf (root.map (written key d)) = Spec.requiredOf root := by
  rw [Spec.requiredOf, Spec.requiredOf, get?_map_written (by decide)]

/-- Members that are changed one by one keep their shape. -/
theorem shapeOf_map (f : String → Json → Json) (members : List (String × Json)) :
    Spec.shapeOf (members.map fun (name, v) => (name, f name v)) =
      (Spec.shapeOf members).map f := by
  unfold Spec.shapeOf
  rw [Dict.ofList_map]
  refine Dict.ext_get? fun name => ?_
  simp only [Dict.erase, Dict.get?_filter, Dict.get?_map, Option.filter_map]
  rfl

end Schema

namespace Spec

variable {name description label : String} {plan : Dict Json → Except PlanError Plan}
variable {schema : Json} {s : Spec}

/-- A schema that makes a spec makes one with a property written in place, too. -/
theorem ofSchema_inPlace (h : ofSchema name description label schema plan = .ok s)
    (key : String) (d : Json) :
    ∃ s', ofSchema name description label (Schema.inPlace schema key d) plan = .ok s' ∧
      s'.inputSchema = s.inputSchema.map (Schema.written key d) := by
  obtain ⟨members, rfl, htype, hmet, rfl⟩ := ofSchema_eq_ok_iff.1 h
  have hshape := Schema.shapeOf_map (Schema.written key d) members
  refine ⟨_, ofSchema_eq_ok_iff.2
    ⟨members.map fun (name, v) => (name, Schema.written key d name v), rfl, ?_, ?_, rfl⟩, hshape⟩
  · rw [Dict.ofList_map, Schema.get?_map_written (by decide), htype]
  · -- the names of the properties are the same
    rw [hshape]
    intro properties hproperties field hfield
    rw [Schema.propertiesOf_map_written, Option.map_eq_some_iff] at hproperties
    obtain ⟨before, hbefore, rfl⟩ := hproperties
    rw [Schema.requiredOf_map_written] at hfield
    have hmem := hmet before hbefore field hfield
    rw [List.map_map]
    exact hmem

/-- The other properties stay as they are. -/
theorem property?_inPlace {s s' : Spec} {key : String} {d : Json}
    (h : s'.inputSchema = s.inputSchema.map (Schema.written key d)) (other : String) :
    s'.property? other = (s.property? other).map fun property =>
      if other = key then d else property := by
  rw [property?, property?, h, Schema.propertiesOf_map_written]
  cases propertiesOf s.inputSchema with
  | none => rfl
  | some properties =>
    exact Dict.find?_map (fun name property => if name = key then d else property) other properties

/-- **A definition in place of a reference.** Where a property refers to a definition, the schema
with the definition in place of the reference makes a spec, too. Its parameter has the same type and
the same choices exactly when the definition is described like what it resolves to, and all texts
come to the same arguments exactly when they are read by one word for both. A second resolving
changes nothing anywhere exactly when it does not change a definition. -/
theorem described_in_place_iff (h : ofSchema name description label schema plan = .ok s)
    {key target : String} {property d : Json} (hproperty : s.property? key = some property)
    (href : property.get? "$ref" = some (.str ("#/$defs/" ++ target)))
    (hd : Schema.named? s.inputSchema target = some d) :
    (∃ s' info info', ofSchema name description label (Schema.inPlace schema key d) plan = .ok s' ∧
      s.parameter? key = some info ∧ s'.parameter? key = some info' ∧
      (info'.type = info.type ∧ info'.choices = info.choices ↔
        Schema.Alike (Schema.resolve s.inputSchema d) d) ∧
      ((∀ provided, Coercion.arguments s' provided = Coercion.arguments s provided) ↔
        Coercion.readAs (Schema.typeOf (Schema.resolve s.inputSchema d)) =
          Coercion.readAs (Schema.typeOf d))) ∧
    ((∀ v, Schema.resolve s.inputSchema (Schema.resolve s.inputSchema v) =
        Schema.resolve s.inputSchema v) ↔
      ∀ name definition, Schema.named? s.inputSchema name = some definition →
        Schema.resolve s.inputSchema definition = definition) := by
  refine ⟨?_, Schema.resolve_resolve_iff s.inputSchema⟩
  obtain ⟨s', hs', hschema⟩ := ofSchema_inPlace h key d
  have hresolve : ∀ v, Schema.resolve s'.inputSchema v = Schema.resolve s.inputSchema v := by
    intro v
    apply Schema.resolve_congr_root
    rw [hschema, Schema.get?_map_written (by decide)]
  obtain ⟨info, hinfo, htype, hchoices⟩ := exists_parameter_of_reference hproperty href hd
  have hinfo' : s'.parameter? key = some (s'.infoOf key d) := by
    rw [parameter?_eq, property?_inPlace hschema, hproperty, Option.map_some, if_pos rfl]
    rfl
  -- no other parameter is told another type
  have hother : ∀ other, other ≠ key → Coercion.typeOf s' other = Coercion.typeOf s other := by
    intro other hne
    rw [Coercion.typeOf_eq, Coercion.typeOf_eq, parameter?_eq, parameter?_eq,
      property?_inPlace hschema]
    cases s.property? other with
    | none => rfl
    | some v =>
      simp only [Option.map_some, if_neg hne, infoOf, hresolve]
  refine ⟨s', info, _, hs', hinfo, hinfo', ?_, ?_⟩
  · rw [htype, hchoices, infoOf, hresolve]
    exact ⟨fun ⟨htype', hchoices'⟩ => ⟨htype', hchoices'⟩, fun alike => ⟨alike.type, alike.choices⟩⟩
  · rw [Coercion.arguments_eq_iff_readAs hother, Coercion.typeOf_eq, Coercion.typeOf_eq, hinfo,
      hinfo']
    simp only [Option.map_some, Option.getD_some, infoOf, hresolve, htype]

/-- A schema of one property that refers to a definition, among some definitions. -/
def referring (definitions : List (String × Json)) : Json :=
  .record [("$defs", .record definitions),
    ("properties", .record [("x", Schema.reference "A")]), ("type", .str "object")]

/-- A definition that lists labels may be written in place. -/
theorem described_in_place_iff_labels :
    let labels := Json.record [("enum", .texts ["npm", "pypi"]), ("type", .str "string")]
    ∃ s s', ofSchema "find" "Finds" "Find Error" (referring [("A", labels)])
        (fun _ => .error (.rejected ⟨"never"⟩)) = .ok s ∧
      ofSchema "find" "Finds" "Find Error" (Schema.inPlace (referring [("A", labels)]) "x" labels)
        (fun _ => .error (.rejected ⟨"never"⟩)) = .ok s' ∧
      ∀ provided, Coercion.arguments s' provided = Coercion.arguments s provided := by
  intro labels
  obtain ⟨s, hs, hproperty, hnamed⟩ : ∃ s, ofSchema "find" "Finds" "Find Error"
      (referring [("A", labels)]) (fun _ => .error (.rejected ⟨"never"⟩)) = .ok s ∧
      s.property? "x" = some (Schema.reference "A") ∧
      Schema.named? s.inputSchema "A" = some labels := ⟨_, rfl, rfl, rfl⟩
  have hfinal : Schema.Final s.inputSchema labels :=
    ⟨Schema.definition?_eq_none rfl, by intro branches hany; cases hany⟩
  obtain ⟨⟨s', -, -, hs', -, -, -, hsame⟩, -⟩ :=
    described_in_place_iff hs hproperty (Schema.get?_reference "A") hnamed
  exact ⟨s, s', hs, hs', hsame.2 (by rw [hfinal.resolve_eq])⟩

/-- A definition that refers on to one of whole numbers may not be written in place: behind the
reference it is of no known type, and in place it is that of whole numbers. -/
theorem described_not_in_place :
    let forwarding := Schema.reference "B"
    let schema := referring [("A", forwarding), ("B", .record [("type", .str "integer")])]
    ∃ s s', ofSchema "find" "Finds" "Find Error" schema
        (fun _ => .error (.rejected ⟨"never"⟩)) = .ok s ∧
      ofSchema "find" "Finds" "Find Error" (Schema.inPlace schema "x" forwarding)
        (fun _ => .error (.rejected ⟨"never"⟩)) = .ok s' ∧
      (s.parameter? "x").map (·.type) = some "any" ∧
      (s'.parameter? "x").map (·.type) = some "integer" ∧
      (Coercion.arguments s (.ofList [("x", "5")])).get? "x" = some (.str "5") ∧
      (Coercion.arguments s' (.ofList [("x", "5")])).get? "x" = some (.int 5) := by
  intro forwarding schema
  obtain ⟨s, hs, hproperty, hnamed⟩ : ∃ s, ofSchema "find" "Finds" "Find Error" schema
      (fun _ => .error (.rejected ⟨"never"⟩)) = .ok s ∧
      s.property? "x" = some (Schema.reference "A") ∧
      Schema.named? s.inputSchema "A" = some forwarding := ⟨_, rfl, rfl, rfl⟩
  obtain ⟨s', hs', hproperty', hnamed'⟩ : ∃ s', ofSchema "find" "Finds" "Find Error"
      (Schema.inPlace schema "x" forwarding) (fun _ => .error (.rejected ⟨"never"⟩)) = .ok s' ∧
      s'.property? "x" = some forwarding ∧
      Schema.named? s'.inputSchema "B" = some (.record [("type", .str "integer")]) :=
    ⟨_, rfl, rfl, rfl⟩
  obtain ⟨info, hinfo, htype, -⟩ :=
    exists_parameter_of_reference hproperty (Schema.get?_reference "A") hnamed
  obtain ⟨info', hinfo', htype', -⟩ :=
    exists_parameter_of_reference hproperty' (Schema.get?_reference "B") hnamed'
  replace htype : info.type = "any" := htype
  replace htype' : info'.type = "integer" := htype'
  refine ⟨s, s', hs, hs', ?_, ?_, ?_, ?_⟩
  · simp only [hinfo, Option.map_some, htype]
  · simp only [hinfo', Option.map_some, htype']
  · rw [Coercion.arguments, Dict.get?_map, Coercion.typeOf_eq, hinfo, Option.map_some, htype]
    rfl
  · rw [Coercion.arguments, Dict.get?_map, Coercion.typeOf_eq, hinfo', Option.map_some, htype']
    rfl

end Spec

end ToolRelay
