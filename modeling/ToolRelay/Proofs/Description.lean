import ToolRelay.Argument.Coercion
import ToolRelay.Proofs.Decoding

/-!
# What a schema tells of a signature

The schema of an operation is made from its signature, and clients and the command line read it
back. Here it is read back in general: the names of the parameters, the required ones in their
order, and the word for the type of each with its choices, which are found behind references and
alternatives. The last is `Operation.exists_parameter`: a parameter is described by the word and the
labels of the range that it is decoded by.
-/

set_option autoImplicit false

namespace ToolRelay

/-- A record has the members that it is made of. -/
theorem Json.get?_record {l : List (String × Json)} (distinct : (l.map (·.1)).Nodup)
    (name : String) : (Json.record l).get? name = Dict.find? name l :=
  Dict.get?_ofList distinct name

/-! ## The members of the schema -/

namespace Signature

variable {α : Type}

/-- The members that the schema of a signature is made of. -/
theorem get?_schema (sig : Signature α) (key : String) :
    sig.schema.get? key = Dict.find? key
      ([("type", .str "object"), ("properties", .record sig.properties)] ++
        (if sig.requiredNames.isEmpty then [] else [("required", .texts sig.requiredNames)]) ++
        (if sig.definitions.isEmpty then [] else [("$defs", .record sig.definitions)])) := by
  refine Dict.get?_ofList ?_ key
  split <;> split <;> simp

/-- The schema of a signature has its properties. -/
theorem get?_schema_properties (sig : Signature α) :
    sig.schema.get? "properties" = some (.record sig.properties) := by
  rw [get?_schema]
  rfl

/-- The schema of a signature has its definitions, if there are any. -/
theorem get?_schema_definitions (sig : Signature α) (h : sig.definitions ≠ []) :
    sig.schema.get? "$defs" = some (.record sig.definitions) := by
  rw [get?_schema, if_neg (c := sig.definitions.isEmpty = true) (by simpa using h)]
  split <;> rfl

/-- The schema of a signature is that of an object. -/
theorem get?_schema_type (sig : Signature α) : sig.schema.get? "type" = some (.str "object") := by
  rw [get?_schema]
  rfl

/-- The schema of a signature has its required names, if there are any. -/
theorem get?_schema_required (sig : Signature α) :
    sig.schema.get? "required" =
      if sig.requiredNames.isEmpty then none else some (.texts sig.requiredNames) := by
  rw [get?_schema]
  split <;> split <;> rfl

/-- There is nothing else in the schema of a signature. -/
theorem get?_schema_eq_none (sig : Signature α) (key : String)
    (h : key ∉ ["type", "properties", "required", "$defs"]) : sig.schema.get? key = none := by
  rw [get?_schema, Dict.find?_eq_none_iff]
  split <;> split <;> simp_all

/-- The required names are read off the schema in the order of the signature. -/
theorem requiredOf_schema (sig : Signature α) : Spec.requiredOf sig.schema = sig.requiredNames := by
  rw [Spec.requiredOf, get?_schema_required]
  by_cases h : sig.requiredNames = []
  · simp [h]
  · have hread : (sig.requiredNames.map Json.str).filterMap Json.str? = sig.requiredNames := by
      rw [List.filterMap_map]
      exact List.filterMap_some
    simpa [h, Json.texts] using hread

/-- The properties of a signature have its names. -/
theorem map_fst_properties (sig : Signature α) : sig.properties.map (·.1) = sig.names := by
  induction sig with
  | nil => rfl
  | cons p rest ih => simp [properties, names, ih]

end Signature

/-- The required names of an operation, read off the schema that clients see. -/
theorem Operation.required_spec (op : Operation) :
    op.spec.required = Spec.requiredOf op.spec.inputSchema :=
  (Signature.requiredOf_schema op.signature).symm

/-! ## Behind references and alternatives -/

namespace Schema

/-- A reference to a definition ends there. -/
theorem resolve_of_definition {root : Dict Json} {v d : Json} (h : definition? root v = some d) :
    resolve root v = d := by
  rw [resolve, h]

/-- Without a reference, the first alternative that stands for a value counts. -/
theorem resolve_of_branch {root : Dict Json} {v first : Json} {branches : List Json}
    (hdef : definition? root v = none) (hany : v.get? "anyOf" = some (.arr branches))
    (hfirst : branches.find? offersValue = some first) : resolve root v = resolve root first := by
  rw [resolve, hdef]
  simp only
  split
  · next branches' h =>
    cases hany.symm.trans h
    split
    · next first' h' =>
      cases hfirst.symm.trans h'
      rfl
    · next h' => simp [hfirst] at h'
  · next h => exact absurd hany (h branches)

/-- Without a reference and an alternative to take, a schema stands for itself. -/
theorem resolve_of_plain {root : Dict Json} {v : Json} (hdef : definition? root v = none)
    (hany : ∀ branches, v.get? "anyOf" = some (.arr branches) → branches.find? offersValue = none) :
    resolve root v = v := by
  rw [resolve, hdef]
  simp only
  split
  · next branches h =>
    split
    · next first h' => simp [hany branches h] at h'
    · rfl
  · rfl

/-- Without a reference there is no definition. -/
theorem definition?_eq_none {root : Dict Json} {v : Json} (h : v.get? "$ref" = none) :
    definition? root v = none := by
  simp [definition?, Json.getStr?, h]

/-- The keywords that the type of a schema is found by. -/
def typeKeywords : List String :=
  ["$ref", "anyOf", "type", "enum", "oneOf"]

/-- Whether two schemas are described alike: by one type and with one list of choices. -/
structure Alike (v w : Json) : Prop where
  type : typeOf v = typeOf w
  choices : choicesOf v = choicesOf w

/-- Two schemas with one reference and one set of alternatives resolve to the same schema, or each
stands for itself. -/
theorem resolve_congr {root : Dict Json} {v w : Json} (href : v.get? "$ref" = w.get? "$ref")
    (hany : v.get? "anyOf" = w.get? "anyOf") :
    resolve root v = resolve root w ∨ (resolve root v = v ∧ resolve root w = w) := by
  have hdef : definition? root v = definition? root w := by
    simp only [definition?, Json.getStr?, href]
  -- a reference comes first, then an alternative, and a plain schema last
  cases hd : definition? root w with
  | some d =>
    left
    rw [resolve_of_definition (hdef.trans hd), resolve_of_definition hd]
  | none =>
    by_cases hbranch : ∃ branches first,
        w.get? "anyOf" = some (.arr branches) ∧ branches.find? offersValue = some first
    · obtain ⟨branches, first, hb, hf⟩ := hbranch
      left
      rw [resolve_of_branch (hdef.trans hd) (hany.trans hb) hf, resolve_of_branch hd hb hf]
    · have hplain : ∀ branches, w.get? "anyOf" = some (.arr branches) →
          branches.find? offersValue = none := by
        intro branches hb
        rw [Option.eq_none_iff_forall_ne_some]
        exact fun first hf => hbranch ⟨branches, first, hb, hf⟩
      right
      exact ⟨resolve_of_plain (hdef.trans hd) (by rwa [hany]), resolve_of_plain hd hplain⟩

/-- How a schema is described depends on its keywords only, and on what they lead to. -/
theorem alike_resolve_congr {root : Dict Json} {v w : Json}
    (h : ∀ key ∈ typeKeywords, v.get? key = w.get? key) :
    Alike (resolve root v) (resolve root w) := by
  simp only [typeKeywords, List.mem_cons, List.not_mem_nil, or_false, forall_eq_or_imp,
    forall_eq] at h
  obtain ⟨href, hany, htype, henum, honeOf⟩ := h
  have hcases : resolve root v = resolve root w ∨ (resolve root v = v ∧ resolve root w = w) :=
    resolve_congr href hany
  rcases hcases with heq | ⟨hv, hw⟩
  · rw [heq]
    exact ⟨rfl, rfl⟩
  · rw [hv, hw]
    have hchoices : choicesOf v = choicesOf w := by
      unfold choicesOf
      rw [henum, honeOf]
    refine ⟨?_, hchoices⟩
    unfold typeOf
    rw [htype, hchoices]

end Schema

/-- The word for the type of the values in a range. -/
def ValueRange.word : ValueRange → String
  | .text => "string"
  | .natural _ => "integer"
  | .label _ => "string"
  | .orNull range => range.word

/-- Labels that are told apart by notes are listed with them, in order. -/
theorem Labels.map_fst_of_noted {α : Type} (ls : Labels α) {values : List α}
    {noted : List (String × String)}
    (h : (values.mapM fun v => (ls.note v).map fun note => (ls.label v, note)) = some noted) :
    noted.map (·.1) = values.map ls.label := by
  induction values generalizing noted with
  | nil =>
    cases h
    rfl
  | cons v r ih =>
    simp only [List.mapM_cons, Option.bind_eq_bind, Option.bind_eq_some_iff, Option.map_eq_some_iff,
      Option.pure_def, Option.some.injEq] at h
    obtain ⟨e, ⟨note, -, rfl⟩, rest, hrest, rfl⟩ := h
    rw [List.map_cons, List.map_cons, ih hrest]

/-- The choices that a set of labels is described with are the labels. -/
theorem Labels.choicesOf_schema {α : Type} (ls : Labels α) :
    Schema.choicesOf ls.schema = ls.all := by
  unfold Labels.schema
  split
  · next noted h =>
    have hconst : ∀ e : String × String, (Json.record [("const", .str e.1),
        ("description", .str e.2), ("type", .str "string")]).getStr? "const" = some e.1 := by
      intro e
      rw [Json.getStr?, Json.get?_record (by simp)]
      rfl
    unfold Schema.choicesOf
    rw [Json.get?_record (by simp), Json.get?_record (by simp)]
    simp only [Dict.find?, if_neg (show "oneOf" ≠ "enum" by decide), if_true, List.filterMap_map]
    rw [Labels.all, ← ls.map_fst_of_noted h, ← List.filterMap_eq_map]
    exact congrArg (List.filterMap · noted) (funext hconst)
  · have hplain : ls.all.map (Json.plain ∘ Json.str) = ls.all := List.map_id _
    unfold Schema.choicesOf
    rw [Json.get?_record (by simp)]
    simpa [Dict.find?, Json.texts] using hplain

/-- A set of labels is described as a text. -/
theorem Labels.typeOf_schema {α : Type} (ls : Labels α) (h : ls.all ≠ []) :
    Schema.typeOf ls.schema = "string" := by
  have htype : ls.schema.get? "type" = none ∨ ls.schema.get? "type" = some (.str "string") := by
    unfold Labels.schema
    split
    · left
      rw [Json.get?_record (by simp)]
      rfl
    · right
      rw [Json.get?_record (by simp)]
      rfl
  unfold Schema.typeOf
  rcases htype with htype | htype
  · simp [htype, ls.choicesOf_schema, h]
  · rw [htype]

/-! ## The types of the parameters -/

/-- Whether the labels in a range are listed at all. -/
def ValueRange.Listed : ValueRange → Prop
  | .label labels => labels ≠ []
  | .orNull range => range.Listed
  | _ => True

/-- Whether a schema is described as a range is: by its word, and with its labels for choices. -/
structure Schema.Describes (v : Json) (range : ValueRange) : Prop where
  type : Schema.typeOf v = range.word
  choices : Schema.choicesOf v = range.labels

/-- Whether a schema defines names as a list of definitions does. -/
def Schema.Defines (root : Dict Json) (definitions : List (String × Json)) : Prop :=
  ∀ d ∈ definitions, ((root.get? "$defs").bind fun defs => defs.get? d.1) = some d.2

/-- A reference to a definition of the schema is followed. -/
theorem Schema.definition?_of_reference {root : Dict Json} {v d : Json} {name : String}
    (href : v.get? "$ref" = some (.str ("#/$defs/" ++ name)))
    (hd : ((root.get? "$defs").bind fun defs => defs.get? name) = some d) :
    Schema.definition? root v = some d := by
  have hlist : ("#/$defs/" ++ name).toList = "#/$defs/".toList ++ name.toList :=
    String.toList_append
  have hprefix : "#/$defs/".toList.isPrefixOf ("#/$defs/" ++ name).toList = true := by
    rw [hlist, List.isPrefixOf_iff_prefix]
    exact List.prefix_append _ _
  have hrest : String.ofList (("#/$defs/" ++ name).toList.drop 8) = name := by
    rw [hlist, List.drop_left' (by decide), String.ofList_toList]
  simp only [Schema.definition?, Json.getStr?, href, Option.bind_some, Json.str?, hprefix, hrest,
    if_true]
  exact hd

namespace Kind

/-- A kind that may be `null` is not described by a single type. -/
theorem lookup_type_optional {α : Type} (kind : Kind α) (t : String) :
    (Kind.optional kind).schema.lookup "type" ≠ some (.str t) := by
  simp only [schema]
  split <;> simp [List.lookup, Json.texts]

/-- The schema of a kind that may be `null`, where the kind itself is not described by a single
type. -/
theorem schema_optional {α : Type} {kind : Kind α}
    (h : ∀ t, kind.schema.lookup "type" ≠ some (.str t)) :
    (Kind.optional kind).schema =
      [("anyOf", .arr [.record kind.schema, .record [("type", .str "null")]])] := by
  simp only [schema]

/-- The schema of a kind has no name twice. -/
theorem nodup_schema {α : Type} (kind : Kind α) : (kind.schema.map (·.1)).Nodup := by
  induction kind with
  | text => decide
  | natural width => cases width <;> decide
  | label ls => simp [schema]
  | optional kind ih =>
    simp only [schema]
    split
    · rw [List.map_cons, List.nodup_cons]
      refine ⟨by simp, ?_⟩
      exact ih.sublist (List.filter_sublist.map _)
    · simp

/-- The schema of a kind stands for values. -/
theorem offersValue_schema {α : Type} (kind : Kind α) :
    Schema.offersValue (.record kind.schema) = true := by
  unfold Schema.offersValue Json.getStr?
  rw [Json.get?_record kind.nodup_schema]
  cases kind with
  | text => decide
  | natural width => cases width <;> decide
  | label ls => rfl
  | optional kind =>
    simp only [schema]
    split <;> rfl

/-- A kind is described by the word and the labels of its range. -/
theorem describes_resolve_schema {α : Type} (kind : Kind α) {root : Dict Json}
    (hdefs : Schema.Defines root kind.definitions) (hlisted : kind.range.Listed) :
    Schema.Describes (Schema.resolve root (.record kind.schema)) kind.range := by
  have hplain : ∀ v : Json, v.get? "$ref" = none → v.get? "anyOf" = none →
      Schema.resolve root v = v := by
    intro v href hany
    exact Schema.resolve_of_plain (Schema.definition?_eq_none href) (by simp [hany])
  -- what may be `null` is told by its types if there is one, and by an alternative if not
  have hbranch : ∀ {β : Type} (inner : Kind β), (∀ t, inner.schema.lookup "type" ≠ some (.str t)) →
      Schema.resolve root (.record (Kind.optional inner).schema) =
        Schema.resolve root (.record inner.schema) := by
    intro β inner h
    rw [schema_optional h]
    refine Schema.resolve_of_branch (Schema.definition?_eq_none ?_)
      (Json.get?_record (by simp) _) ?_
    · rw [Json.get?_record (by simp)]
      rfl
    · rw [List.find?_cons, inner.offersValue_schema]
  induction kind with
  | text =>
    rw [hplain _ rfl rfl]
    exact ⟨rfl, rfl⟩
  | natural width =>
    cases width <;> (rw [hplain _ rfl rfl]; exact ⟨rfl, rfl⟩)
  | label ls =>
    have href : (Json.record (Kind.label ls).schema).get? "$ref" =
        some (.str ("#/$defs/" ++ ls.name)) := by
      rw [Json.get?_record (by simp [schema])]
      rfl
    rw [Schema.resolve_of_definition (Schema.definition?_of_reference href
      (hdefs (ls.name, ls.schema) List.mem_cons_self))]
    exact ⟨ls.typeOf_schema hlisted, ls.choicesOf_schema⟩
  | optional kind ih =>
    cases kind with
    | text =>
      rw [hplain _ rfl rfl]
      exact ⟨rfl, rfl⟩
    | natural width =>
      cases width <;> (rw [hplain _ rfl rfl]; exact ⟨rfl, rfl⟩)
    | label ls =>
      rw [hbranch (.label ls) (by simp [schema, List.lookup])]
      exact ⟨(ih hdefs hlisted).type, (ih hdefs hlisted).choices⟩
    | optional kind =>
      rw [hbranch (.optional kind) (lookup_type_optional kind)]
      exact ⟨(ih hdefs hlisted).type, (ih hdefs hlisted).choices⟩

end Kind

/-- A parameter is described as its range is, whatever its default and its note. -/
theorem Parameter.describes_resolve_schema {α : Type} (p : Parameter α) {root : Dict Json}
    (hdefs : Schema.Defines root p.kind.definitions) (hlisted : p.kind.range.Listed) :
    Schema.Describes (Schema.resolve root p.schema) p.kind.range := by
  have hkind := p.kind.describes_resolve_schema hdefs hlisted
  have halike : Schema.Alike (Schema.resolve root p.schema)
      (Schema.resolve root (.record p.kind.schema)) := by
    refine Schema.alike_resolve_congr fun key hkey => ?_
    rw [Parameter.schema, List.append_assoc]
    refine Dict.get?_ofList_append ?_
    have hkeys : key ≠ "description" ∧ key ≠ "default" :=
      ⟨ne_of_mem_of_not_mem hkey (by decide), ne_of_mem_of_not_mem hkey (by decide)⟩
    cases p.fallback <;> simp [hkeys]
  exact ⟨halike.type.trans hkind.type, halike.choices.trans hkind.choices⟩

/-- The keywords that a kind is described with. -/
theorem Kind.keys_schema_subset {α : Type} (kind : Kind α) :
    kind.schema.map (·.1) ⊆ ["type", "format", "minimum", "maximum", "$ref", "anyOf"] := by
  induction kind with
  | text => decide
  | natural width => cases width <;> decide
  | label ls => simp [schema]
  | optional kind ih =>
    simp only [schema]
    split
    · refine List.cons_subset.2 ⟨by simp, ?_⟩
      exact fun key hkey => ih ((List.filter_sublist.map _).subset hkey)
    · simp

/-- The default of a parameter is its fallback, written as an argument. -/
theorem Parameter.get?_schema_default {α : Type} (p : Parameter α) :
    p.schema.get? "default" = p.fallback.map p.kind.encode := by
  have hkind : "default" ∉
      (p.kind.schema ++ [("description", Json.str p.description)]).map (·.1) := by
    rw [List.map_append, List.mem_append, not_or]
    exact ⟨fun h => absurd (p.kind.keys_schema_subset h) (by decide), by simp⟩
  show (Dict.ofList _).get? "default" = _
  cases p.fallback with
  | none => simpa [Dict.get?, Dict.find?_eq_none_iff, Dict.mem_keys_ofList] using hkind
  | some x =>
    -- the default is the last member, so it is the one that counts
    rw [Dict.get?_ofList_reverse]
    simp [Dict.find?]

/-- The defaults of a signature are read off the properties that have one. -/
theorem Signature.defaults_eq {α : Type} (sig : Signature α) :
    sig.defaults = sig.properties.filterMap fun (name, property) =>
      (property.get? "default").map fun v => (name, v) := by
  induction sig with
  | nil => rfl
  | cons p rest ih =>
    have hdefault := p.get?_schema_default
    rw [defaults, properties, List.filterMap_cons, ih]
    cases hp : p.fallback <;> simp [hdefault, hp]

namespace Signature

/-- A signature that can be described: no name twice, no definition twice, and no empty set of
labels. -/
structure Describable {α : Type} (sig : Signature α) : Prop where
  distinct : sig.names.Nodup
  defined : (sig.definitions.map (·.1)).Nodup
  listed : ∀ r ∈ sig.rules, r.range.Listed

/-- The schema defines what its properties refer to. -/
theorem defines_schema {α : Type} {sig : Signature α} (h : (sig.definitions.map (·.1)).Nodup) :
    Schema.Defines sig.schema sig.definitions := by
  rintro ⟨name, d⟩ hmem
  rw [sig.get?_schema_definitions (List.ne_nil_of_mem hmem), Option.bind_some,
    Json.get?_record h]
  exact (Dict.mem_iff_find? h).1 hmem

/-- The property of a parameter is described as its range is. -/
theorem exists_property {α : Type} (sig : Signature α) {root : Dict Json}
    (hdistinct : sig.names.Nodup) (hdefs : Schema.Defines root sig.definitions)
    (hlisted : ∀ r ∈ sig.rules, r.range.Listed) {r : ParameterRule} (hr : r ∈ sig.rules) :
    ∃ v, Dict.find? r.name sig.properties = some v ∧
      Schema.Describes (Schema.resolve root v) r.range := by
  induction sig with
  | nil => cases hr
  | cons p rest ih =>
    rw [names, List.nodup_cons] at hdistinct
    simp only [rules, List.mem_cons, forall_eq_or_imp] at hr hlisted
    rcases hr with rfl | hr
    · refine ⟨p.schema, by simp [properties, Dict.find?, Parameter.rule], ?_⟩
      exact p.describes_resolve_schema (fun d hd => hdefs d (List.mem_append_left _ hd)) hlisted.1
    · -- names are distinct, so the property is behind that of the first parameter
      have hne : p.name ≠ r.name := by
        rintro heq
        refine hdistinct.1 ?_
        rw [heq, ← map_name_rules]
        exact List.mem_map_of_mem hr
      obtain ⟨v, hv, hdescribes⟩ := ih hdistinct.2
        (fun d hd => hdefs d (List.mem_append_right _ hd)) hlisted.2 hr
      exact ⟨v, by rw [properties, Dict.find?, if_neg hne, hv], hdescribes⟩

end Signature

namespace Operation

/-- The properties that an operation is described with. -/
theorem propertiesOf_spec (op : Operation) :
    Spec.propertiesOf op.spec.inputSchema =
      some (Dict.ofList op.signature.properties).entries := by
  rw [Spec.propertiesOf, show op.spec.inputSchema = op.signature.schema from rfl,
    Signature.get?_schema_properties]
  rfl

/-- The parameters that an operation is described with are those of its signature. -/
theorem mem_parameters_iff (op : Operation) (name : String) :
    name ∈ op.spec.parameters.map (·.name) ↔ name ∈ op.signature.names := by
  rw [Spec.parameters, propertiesOf_spec, Option.getD_some, List.map_map,
    ← Signature.map_fst_properties, ← Dict.mem_keys_ofList]
  rfl

/-- Each parameter that an operation is described with has a rule of its own, and each rule such a
parameter. -/
theorem mem_parameters_iff_exists_rule (op : Operation) (name : String) :
    name ∈ op.spec.parameters.map (·.name) ↔ ∃ r ∈ op.signature.rules, r.name = name := by
  rw [mem_parameters_iff, ← Signature.map_name_rules, List.mem_map]

/-- The parameters of an operation have different names. -/
theorem nodup_parameters (op : Operation) : (op.spec.parameters.map (·.name)).Nodup := by
  rw [Spec.parameters, propertiesOf_spec, Option.getD_some, List.map_map]
  exact Dict.nodup_keys _

/-- The word for the type of an argument is that of the parameter that is described. -/
theorem typeOf_of_mem_parameters {op : Operation} {info : ParameterInfo}
    (h : info ∈ op.spec.parameters) : Coercion.typeOf op.spec info.name = info.type := by
  rw [Coercion.typeOf, Dict.find?_name_eq_some op.nodup_parameters h]
  rfl

/-- A parameter is described by the word and the labels of the range that it is decoded by. -/
theorem exists_parameter {op : Operation} (h : op.signature.Describable) {r : ParameterRule}
    (hr : r ∈ op.signature.rules) :
    ∃ info ∈ op.spec.parameters, info.name = r.name ∧ info.type = r.range.word ∧
      info.choices = r.range.labels := by
  obtain ⟨v, hv, hdescribes⟩ := op.signature.exists_property h.distinct
    (Signature.defines_schema h.defined) h.listed hr
  have hdistinct : (op.signature.properties.map (·.1)).Nodup := by
    rw [Signature.map_fst_properties]
    exact h.distinct
  have hentry : (r.name, v) ∈ (Dict.ofList op.signature.properties).entries := by
    rw [Dict.mem_entries_iff, Dict.get?_ofList hdistinct]
    exact hv
  rw [Spec.parameters, propertiesOf_spec, Option.getD_some]
  exact ⟨_, List.mem_map_of_mem hentry, rfl, hdescribes.type, hdescribes.choices⟩

/-- A parameter is described by the word of the range that it is decoded by. -/
theorem typeOf_spec {op : Operation} (h : op.signature.Describable) {r : ParameterRule}
    (hr : r ∈ op.signature.rules) : Coercion.typeOf op.spec r.name = r.range.word := by
  obtain ⟨info, hinfo, hname, htype, -⟩ := exists_parameter h hr
  rw [← hname, typeOf_of_mem_parameters hinfo, htype]

/-- A parameter that is described has a rule with its name, and the labels of that rule's range are
its choices. -/
theorem exists_rule_of_mem_parameters {op : Operation} (h : op.signature.Describable)
    {info : ParameterInfo} (hinfo : info ∈ op.spec.parameters) :
    ∃ r ∈ op.signature.rules, r.name = info.name ∧ info.choices = r.range.labels := by
  obtain ⟨r, hr, hname⟩ := (op.mem_parameters_iff_exists_rule info.name).1
    (List.mem_map_of_mem hinfo)
  obtain ⟨found, hfound, hsame, -, hchoices⟩ := exists_parameter h hr
  have heq : found = info :=
    List.inj_on_of_nodup_map op.nodup_parameters hfound hinfo (hsame.trans hname)
  exact ⟨r, hr, hname, heq ▸ hchoices⟩

end Operation

end ToolRelay
