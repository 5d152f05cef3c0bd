import ToolRelay.Proofs.Operations
import ToolRelay.Proofs.SchemaValidity

/-!
# What is advertised and what is decoded

A client reads the schema of an operation and may send every object that is valid against it. The
schema of a signature admits the arguments that keep the rules of the signature as far as they are
told (`Signature.valid_schema_iff`): each required argument is there, and each argument lies in its
advertised range. That range and the range of decoding differ in one point. A schema tells the bound
of the smallest numbers only, so a valid number of 32 bits may be too large to be decoded, and
nothing else that is valid fails to decode (`valid_decodes_iff`).
-/

set_option autoImplicit false

namespace ToolRelay

/-- Whether the arguments keep the rule as far as a schema tells it. -/
def ParameterRule.Advertises (r : ParameterRule) (args : Dict Json) : Prop :=
  (r.required = true → args.contains r.name = true) ∧
    ∀ v, args.get? r.name = some v → r.range.Advertised v

/-! ## The schema of a signature -/

namespace Signature

variable {α : Type}

/-- The keywords of the whole schema ask for an object that has the required names. -/
theorem allows_schema_iff (sig : Signature α) (args : Dict Json) :
    Schema.Allows (.ofDict sig.schema) (.ofDict args) ↔
      ∀ name ∈ sig.requiredNames, args.contains name = true := by
  have hget : ∀ key, (Json.ofDict sig.schema).get? key = sig.schema.get? key := fun _ => rfl
  have hcontains : ∀ name, args.contains name = true ↔ name ∈ args.entries.map (·.1) := by
    intro name
    rw [← not_iff_not, ← Dict.find?_eq_none_iff, Dict.contains, Dict.get?]
    simp
  have hobject : "object" ∈ Schema.typeWords (.ofDict args) := List.mem_singleton.2 rfl
  rw [Schema.allows_iff]
  simp only [hget, hcontains, sig.get?_schema_type, sig.get?_schema_required,
    sig.get?_schema_eq_none "enum" (by decide),
    sig.get?_schema_eq_none "const" (by decide),
    sig.get?_schema_eq_none "minimum" (by decide),
    sig.get?_schema_eq_none "maximum" (by decide)]
  by_cases hrequired : sig.requiredNames.isEmpty = true
  · simp_all
  · simp_all [Json.texts, Json.ofDict]

/-- The properties of a signature admit the arguments that lie in their advertised ranges. -/
theorem admits_properties_iff (sig : Signature α) {root : Dict Json} {hops : Nat}
    (hdefs : Schema.Defines root sig.definitions) (hhops : sig.definitions ≠ [] → 0 < hops)
    (hlabels : ∀ r ∈ sig.rules, r.range.labels.Nodup) (args : Dict Json) :
    (∀ e ∈ sig.properties, ∀ v, args.get? e.1 = some v → Schema.Admits root hops e.2 v) ↔
      ∀ r ∈ sig.rules, ∀ v, args.get? r.name = some v → r.range.Advertised v := by
  induction sig with
  | nil => simp [properties, rules]
  | cons p rest ih =>
    simp only [rules, properties, List.mem_cons, forall_eq_or_imp] at hlabels ⊢
    have hrest := ih (fun d hd => hdefs d (List.mem_append_right _ hd))
      (fun h => hhops (List.append_ne_nil_of_right_ne_nil _ h)) hlabels.2
    have hfirst : ∀ v, Schema.Admits root hops p.schema v ↔ p.kind.range.Advertised v := by
      intro v
      have hnotes : ∀ key ∈ Schema.keywords, key ∉ (("description", Json.str p.description) ::
          (p.fallback.map fun x => ("default", p.kind.encode x)).toList).map (·.1) := by
        intro key hkey hmem
        have hnote : key = "description" ∨ key = "default" := by
          cases hp : p.fallback <;> simp_all
        rcases hnote with rfl | rfl <;> exact absurd hkey (by decide)
      rw [Parameter.schema, List.append_assoc]
      refine (Schema.admits_record_append hnotes).trans ?_
      exact p.kind.admits_schema_iff (fun d hd => hdefs d (List.mem_append_left _ hd))
        (fun h => hhops (List.append_ne_nil_of_left_ne_nil h _)) hlabels.1
    rw [hrest]
    simp only [hfirst]
    rfl

/-- A schema with definitions allows for one reference at least. -/
theorem hopsIn_schema_pos (sig : Signature α) (h : sig.definitions ≠ []) :
    0 < Schema.hopsIn sig.schema := by
  obtain ⟨d, hd⟩ := List.exists_mem_of_ne_nil _ h
  have hkey : d.1 ∈ (Dict.ofList sig.definitions).entries.map (·.1) :=
    Dict.mem_keys_ofList.2 (List.mem_map_of_mem hd)
  have hne : (Dict.ofList sig.definitions).entries ≠ [] := by
    intro hnil
    rw [hnil] at hkey
    cases hkey
  rw [Schema.hopsIn, sig.get?_schema_definitions h]
  exact List.length_pos_of_ne_nil hne

/-- The schema of a signature admits an object exactly when it has the required names and every
argument of it lies in the advertised range. -/
theorem valid_schema_iff (sig : Signature α) (h : sig.Describable)
    (hlabels : ∀ r ∈ sig.rules, r.range.labels.Nodup) (args : Dict Json) :
    Schema.Valid sig.schema (.ofDict args) ↔ ∀ r ∈ sig.rules, r.Advertises args := by
  have hget : ∀ (d : Dict Json) key, (Json.ofDict d).get? key = d.get? key := fun _ _ => rfl
  have hdistinct : (sig.properties.map (·.1)).Nodup := by
    rw [map_fst_properties]
    exact h.distinct
  have hmember : ∀ name property, (Json.record sig.properties).get? name = some property ↔
      (name, property) ∈ sig.properties := by
    intro name property
    rw [Json.get?_record hdistinct, Dict.mem_iff_find? hdistinct]
  -- what the rules ask is what `required` and `properties` ask
  have hrules : (∀ r ∈ sig.rules, r.Advertises args) ↔
      (∀ name ∈ sig.requiredNames, args.contains name = true) ∧
        ∀ e ∈ sig.properties, ∀ v, args.get? e.1 = some v →
          Schema.Admits sig.schema (Schema.hopsIn sig.schema) e.2 v := by
    rw [sig.admits_properties_iff (defines_schema h.defined) sig.hopsIn_schema_pos hlabels]
    simp only [ParameterRule.Advertises, forall_and, mem_requiredNames_iff]
    refine and_congr_left fun _ => ?_
    constructor
    · rintro hrequired name ⟨r, hr, hneeded, rfl⟩
      exact hrequired r hr hneeded
    · intro hrequired r hr hneeded
      exact hrequired r.name ⟨r, hr, hneeded, rfl⟩
  rw [hrules, Schema.Valid, Schema.Admits]
  simp only [hget, sig.get?_schema_eq_none "$ref" (by decide),
    sig.get?_schema_eq_none "anyOf" (by decide),
    sig.get?_schema_eq_none "oneOf" (by decide), sig.get?_schema_properties,
    sig.allows_schema_iff, Option.bind_some, hmember, Prod.forall]
  have hobject : Json.ofDict sig.schema ≠ .bool false := by
    intro heq
    cases heq
  simp only [hobject, ne_eq, not_false_eq_true, reduceCtorEq, false_implies, implies_true, true_and]
  refine and_congr_right fun _ => ?_
  constructor
  · intro hadmits name property hproperty v hv
    exact hadmits name property v hproperty hv
  · intro hadmits name property v hproperty hv
    exact hadmits name property hproperty v hv

end Signature

/-! ## The two ranges -/

/-- An advertised value is decoded unless it is a number above the bound. -/
theorem ValueRange.holds_iff_of_advertised {range : ValueRange} {v : Json}
    (h : range.Advertised v) : range.Holds v ↔ ∀ n, v = .int n → n ≤ range.bound := by
  induction range with
  | text =>
    obtain ⟨s, rfl⟩ := h
    simp [Holds]
  | natural bound =>
    obtain ⟨n, -, rfl⟩ := h
    simp [Holds, ValueRange.bound]
  | label labels =>
    obtain ⟨s, hs, rfl⟩ := h
    simp [Holds, hs]
  | orNull range ih =>
    rcases h with rfl | h
    · simp [Holds]
    · have hnull : v = .null → range.Holds v := by
        rintro rfl
        rw [ih h]
        intro n hn
        cases hn
      rw [Holds, or_iff_right_of_imp hnull]
      exact ih h

/-- A number that a schema admits is above the bound only where that is the bound of 32 bits. -/
theorem Kind.le_bound_of_advertised {α : Type} (kind : Kind α) {n : Int}
    (h : kind.range.Advertised (.int n)) (hbound : kind.range.bound ≠ Width.bits32.bound) :
    n ≤ kind.range.bound := by
  induction kind with
  | text => simp [range, ValueRange.Advertised] at h
  | label ls => simp [range, ValueRange.Advertised] at h
  | natural width =>
    obtain ⟨m, hm, heq⟩ := h
    cases heq
    cases width with
    | bits32 => exact absurd rfl hbound
    | bits8 => exact Int.ofNat_le.2 hm
    | bits64 => exact Int.ofNat_le.2 hm
  | optional kind ih =>
    rcases h with h | h
    · cases h
    · exact ih h hbound

/-- Where the bound is told by the schema, an advertised number lies under it. -/
theorem Signature.le_bound_of_advertised {α : Type} (sig : Signature α) {r : ParameterRule}
    (hr : r ∈ sig.rules) {n : Int} (h : r.range.Advertised (.int n))
    (hbound : r.range.bound ≠ Width.bits32.bound) : n ≤ r.range.bound := by
  induction sig with
  | nil => cases hr
  | cons p rest ih =>
    rcases List.mem_cons.1 hr with rfl | hr
    · exact p.kind.le_bound_of_advertised h hbound
    · exact ih hr

/-- **Valid arguments decode, unless a number of 32 bits is too large.** For arguments that are
valid against the advertised schema, planning does not end in a decoding error exactly when every
number for a parameter of 32 bits has 32 bits. -/
theorem valid_decodes_iff {p : Profile} {name : String} {spec : Spec}
    (hlookup : p.registry.lookup name = some spec) {args : Dict Json}
    (hvalid : Schema.Valid spec.inputSchema (.ofDict args)) :
    (∀ e, spec.plan args ≠ .error (.decode e)) ↔
      ∀ r ∈ parameterRules name, r.range.bound = 0xFFFFFFFF →
        ∀ n, args.get? r.name = some (.int n) → n ≤ 0xFFFFFFFF := by
  obtain ⟨op, hop, rfl, rfl⟩ := p.exists_operation_of_lookup hlookup
  have hrules : ∀ r ∈ op.signature.rules, r.Advertises args :=
    (op.signature.valid_schema_iff (Profile.describable hop) (Profile.nodup_labels hop) args).1
      hvalid
  have hdecode : (∀ e, op.spec.plan args ≠ .error (.decode e)) ↔
      ∀ r ∈ op.signature.rules, r.Fits args := by
    rw [← not_iff_not, ← Operation.exists_planObject_decode_iff]
    simp only [not_forall, not_not]
    rfl
  rw [hdecode, ← rules_eq_parameterRules hop]
  constructor
  · intro hfits r hr hbound n hn
    have hholds := (hfits r hr).2 _ hn
    rw [ValueRange.holds_iff_of_advertised ((hrules r hr).2 _ hn), hbound] at hholds
    exact hholds n rfl
  · intro hbits r hr
    refine ⟨(hrules r hr).1, fun v hv => ?_⟩
    have hadvertised := (hrules r hr).2 v hv
    rw [ValueRange.holds_iff_of_advertised hadvertised]
    rintro n rfl
    -- of the three widths only that of 32 bits is not told by the schema
    by_cases hbound : r.range.bound = 0xFFFFFFFF
    · rw [hbound]
      exact hbits r hr hbound n hv
    · exact op.signature.le_bound_of_advertised hr hadvertised hbound

/-- Arguments of a search of commits with a limit. -/
def commitArguments (limit : Int) : Dict Json :=
  .ofList [("limit", .int limit), ("query", .str "fix"), ("repoPath", .str "/r")]

/-- A search of commits that is limited by a number of 64 bits is valid. -/
theorem valid_commitArguments {limit : Nat} (h : limit ≤ 0xFFFFFFFFFFFFFFFF) :
    Schema.Valid GitHistory.searchCommits.spec.inputSchema (.ofDict (commitArguments limit)) := by
  have hop : GitHistory.searchCommits ∈ Profile.gitHistory.operations := List.mem_cons_self
  refine (GitHistory.searchCommits.signature.valid_schema_iff (Profile.describable hop)
    (Profile.nodup_labels hop) _).2 ?_
  have hget : ∀ key, (commitArguments limit).get? key = Dict.find? key
      [("limit", .int limit), ("query", .str "fix"), ("repoPath", .str "/r")] :=
    Dict.get?_ofList (by simp)
  have hrules : GitHistory.searchCommits.signature.rules =
      [.needed "repoPath", .needed "query", .mayBe "mode" (.label ["message", "diff"]),
        .mayBe "limit" (.natural 0xFFFFFFFF)] := rfl
  rw [hrules]
  simp [ParameterRule.Advertises, ParameterRule.needed, ParameterRule.mayBe, Dict.contains, hget,
    Dict.find?, ValueRange.Advertised, ValueRange.toldBound, Width.bound, Schema.maxInteger, h]

/-- A small limit is valid, and it is decoded. -/
theorem valid_decodes_iff_small :
    Schema.Valid GitHistory.searchCommits.spec.inputSchema (.ofDict (commitArguments 3)) ∧
      ∀ e, GitHistory.searchCommits.spec.plan (commitArguments 3) ≠ .error (.decode e) := by
  have hlookup : Profile.gitHistory.registry.lookup "search_commits" =
      some GitHistory.searchCommits.spec := rfl
  have hvalid := valid_commitArguments (show 3 ≤ 0xFFFFFFFFFFFFFFFF by decide)
  refine ⟨hvalid, (valid_decodes_iff hlookup hvalid).2 ?_⟩
  intro r _ _ n hn
  rw [commitArguments, Dict.get?_ofList (by simp)] at hn
  have hmem := Dict.mem_of_find? hn
  simp only [List.mem_cons, Prod.mk.injEq, Json.int.injEq, reduceCtorEq, and_false, or_false,
    List.not_mem_nil] at hmem
  omega

/-- The number after the largest of 32 bits is a valid limit that does not decode. -/
theorem valid_not_decoded_limit :
    Schema.Valid GitHistory.searchCommits.spec.inputSchema
        (.ofDict (commitArguments 0x100000000)) ∧
      GitHistory.searchCommits.spec.plan (commitArguments 0x100000000) =
        .error (.decode (.outOfRange 0x100000000 "u32")) :=
  ⟨valid_commitArguments (by decide), rfl⟩

end ToolRelay
