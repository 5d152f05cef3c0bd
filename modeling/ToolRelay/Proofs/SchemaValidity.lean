import Mathlib
import ToolRelay.Proofs.Description

/-!
# The values that a schema admits

A schema says what values it admits, and `Schema.Admits` is what it says: the meaning of the
keywords `type`, `enum`, `const`, `minimum`, `maximum` and `required`, which look at the value alone
(`Allows`), and of `$ref`, `anyOf`, `oneOf` and `properties`, which lead to other schemas. All other
keywords are notes. Nothing here decodes anything: the file ends with the values that the schema of
a kind of argument admits (`Kind.admits_schema_iff`), read off the schema alone.
-/

set_option autoImplicit false

namespace ToolRelay
namespace Schema

/-- The largest integer that JSON can hold. -/
def maxInteger : Nat := 0xFFFFFFFFFFFFFFFF

/-- The types that a value is of. -/
def typeWords : Json → List String
  | .null => ["null"]
  | .bool _ => ["boolean"]
  | .int n => if n ≤ maxInteger then ["integer", "number"] else ["number"]
  | .float _ => ["number"]
  | .str _ => ["string"]
  | .arr _ => ["array"]
  | .obj _ => ["object"]

/-- What the keywords of a schema ask of a value by itself. Bounds are for integers. -/
@[mk_iff]
structure Allows (schema v : Json) : Prop where
  type : ∀ t, schema.get? "type" = some (.str t) → t ∈ typeWords v
  types : ∀ ts, schema.get? "type" = some (.arr ts) → ∃ t ∈ typeWords v, Json.str t ∈ ts
  enum : ∀ values, schema.get? "enum" = some (.arr values) → v ∈ values
  const : ∀ value, schema.get? "const" = some value → v = value
  minimum : ∀ least, schema.get? "minimum" = some (.int least) → ∀ n, v = .int n → least ≤ n
  maximum : ∀ most, schema.get? "maximum" = some (.int most) → ∀ n, v = .int n → n ≤ most
  required : ∀ names, schema.get? "required" = some (.arr names) → ∀ members, v = .obj members →
    ∀ name, Json.str name ∈ names → name ∈ members.map (·.1)

/-- How many references can follow each other without going round in a circle. -/
def hopsIn (root : Dict Json) : Nat :=
  (((root.get? "$defs").bind Json.obj?).getD []).length

/-- Whether a schema admits a value, where so many references may follow each other. A reference is
to a definition of the root, `false` admits nothing, and the properties are for the members that an
object has. -/
def Admits (root : Dict Json) (hops : Nat) (schema v : Json) : Prop :=
  schema ≠ .bool false ∧ Allows schema v ∧
  (∀ reference, schema.get? "$ref" = some reference →
    ∃ d, definition? root schema = some d ∧ ∃ _h : 0 < hops, Admits root (hops - 1) d v) ∧
  (∀ branches, (_h : schema.get? "anyOf" = some (.arr branches)) →
    ∃ branch, ∃ _hb : branch ∈ branches, Admits root hops branch v) ∧
  (∀ branches, (_h : schema.get? "oneOf" = some (.arr branches)) →
    ∃! i : Fin branches.length, Admits root hops branches[i] v) ∧
  (∀ name property x, (schema.get? "properties").bind (·.get? name) = some property →
    (_h : v.get? name = some x) → Admits root (hopsIn root) property x)
termination_by (sizeOf v, hops, sizeOf schema)
decreasing_by
  · exact Prod.Lex.right _ (Prod.Lex.left _ _ (by omega))
  · have h₁ := sizeOf_lt_of_get? _h
    have h₂ := List.sizeOf_lt_of_mem _hb
    simp only [Json.arr.sizeOf_spec] at h₁
    exact Prod.Lex.right _ (Prod.Lex.right _ (by omega))
  · have h₁ := sizeOf_lt_of_get? _h
    have h₂ := List.sizeOf_lt_of_mem (branches.getElem_mem i.isLt)
    simp only [Json.arr.sizeOf_spec] at h₁
    exact Prod.Lex.right _ (Prod.Lex.right _ (by simp only [Fin.getElem_fin]; omega))
  · exact Prod.Lex.left _ _ (sizeOf_lt_of_get? _h)

/-- Whether a value is valid against a schema that holds its own definitions. -/
def Valid (schema : Dict Json) (v : Json) : Prop :=
  Admits schema (hopsIn schema) (.ofDict schema) v

/-! ## Types -/

/-- Texts are what is of the type of texts. -/
theorem string_mem_typeWords {v : Json} : "string" ∈ typeWords v ↔ ∃ s, v = .str s := by
  cases v with
  | int n => by_cases h : n ≤ maxInteger <;> simp [typeWords, h]
  | _ => simp [typeWords]

/-- Integers up to the largest are what is of the type of integers. -/
theorem integer_mem_typeWords {v : Json} :
    "integer" ∈ typeWords v ↔ ∃ n : Int, n ≤ maxInteger ∧ v = .int n := by
  cases v with
  | int n => by_cases h : n ≤ maxInteger <;> simp [typeWords, h]
  | _ => simp [typeWords]

/-- Only null is of the type of null. -/
theorem null_mem_typeWords {v : Json} : "null" ∈ typeWords v ↔ v = .null := by
  cases v with
  | int n => by_cases h : n ≤ maxInteger <;> simp [typeWords, h]
  | _ => simp [typeWords]

/-! ## Keywords -/

/-- The keywords that lead to other schemas. -/
def applicators : List String :=
  ["$ref", "anyOf", "oneOf", "properties"]

/-- All keywords that are no notes. -/
def keywords : List String :=
  ["type", "enum", "const", "minimum", "maximum", "required"] ++ applicators

/-- Schemas with the same keywords allow the same. -/
theorem allows_congr {schema schema' v : Json}
    (h : ∀ key ∈ keywords, schema.get? key = schema'.get? key) :
    Allows schema v ↔ Allows schema' v := by
  simp only [keywords, applicators, List.cons_append, List.nil_append, List.mem_cons,
    List.not_mem_nil, or_false, forall_eq_or_imp, forall_eq] at h
  obtain ⟨htype, henum, hconst, hminimum, hmaximum, hrequired, -⟩ := h
  rw [allows_iff, allows_iff, htype, henum, hconst, hminimum, hmaximum, hrequired]

/-- Notes do not matter to what a schema admits. -/
theorem admits_congr {root : Dict Json} {hops : Nat} {schema schema' v : Json}
    (hfalse : schema ≠ .bool false) (hfalse' : schema' ≠ .bool false)
    (h : ∀ key ∈ keywords, schema.get? key = schema'.get? key) :
    Admits root hops schema v ↔ Admits root hops schema' v := by
  have hallows := allows_congr (v := v) h
  simp only [keywords, applicators, List.cons_append, List.nil_append, List.mem_cons,
    List.not_mem_nil, or_false, forall_eq_or_imp, forall_eq] at h
  obtain ⟨-, -, -, -, -, -, href, hany, hone, hproperties⟩ := h
  have hdef : definition? root schema = definition? root schema' := by
    simp only [definition?, Json.getStr?, href]
  rw [Admits, Admits, href, hany, hone, hproperties, hdef, hallows]
  simp only [hfalse, hfalse', ne_eq, not_false_eq_true]

variable {root : Dict Json} {hops : Nat} {schema v : Json}

/-- A schema that leads to no other admits what it allows. -/
theorem admits_iff_allows (hfalse : schema ≠ .bool false)
    (h : ∀ key ∈ applicators, schema.get? key = none) :
    Admits root hops schema v ↔ Allows schema v := by
  simp only [applicators, List.mem_cons, List.not_mem_nil, or_false, forall_eq_or_imp,
    forall_eq] at h
  obtain ⟨href, hany, hone, hproperties⟩ := h
  rw [Admits, href, hany, hone, hproperties]
  simp [hfalse]

/-- A schema without keywords of its own allows everything. -/
theorem allows_of_lacks (h : ∀ key ∈ keywords, key ∉ applicators → schema.get? key = none) :
    Allows schema v := by
  simp only [keywords, applicators, List.cons_append, List.nil_append, List.mem_cons,
    List.not_mem_nil, or_false, forall_eq_or_imp, forall_eq] at h
  obtain ⟨htype, henum, hconst, hminimum, hmaximum, hrequired, -⟩ := h
  rw [allows_iff]
  simp_all

/-- A reference admits what its definition admits. -/
theorem admits_reference {d : Json} (hfalse : schema ≠ .bool false)
    (hlacks : ∀ key ∈ keywords, key ≠ "$ref" → schema.get? key = none)
    (hdef : definition? root schema = some d) (hhops : 0 < hops) :
    Admits root hops schema v ↔ Admits root (hops - 1) d v := by
  have hallows : Allows schema v := allows_of_lacks fun key hkey hnot =>
    hlacks key hkey fun heq => hnot (heq ▸ by decide)
  have hsome : ∃ reference, schema.get? "$ref" = some reference := by
    cases href : schema.get? "$ref" with
    | some reference => exact ⟨reference, rfl⟩
    | none => simp [definition?_eq_none href] at hdef
  obtain ⟨reference, href⟩ := hsome
  rw [Admits, hlacks "anyOf" (by decide) (by decide), hlacks "oneOf" (by decide) (by decide),
    hlacks "properties" (by decide) (by decide), hdef, href]
  simp [hfalse, hallows, hhops]

/-- Alternatives admit what one of them admits. -/
theorem admits_anyOf {branches : List Json} (hfalse : schema ≠ .bool false)
    (hlacks : ∀ key ∈ keywords, key ≠ "anyOf" → schema.get? key = none)
    (hany : schema.get? "anyOf" = some (.arr branches)) :
    Admits root hops schema v ↔ ∃ branch ∈ branches, Admits root hops branch v := by
  have hallows : Allows schema v := allows_of_lacks fun key hkey hnot =>
    hlacks key hkey fun heq => hnot (heq ▸ by decide)
  rw [Admits, hlacks "$ref" (by decide) (by decide), hlacks "oneOf" (by decide) (by decide),
    hlacks "properties" (by decide) (by decide), hany]
  simp [hfalse, hallows]

/-- Exactly one place of a list has a property that no two of its items share, if one has it. -/
theorem existsUnique_getElem_iff {branches : List Json} {p : Json → Prop}
    (h : branches.Pairwise fun a b => ¬(p a ∧ p b)) :
    (∃! i : Fin branches.length, p branches[i]) ↔ ∃ branch ∈ branches, p branch := by
  constructor
  · rintro ⟨i, hi, -⟩
    exact ⟨branches[i], List.getElem_mem i.isLt, hi⟩
  · rintro ⟨branch, hmem, hp⟩
    obtain ⟨n, hn, rfl⟩ := List.getElem_of_mem hmem
    refine ⟨⟨n, hn⟩, hp, ?_⟩
    rintro ⟨m, hm⟩ hpm
    -- a second place would be before or behind the first
    rcases Nat.lt_trichotomy m n with hlt | heq | hgt
    · exact absurd ⟨hpm, hp⟩ (List.pairwise_iff_getElem.1 h m n hm hn hlt)
    · exact Fin.ext heq
    · exact absurd ⟨hp, hpm⟩ (List.pairwise_iff_getElem.1 h n m hn hm hgt)

/-- Alternatives that exclude each other admit what one of them admits. -/
theorem admits_oneOf {branches : List Json} (hfalse : schema ≠ .bool false)
    (hlacks : ∀ key ∈ keywords, key ≠ "oneOf" → schema.get? key = none)
    (hone : schema.get? "oneOf" = some (.arr branches))
    (hexclude : branches.Pairwise fun a b => ¬(Admits root hops a v ∧ Admits root hops b v)) :
    Admits root hops schema v ↔ ∃ branch ∈ branches, Admits root hops branch v := by
  have hallows : Allows schema v := allows_of_lacks fun key hkey hnot =>
    hlacks key hkey fun heq => hnot (heq ▸ by decide)
  rw [Admits, hlacks "$ref" (by decide) (by decide), hlacks "anyOf" (by decide) (by decide),
    hlacks "properties" (by decide) (by decide), hone, ← existsUnique_getElem_iff hexclude]
  simp [hfalse, hallows]

/-- An object is not the schema that admits nothing. -/
theorem record_ne_false (members : List (String × Json)) : Json.record members ≠ .bool false :=
  nofun

/-- Notes behind the members of a schema do not matter to what it admits. -/
theorem admits_record_append {members notes : List (String × Json)}
    (h : ∀ key ∈ keywords, key ∉ notes.map (·.1)) :
    Admits root hops (.record (members ++ notes)) v ↔ Admits root hops (.record members) v :=
  admits_congr (record_ne_false _) (record_ne_false _) fun key hkey =>
    Dict.get?_ofList_append (h key hkey)

end Schema

/-! ## Arguments -/

/-- The largest number that a schema tells for a bound: of the bounds that there are, only that of
the smallest numbers is told. -/
def ValueRange.toldBound (bound : Nat) : Nat :=
  if bound = Width.bits8.bound then bound else Schema.maxInteger

/-- Whether a schema for the range admits a value. A label is given as a text here. -/
def ValueRange.Advertised : ValueRange → Json → Prop
  | .text, v => ∃ s, v = .str s
  | .natural bound, v => ∃ n : Nat, n ≤ toldBound bound ∧ v = .int n
  | .label labels, v => ∃ s ∈ labels, v = .str s
  | .orNull range, v => v = .null ∨ range.Advertised v

/-- The members of a schema that limit the numbers of a width. -/
def Width.limits (width : Width) : List (String × Json) :=
  [("format", .str width.format), ("minimum", .nat 0)] ++
    (if width = .bits8 then [("maximum", .nat width.bound)] else [])

namespace Schema

variable {root : Dict Json} {hops : Nat} {v : Json}

/-- A schema of a type admits what is of the type. -/
theorem admits_type (t : String) :
    Admits root hops (.record [("type", .str t)]) v ↔ t ∈ typeWords v := by
  rw [admits_iff_allows (record_ne_false _) (by simp [applicators, Json.get?_record, Dict.find?]),
    allows_iff]
  simp [Json.get?_record, Dict.find?]

/-- A schema of a type or null admits null and what is of the type. -/
theorem admits_typeOrNull (t : String) :
    Admits root hops (.record [("type", .texts [t, "null"])]) v ↔
      v = .null ∨ t ∈ typeWords v := by
  have hword : (∃ word ∈ typeWords v, word ∈ [t, "null"]) ↔ v = .null ∨ t ∈ typeWords v := by
    rw [← null_mem_typeWords]
    simp [and_or_left, exists_or, or_comm]
  rw [admits_iff_allows (record_ne_false _) (by simp [applicators, Json.get?_record, Dict.find?]),
    allows_iff, ← hword]
  simp [Json.get?_record, Dict.find?, Json.texts]

/-- A schema of an enumeration admits its texts. -/
theorem admits_enum (labels : List String) :
    Admits root hops (.record [("enum", .texts labels), ("type", .str "string")]) v ↔
      ∃ s ∈ labels, v = .str s := by
  rw [admits_iff_allows (record_ne_false _) (by simp [applicators, Json.get?_record, Dict.find?]),
    allows_iff]
  have hallows : v ∈ labels.map Json.str ∧ (∃ s, v = .str s) ↔ ∃ s ∈ labels, v = .str s := by
    constructor
    · rintro ⟨hmem, -⟩
      obtain ⟨s, hs, rfl⟩ := List.mem_map.1 hmem
      exact ⟨s, hs, rfl⟩
    · rintro ⟨s, hs, rfl⟩
      exact ⟨List.mem_map_of_mem hs, s, rfl⟩
  rw [← hallows]
  simp [Json.get?_record, Dict.find?, Json.texts, string_mem_typeWords, and_comm]

/-- A schema of one text admits that text. -/
theorem admits_const (label note : String) :
    Admits root hops (.record [("const", .str label), ("description", .str note),
      ("type", .str "string")]) v ↔ v = .str label := by
  rw [admits_iff_allows (record_ne_false _) (by simp [applicators, Json.get?_record, Dict.find?]),
    allows_iff]
  have hallows : (∃ s, v = .str s) ∧ v = .str label ↔ v = .str label :=
    and_iff_right_of_imp fun h => ⟨label, h⟩
  rw [← hallows]
  simp [Json.get?_record, Dict.find?, string_mem_typeWords]

/-- The limits of a width hold of the numbers that a type admits. -/
theorem admits_limits (type : Json) (width : Width) :
    Admits root hops (.record (("type", type) :: width.limits)) v ↔
      Admits root hops (.record [("type", type)]) v ∧
        ∀ n, v = .int n → 0 ≤ n ∧ (width = .bits8 → n ≤ width.bound) := by
  have hlacks : ∀ key ∈ applicators,
      (Json.record (("type", type) :: width.limits)).get? key = none := by
    cases width <;> simp [applicators, Width.limits, Json.get?_record, Dict.find?]
  rw [admits_iff_allows (record_ne_false _) hlacks,
    admits_iff_allows (record_ne_false _) (by simp [applicators, Json.get?_record, Dict.find?]),
    allows_iff, allows_iff]
  cases width <;>
    simp [Width.limits, Json.get?_record, Dict.find?, Json.nat, and_assoc, forall_and]

end Schema

section Kinds

variable {α : Type} {root : Dict Json} {hops : Nat} {v : Json}

open Schema

/-- The schema of labels admits the labels. -/
theorem Labels.admits_schema_iff (ls : Labels α) (h : ls.all.Nodup) :
    Admits root hops ls.schema v ↔ ∃ s ∈ ls.all, v = .str s := by
  unfold Labels.schema
  split
  · next noted hnoted =>
    have hlabels : noted.map (·.1) = ls.all := ls.map_fst_of_noted hnoted
    have hdistinct : noted.Pairwise fun a b => a.1 ≠ b.1 := by
      rw [← hlabels] at h
      exact List.pairwise_map.1 h
    rw [admits_oneOf (record_ne_false _) (by simp [keywords, applicators, Json.get?_record,
      Dict.find?]) (Json.get?_record (by simp) "oneOf")]
    · simp [admits_const, ← hlabels]
    · -- two constants that admit the same text would be the same label
      rw [List.pairwise_map]
      refine hdistinct.imp ?_
      rintro a b hne ⟨ha, hb⟩
      rw [admits_const] at ha hb
      exact hne (Json.str.inj (ha.symm.trans hb))
  · exact admits_enum ls.all

/-- A natural number that a schema admits is not above the bound that the schema tells. -/
theorem Width.advertised_iff (width : Width) :
    ("integer" ∈ typeWords v ∧ ∀ n, v = .int n → 0 ≤ n ∧ (width = .bits8 → n ≤ width.bound)) ↔
      (ValueRange.natural width.bound).Advertised v := by
  rw [integer_mem_typeWords, ValueRange.Advertised]
  constructor
  · rintro ⟨⟨n, hn, rfl⟩, hlimits⟩
    obtain ⟨hpos, hbound⟩ := hlimits n rfl
    refine ⟨n.toNat, ?_, by rw [Int.toNat_of_nonneg hpos]⟩
    cases width <;> simp_all [ValueRange.toldBound, bound, maxInteger]
  · rintro ⟨n, hn, rfl⟩
    cases width <;> simp_all [ValueRange.toldBound, bound, maxInteger]
    omega

namespace Kind

/-- The schema of a kind admits what its range advertises. -/
theorem admits_schema_iff (kind : Kind α) (hdefs : Defines root kind.definitions)
    (hhops : kind.definitions ≠ [] → 0 < hops) (hlabels : kind.range.labels.Nodup) :
    Admits root hops (.record kind.schema) v ↔ kind.range.Advertised v := by
  -- what may be `null` has two types where the values have one, and two alternatives elsewhere
  have hbranch : ∀ {β : Type} (inner : Kind β), (∀ t, inner.schema.lookup "type" ≠ some (.str t)) →
      (Admits root hops (.record (Kind.optional inner).schema) v ↔
        Admits root hops (.record inner.schema) v ∨ v = .null) := by
    intro β inner h
    rw [schema_optional h, admits_anyOf (record_ne_false _) (by simp [keywords, applicators,
      Json.get?_record, Dict.find?]) (Json.get?_record (by simp) "anyOf")]
    simp [admits_type, null_mem_typeWords]
  induction kind with
  | text =>
    rw [show (Kind.text).schema = [("type", .str "string")] from rfl, admits_type,
      string_mem_typeWords]
    rfl
  | natural width =>
    rw [show (Kind.natural width).schema = ("type", .str "integer") :: width.limits from rfl,
      admits_limits, admits_type]
    exact width.advertised_iff
  | label ls =>
    have href : (Json.record (Kind.label ls).schema).get? "$ref" =
        some (.str ("#/$defs/" ++ ls.name)) := Json.get?_record (by simp [schema]) "$ref"
    have hdef := definition?_of_reference href (hdefs (ls.name, ls.schema) List.mem_cons_self)
    rw [admits_reference (record_ne_false _) (by simp [keywords, applicators, schema,
      Json.get?_record, Dict.find?]) hdef (hhops (List.cons_ne_nil _ _))]
    exact ls.admits_schema_iff hlabels
  | optional kind ih =>
    cases kind with
    | text =>
      rw [show (Kind.optional .text).schema = [("type", .texts ["string", "null"])] from rfl,
        admits_typeOrNull, string_mem_typeWords]
      rfl
    | natural width =>
      have hschema : (Kind.optional (.natural width)).schema =
          ("type", .texts ["integer", "null"]) :: width.limits := by cases width <;> rfl
      have hlimits : v = .null →
          ∀ n, v = .int n → 0 ≤ n ∧ (width = .bits8 → n ≤ width.bound) := by
        rintro rfl n ⟨⟩
      rw [hschema, admits_limits, admits_typeOrNull, or_and_right, width.advertised_iff,
        and_iff_left_of_imp hlimits]
      rfl
    | label ls =>
      refine (hbranch (.label ls) (by simp [schema, List.lookup])).trans ?_
      exact (or_congr_left (ih hdefs hhops hlabels)).trans or_comm
    | optional kind =>
      refine (hbranch (.optional kind) (lookup_type_optional kind)).trans ?_
      exact (or_congr_left (ih hdefs hhops hlabels)).trans or_comm

end Kind
end Kinds
end ToolRelay
