import ToolRelay.Invocation
import ToolRelay.Proofs.FileArguments
import ToolRelay.Proofs.Dispatching
import ToolRelay.Proofs.Operations

/-!
# What can be wrong with an invocation

The arguments on a command line can be wrong in five ways: one of them is not of the form of a key
with a value, the file of arguments does not hold an object, no operation has the name, a required
argument is not given, or one that is given does not have its type. `Invocation.Faulty` says each of
them in terms of what was given. An invocation is ready to be planned exactly when none of them is
the case and the level of filtering is one that there is (`Invocation.ready_iff`).
-/

set_option autoImplicit false

namespace ToolRelay

/-! ## Keys and values -/

/-- A list fails exactly if one of its elements does. -/
theorem exists_mapM_eq_error_iff {α β ε : Type} {f : α → Except ε β} {l : List α} :
    (∃ e, l.mapM f = .error e) ↔ ∃ x ∈ l, ∃ e, f x = .error e := by
  induction l with
  | nil => simp [pure, Except.pure]
  | cons x r ih =>
    rw [List.mapM_cons]
    cases hx : f x with
    | error e => simp [hx, bind, Except.bind]
    | ok y =>
      simp only [List.mem_cons, exists_eq_or_imp, hx, reduceCtorEq, exists_false, false_or, ← ih]
      cases r.mapM f <;> simp [bind, Except.bind, pure, Except.pure]

namespace Argument

/-- Whether a text is no argument: it has no equals sign, or nothing but white space in front of the
first. -/
def Malformed (text : String) : Prop :=
  '=' ∉ text.toList ∨
    ∃ key rest, text.toList = key ++ '=' :: rest ∧ '=' ∉ key ∧ ∀ c ∈ key, Text.isBlank c = true

/-- An argument is refused exactly if it is malformed. -/
theorem exists_pair_eq_error_iff (text : String) :
    (∃ e, pair text = .error e) ↔ Malformed text := by
  by_cases h : '=' ∈ text.toList
  · obtain ⟨key, rest, htext, hkey⟩ := List.eq_append_cons_of_mem h
    have hcut := Text.cut_append hkey rest
    have hmalformed : Malformed text ↔ ∀ c ∈ key, Text.isBlank c = true := by
      constructor
      · rintro (hnone | ⟨key', rest', htext', hkey', hblank⟩)
        · exact absurd h hnone
        · -- the first equals sign cuts the text in one way only
          have hsame := Text.cut_append hkey' rest'
          rw [← htext', htext, hcut] at hsame
          cases hsame
          exact hblank
      · intro hblank
        exact .inr ⟨key, rest, htext, hkey, hblank⟩
    rw [hmalformed, ← List.all_eq_true, ← Text.trim_eq_nil_iff, pair, htext, hcut]
    by_cases hblank : Text.trim key = [] <;> simp [hblank]
  · have hpair : pair text = .error (.noEqualsSign text) := by
      rw [pair, Text.cut_of_not_mem h]
    exact ⟨fun _ => .inl h, fun _ => ⟨_, hpair⟩⟩

/-- Arguments are refused exactly if one of them is malformed. -/
theorem exists_pairs_eq_error_iff (given : List String) :
    (∃ e, pairs given = .error e) ↔ ∃ text ∈ given, Malformed text := by
  simp only [pairs, map_eq_error_iff, exists_mapM_eq_error_iff, exists_pair_eq_error_iff]

/-! ## Files -/

/-- Whether a file can be read and holds an object. -/
def HoldsObject (path : String) (octets : Option (List UInt8)) : Prop :=
  ∃ text members, octets.bind Text.Utf8.decode? = some text ∧
    fileValue path (String.ofList text) = .ok (.obj members)

/-- A file is refused exactly if it holds no object. -/
theorem exists_fileArguments_eq_error_iff (path : String) (octets : Option (List UInt8)) :
    (∃ e, fileArguments path octets = .error e) ↔ ¬HoldsObject path octets := by
  unfold fileArguments HoldsObject
  cases octets.bind Text.Utf8.decode? with
  | none => simp
  | some text =>
    cases hvalue : fileValue path (String.ofList text) with
    | error e => simp [hvalue]
    | ok v => cases v <;> simp [hvalue]

end Argument

namespace Invocation

/-- There are no arguments exactly when one on the command line is malformed, or a file that is
named does not hold an object. -/
theorem exists_provided_eq_error_iff (i : Invocation) (fileAt : String → Option (List UInt8)) :
    (∃ e, i.provided fileAt = .error e) ↔
      (∃ text ∈ i.params, Argument.Malformed text) ∨
        ∃ path, i.file = some path ∧ ¬Argument.HoldsObject path (fileAt path) := by
  rw [← Argument.exists_pairs_eq_error_iff]
  unfold provided
  cases Argument.pairs i.params with
  | error e => simp
  | ok known =>
    cases i.file with
    | none => simp
    | some path =>
      simp only [Option.some.injEq, exists_eq_left', ← Argument.exists_fileArguments_eq_error_iff,
        Argument.loadFile]
      cases Argument.fileArguments path (fileAt path) <;> simp [Except.map]

end Invocation

/-! ## Names -/

namespace Registry

/-- An operation is not found exactly if no name is the same in small letters. -/
theorem find?_eq_none_iff {r : Registry} {name : String} :
    r.find? name = none ↔ ∀ other ∈ r.names, lower other ≠ lower name := by
  have hlower : (r.specs.find? fun s => lower s.name == lower name) = none ↔
      ∀ other ∈ r.names, lower other ≠ lower name := by
    simp [names]
  rw [← hlower, find?]
  cases hlookup : r.lookup name with
  | none => rfl
  | some s =>
    -- a name that is found as it is would also be found in another case
    have hname : s.name = name := by simpa using List.find?_some hlookup
    simp only [reduceCtorEq, false_iff, List.find?_eq_none, not_forall]
    exact ⟨s, List.mem_of_find?_eq_some hlookup, by simp [hname]⟩

/-- An operation that is found is registered. -/
theorem mem_of_find? {r : Registry} {name : String} {s : Spec} (h : r.find? name = some s) :
    s ∈ r.specs := by
  rw [find?] at h
  split at h
  · next hlookup =>
    cases h
    exact List.mem_of_find?_eq_some hlookup
  · exact List.mem_of_find?_eq_some h

/-- A registered operation is looked up by its name. -/
theorem lookup_of_mem {r : Registry} {s : Spec} (h : s ∈ r.specs) : r.lookup s.name = some s :=
  Dict.find?_name_eq_some r.distinct h

end Registry

/-- What is found in a profile is one of its operations. -/
theorem Profile.exists_operation_of_find? {p : Profile} {name : String} {spec : Spec}
    (h : p.registry.find? name = some spec) :
    ∃ op ∈ p.operations, op.spec = spec ∧ p.registry.lookup op.name = some spec := by
  have hmem := Registry.mem_of_find? h
  obtain ⟨op, hop, rfl⟩ := List.mem_map.1 hmem
  exact ⟨op, hop, rfl, Registry.lookup_of_mem hmem⟩

/-! ## Texts for parameters -/

/-- The text that is given for a name, unless it is empty. -/
def Dict.given? (provided : Dict String) (name : String) : Option String :=
  (provided.get? name).filter (· ≠ "")

/-- Whether the texts that are given keep a rule. -/
def ParameterRule.Kept (r : ParameterRule) (provided : Dict String) : Prop :=
  (r.required = true → (provided.given? r.name).isSome = true) ∧
    ∀ raw, provided.given? r.name = some raw → r.range.Holds (Coercion.coerce raw r.range.word)

namespace Coercion

/-- Of the texts, only the empty one does not count as supplied. -/
theorem supplied_coerce (range : ValueRange) (raw : String) :
    Dispatch.supplied (coerce raw range.word) = decide (raw ≠ "") := by
  have htext : Dispatch.supplied (.str raw) = decide (raw ≠ "") := by
    by_cases hraw : raw = "" <;> simp [Dispatch.supplied, hraw]
  rcases word_cases range with hword | hword
  · rw [hword, coerce_string, htext]
  · rw [hword, coerce_integer]
    cases hread : Decimal.int64? (Text.trim raw.toList) with
    | none => exact htext
    | some n =>
      have hne : raw ≠ "" := by
        rintro rfl
        cases hread
      simp [Dispatch.supplied, hne]

/-- What counts as supplied for a parameter is what its text comes to. -/
theorem get?_dropUnsupplied_arguments {p : Profile} {op : Operation} (hop : op ∈ p.operations)
    {r : ParameterRule} (hr : r ∈ op.signature.rules) (provided : Dict String) :
    (Dispatch.dropUnsupplied (arguments op.spec provided)).get? r.name =
      (provided.given? r.name).map fun raw => coerce raw r.range.word := by
  rw [Dispatch.get?_dropUnsupplied, get?_arguments hop hr, Dict.given?]
  cases provided.get? r.name with
  | none => rfl
  | some raw =>
    have hsupplied := supplied_coerce r.range raw
    by_cases hraw : raw = "" <;> simp_all [Option.filter_some]

/-- The arguments made of texts fit a rule exactly if the rule keeps the texts. -/
theorem fits_arguments_iff {p : Profile} {op : Operation} (hop : op ∈ p.operations)
    {r : ParameterRule} (hr : r ∈ op.signature.rules) (provided : Dict String) :
    r.Fits (Dispatch.dropUnsupplied (arguments op.spec provided)) ↔ r.Kept provided := by
  rw [ParameterRule.Fits, ParameterRule.Kept, Dict.contains,
    get?_dropUnsupplied_arguments hop hr, Option.isSome_map]
  simp only [Option.map_eq_some_iff, forall_exists_index, and_imp, forall_apply_eq_imp_iff₂]

end Coercion

/-! ## Faults -/

namespace Invocation

/-- An invocation with something wrong in it that the outside need not be asked about. -/
inductive Faulty (i : Invocation) (p : Profile) (fileAt : String → Option (List UInt8)) : Prop
  | parameter (text : String) (given : text ∈ i.params) (malformed : Argument.Malformed text)
  /-- The file cannot be read, or does not hold an object. -/
  | file (path : String) (named : i.file = some path)
      (unusable : ¬Argument.HoldsObject path (fileAt path))
  /-- No operation has the name, in whatever case its letters are. -/
  | operation (unknown : ∀ name ∈ p.registry.names,
      Registry.lower name ≠ Registry.lower (Text.trimmed i.operation))
  /-- A required argument is not given. -/
  | missing (spec : Spec) (found : p.registry.find? (Text.trimmed i.operation) = some spec)
      (provided : Dict String) (texts : i.provided fileAt = .ok provided)
      (r : ParameterRule) (rule : r ∈ parameterRules spec.name) (required : r.required = true)
      (lacking : provided.given? r.name = none)
  /-- An argument comes to a value out of its range. -/
  | illTyped (spec : Spec) (found : p.registry.find? (Text.trimmed i.operation) = some spec)
      (provided : Dict String) (texts : i.provided fileAt = .ok provided)
      (r : ParameterRule) (rule : r ∈ parameterRules spec.name) (raw : String)
      (given : provided.given? r.name = some raw)
      (outside : ¬r.range.Holds (Coercion.coerce raw r.range.word))

/-- Whether the invocation asks a search of the web for a level of filtering that there is not. -/
def FiltersTooMuch (i : Invocation) (p : Profile) (fileAt : String → Option (List UInt8)) : Prop :=
  ∃ spec provided, p.registry.find? (Text.trimmed i.operation) = some spec ∧
    i.provided fileAt = .ok provided ∧
    ToolRelay.FiltersTooMuch spec.name
      (Dispatch.dropUnsupplied (Coercion.arguments spec provided))

/-- Whether the invocation comes to a call that is planned. -/
def Ready (i : Invocation) (p : Profile) (fileAt : String → Option (List UInt8)) : Prop :=
  ∃ call spec plan, i.prepare p.registry fileAt = .ok call ∧
    Dispatch.Planned p.registry call.name (Dispatch.dropUnsupplied call.arguments) spec plan

variable {i : Invocation} {p : Profile} {fileAt : String → Option (List UInt8)}

/-- Where there are texts for an operation, a fault is a rule that they do not keep. -/
theorem faulty_iff_of_found {spec : Spec} {provided : Dict String}
    (hfind : p.registry.find? (Text.trimmed i.operation) = some spec)
    (htexts : i.provided fileAt = .ok provided) :
    i.Faulty p fileAt ↔ ∃ r ∈ parameterRules spec.name, ¬r.Kept provided := by
  have hread : ¬∃ e, i.provided fileAt = .error e := by
    rw [htexts]
    simp
  rw [exists_provided_eq_error_iff, not_or] at hread
  constructor
  · intro hfaulty
    cases hfaulty with
    | parameter text given malformed => exact absurd ⟨text, given, malformed⟩ hread.1
    | file path named unusable => exact absurd ⟨path, named, unusable⟩ hread.2
    | operation unknown =>
      rw [Registry.find?_eq_none_iff.2 unknown] at hfind
      cases hfind
    | missing spec' found provided' texts r rule required lacking =>
      cases hfind.symm.trans found
      cases htexts.symm.trans texts
      refine ⟨r, rule, fun hkept => ?_⟩
      simpa [lacking] using hkept.1 required
    | illTyped spec' found provided' texts r rule raw given outside =>
      cases hfind.symm.trans found
      cases htexts.symm.trans texts
      exact ⟨r, rule, fun hkept => outside (hkept.2 raw given)⟩
  · rintro ⟨r, hr, hbroken⟩
    rw [ParameterRule.Kept, not_and_or] at hbroken
    rcases hbroken with hlacking | houtside
    · simp only [Classical.not_imp, Option.not_isSome_iff_eq_none] at hlacking
      exact .missing spec hfind provided htexts r hr hlacking.1 hlacking.2
    · simp only [not_forall] at houtside
      obtain ⟨raw, hgiven, hrange⟩ := houtside
      exact .illTyped spec hfind provided htexts r hr raw hgiven hrange

/-- An invocation whose operation is found is ready exactly if its arguments are accepted. -/
theorem ready_iff_of_found {op : Operation} {provided : Dict String}
    (hfind : p.registry.find? (Text.trimmed i.operation) = some op.spec)
    (hlookup : p.registry.lookup op.name = some op.spec)
    (htexts : i.provided fileAt = .ok provided) :
    i.Ready p fileAt ↔ ∃ plan, op.planObject
      (Dispatch.dropUnsupplied (Coercion.arguments op.spec provided)) = .ok plan := by
  have hprepare : i.prepare p.registry fileAt =
      .ok ⟨op.name, Coercion.arguments op.spec provided⟩ := by
    rw [prepare, htexts]
    simp only [Except.map, prepared, hfind]
    rfl
  constructor
  · rintro ⟨call, spec, plan, hcall, hplanned⟩
    cases hprepare.symm.trans hcall
    exact ⟨plan, ((Dispatch.planned_iff_of_registered hlookup).1 hplanned).2⟩
  · rintro ⟨plan, hplan⟩
    have hplanned := (Dispatch.planned_iff_of_registered hlookup).2 ⟨rfl, hplan⟩
    exact ⟨_, op.spec, plan, hprepare, hplanned⟩

/-- An invocation whose operation is found filters too much exactly if its arguments do. -/
theorem filtersTooMuch_iff_of_found {spec : Spec} {provided : Dict String}
    (hfind : p.registry.find? (Text.trimmed i.operation) = some spec)
    (htexts : i.provided fileAt = .ok provided) :
    i.FiltersTooMuch p fileAt ↔ ToolRelay.FiltersTooMuch spec.name
      (Dispatch.dropUnsupplied (Coercion.arguments spec provided)) := by
  constructor
  · rintro ⟨spec', texts, hspec, hprovided, hlevel⟩
    cases hfind.symm.trans hspec
    cases htexts.symm.trans hprovided
    exact hlevel
  · intro hlevel
    exact ⟨spec, provided, hfind, htexts, hlevel⟩

/-- An invocation whose operation is not found is not ready. -/
theorem not_ready_of_not_found (hfind : p.registry.find? (Text.trimmed i.operation) = none) :
    ¬i.Ready p fileAt := by
  rintro ⟨call, spec, plan, hprepare, hplanned⟩
  obtain ⟨provided, -, rfl⟩ := map_eq_ok_iff.1 hprepare
  have hlookup := hplanned.registered
  rw [show (i.prepared p.registry provided).name = Text.trimmed i.operation by
    simp only [prepared, hfind]] at hlookup
  rw [Registry.find?, hlookup] at hfind
  cases hfind

/-- An invocation comes to a call that is planned exactly when it has none of the
faults and does not ask for a level of filtering that there is not. -/
theorem ready_iff : i.Ready p fileAt ↔ ¬i.Faulty p fileAt ∧ ¬i.FiltersTooMuch p fileAt := by
  cases htexts : i.provided fileAt with
  | error e =>
    have hfaulty : i.Faulty p fileAt := by
      rcases (i.exists_provided_eq_error_iff fileAt).1 ⟨e, htexts⟩ with
        ⟨text, hgiven, hmalformed⟩ | ⟨path, hnamed, hunusable⟩
      · exact .parameter text hgiven hmalformed
      · exact .file path hnamed hunusable
    simp [Ready, prepare, htexts, Except.map, hfaulty]
  | ok provided =>
    cases hfind : p.registry.find? (Text.trimmed i.operation) with
    | none =>
      have hfaulty : i.Faulty p fileAt := .operation (Registry.find?_eq_none_iff.1 hfind)
      exact iff_of_false (not_ready_of_not_found hfind) fun h => h.1 hfaulty
    | some spec =>
      obtain ⟨op, hop, rfl, hlookup⟩ := Profile.exists_operation_of_find? hfind
      have hfits : ∀ r ∈ parameterRules op.name,
          (r.Fits (Dispatch.dropUnsupplied (Coercion.arguments op.spec provided)) ↔
            r.Kept provided) := by
        intro r hr
        rw [← rules_eq_parameterRules hop] at hr
        exact Coercion.fits_arguments_iff hop hr provided
      rw [ready_iff_of_found hfind hlookup htexts, (planObject_verdict hop _).1,
        faulty_iff_of_found hfind htexts, filtersTooMuch_iff_of_found hfind htexts]
      refine and_congr_left fun _ => ?_
      simp only [not_exists, not_and, not_not]
      exact forall₂_congr hfits

end Invocation

end ToolRelay
