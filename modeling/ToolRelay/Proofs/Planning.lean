import ToolRelay.Profile
import ToolRelay.Proofs.Decoding

/-!
# Which arguments are planned

Planning fails in two ways: the arguments do not decode, or they decode and the operation refuses
them. The first is settled by the rules of the parameters (`Signature.exists_decode_iff`). The
second happens to one operation only, for one reason: a search of the web with a level of filtering
above 2. `parameterRules` writes the rules of all operations out.
-/

set_option autoImplicit false

namespace ToolRelay

/-! ## Planning from an object -/

namespace Operation

variable {op : Operation} {args : Dict Json}

/-- Arguments are planned for exactly if they are decoded and what they say is planned for. -/
theorem planObject_eq_ok_iff {plan : Plan} :
    op.planObject args = .ok plan ↔
      ∃ x, op.signature.decode args = .ok x ∧ op.plan x = .ok plan := by
  unfold planObject
  cases op.signature.decode args with
  | error e => simp
  | ok x => cases hx : op.plan x <;> simp [hx]

/-- What an operation refuses has decoded. -/
theorem planObject_eq_rejected_iff {r : Rejection} :
    op.planObject args = .error (.rejected r) ↔
      ∃ x, op.signature.decode args = .ok x ∧ op.plan x = .error r := by
  unfold planObject
  cases op.signature.decode args with
  | error e => simp
  | ok x => cases hx : op.plan x <;> simp [hx]

/-- Planning ends in a decoding error exactly when an argument breaks its rule. -/
theorem exists_planObject_decode_iff :
    (∃ e, op.planObject args = .error (.decode e)) ↔
      ¬∀ r ∈ op.signature.rules, r.Fits args := by
  rw [← Signature.exists_decode_iff]
  unfold planObject
  cases op.signature.decode args with
  | error e => simp
  | ok x => cases hx : op.plan x <;> simp [hx]

/-- A plan depends on the declared arguments only. -/
theorem planObject_congr {a b : Dict Json}
    (h : ∀ name ∈ op.signature.names, a.get? name = b.get? name) :
    op.planObject a = op.planObject b := by
  unfold planObject
  rw [Signature.decode_congr op.signature h]

end Operation

/-! ## The registered operations -/

/-- What a lookup in a profile finds is one of its operations, under its own name. -/
theorem Profile.exists_operation_of_lookup {p : Profile} {name : String} {spec : Spec}
    (h : p.registry.lookup name = some spec) :
    ∃ op ∈ p.operations, op.spec = spec ∧ op.name = name := by
  have hname : spec.name = name := by simpa using List.find?_some h
  obtain ⟨op, hop, rfl⟩ := List.mem_map.1 (List.mem_of_find?_eq_some h)
  exact ⟨op, hop, rfl, hname⟩

/-- A fact about each of the twelve operations is a fact about every operation of a profile. -/
theorem Profile.operation_cases
    {motive : (p : Profile) → (op : Operation) → op ∈ p.operations → Prop}
    (searchCommits : ∀ h, motive .gitHistory GitHistory.searchCommits h)
    (getFileHistory : ∀ h, motive .gitHistory GitHistory.getFileHistory h)
    (indexTypescript : ∀ h, motive .scip Scip.indexTypescript h)
    (indexPython : ∀ h, motive .scip Scip.indexPython h)
    (search : ∀ h, motive .searxng Searxng.search h)
    (searchImages : ∀ h, motive .searxng Searxng.searchImages h)
    (searchNews : ∀ h, motive .searxng Searxng.searchNews h)
    (searchCode : ∀ h, motive .searxng Searxng.searchCode h)
    (searchStackoverflow : ∀ h, motive .searxng Searxng.searchStackoverflow h)
    (searchDocs : ∀ h, motive .searxng Searxng.searchDocs h)
    (searchPackages : ∀ h, motive .searxng Searxng.searchPackages h)
    (searchGithub : ∀ h, motive .searxng Searxng.searchGithub h)
    (p : Profile) (op : Operation) (h : op ∈ p.operations) : motive p op h := by
  have hmem := h
  cases p <;>
    simp only [operations, GitHistory.operations, Scip.operations, Searxng.operations,
      List.mem_cons, List.not_mem_nil, or_false] at hmem
  case gitHistory =>
    rcases hmem with rfl | rfl
    · exact searchCommits h
    · exact getFileHistory h
  case scip =>
    rcases hmem with rfl | rfl
    · exact indexTypescript h
    · exact indexPython h
  case searxng =>
    rcases hmem with rfl | rfl | rfl | rfl | rfl | rfl | rfl | rfl
    · exact search h
    · exact searchImages h
    · exact searchNews h
    · exact searchCode h
    · exact searchStackoverflow h
    · exact searchDocs h
    · exact searchPackages h
    · exact searchGithub h

/-- A text that must be given. -/
def ParameterRule.needed (name : String) : ParameterRule :=
  ⟨name, true, .text⟩

/-- An argument that may be left out. -/
def ParameterRule.mayBe (name : String) (range : ValueRange) : ParameterRule :=
  ⟨name, false, range⟩

/-- How many results a search shows. -/
def maxResultsRule : ParameterRule :=
  .mayBe "max_results" (.natural 0xFFFFFFFFFFFFFFFF)

/-- The ranges of time that searches know. -/
def timeRanges : ValueRange :=
  .label ["day", "week", "month", "year"]

/-- What each operation asks of its arguments. -/
def parameterRules : String → List ParameterRule
  | "search_commits" =>
    [.needed "repoPath", .needed "query", .mayBe "mode" (.label ["message", "diff"]),
      .mayBe "limit" (.natural 0xFFFFFFFF)]
  | "get_file_history" =>
    [.needed "repoPath", .needed "filePath", .mayBe "limit" (.natural 0xFFFFFFFF)]
  | "index_typescript" => [.needed "projectPath"]
  | "index_python" => [.needed "projectPath", .mayBe "projectName" .text]
  | "search" =>
    [.needed "query", .mayBe "categories" .text, .mayBe "language" .text,
      .mayBe "time_range" (.orNull timeRanges), .mayBe "safesearch" (.natural 0xFF),
      .mayBe "pageno" (.natural 0xFFFFFFFF), maxResultsRule]
  | "search_images" => [.needed "query", maxResultsRule]
  | "search_news" => [.needed "query", .mayBe "time_range" timeRanges, maxResultsRule]
  | "search_code" => [.needed "query", .mayBe "language" (.orNull .text), maxResultsRule]
  | "search_stackoverflow" => [.needed "query", maxResultsRule]
  | "search_docs" => [.needed "query", .mayBe "framework" (.orNull .text), maxResultsRule]
  | "search_packages" =>
    [.needed "query", .mayBe "registry" (.label ["npm", "pypi", "crates", "rubygems", "all"]),
      maxResultsRule]
  | "search_github" =>
    [.needed "query", .mayBe "search_type" (.label ["repos", "code"]), maxResultsRule]
  | _ => []

/-- The rules of the table are those that the signatures decode by. -/
theorem rules_eq_parameterRules {p : Profile} {op : Operation} (h : op ∈ p.operations) :
    op.signature.rules = parameterRules op.name := by
  cases p, op, h using Profile.operation_cases <;> rfl

/-- Whether the arguments ask a search of the web for a level of filtering that there is not. -/
def FiltersTooMuch (name : String) (args : Dict Json) : Prop :=
  name = "search" ∧ ∃ n : Int, 2 < n ∧ args.get? "safesearch" = some (.int n)

/-- The search of the web refuses what it decoded exactly for the level of filtering. -/
theorem search_refuses_iff {args : Dict Json} {x : Searxng.search.Args}
    (hx : Searxng.search.signature.decode args = .ok x) :
    (∃ r, Searxng.search.plan x = .error r) ↔ FiltersTooMuch "search" args := by
  obtain ⟨query, categories, language, timeRange, level, pageno, maxResults, ⟨⟩⟩ := x
  have hread := Signature.read_of_decode hx
  simp only [Searxng.search, Signature.required, Signature.withDefault,
    Signature.read_cons_eq_ok_iff] at hread
  obtain ⟨-, -, -, -, hlevel, -⟩ := hread
  have hplan : (∃ r, Searxng.search.plan (query, categories, language, timeRange, level, pageno,
      maxResults, ()) = .error r) ↔ 2 < level := by
    by_cases h : 2 < level <;> simp [Searxng.search, h]
  rw [hplan, FiltersTooMuch]
  -- the level is that of the argument, or 0 where there is none
  rcases Parameter.read_eq_ok_iff.1 hlevel with ⟨v, hv, hdecode⟩ | ⟨hnone, hfallback⟩
  · obtain ⟨-, rfl⟩ := Kind.decode_natural_eq_ok_iff.1 hdecode
    constructor
    · intro h
      exact ⟨rfl, level, by omega, hv⟩
    · rintro ⟨-, n, hn, heq⟩
      rw [hv] at heq
      cases heq
      omega
  · cases hfallback
    simp [hnone]

/-- What any of the operations refuses after decoding it is the level of filtering of a search. -/
theorem refuses_iff {p : Profile} {op : Operation} (h : op ∈ p.operations) {args : Dict Json}
    {x : op.Args} (hx : op.signature.decode args = .ok x) :
    (∃ r, op.plan x = .error r) ↔ FiltersTooMuch op.name args := by
  cases p, op, h using Profile.operation_cases
  case search => exact search_refuses_iff hx
  -- the other plans are total, and none of the names is that of the search
  all_goals
    refine ⟨?_, fun hfilters => absurd hfilters.1 (by decide)⟩
    rintro ⟨r, hr⟩
    cases hr

/-- Planning from an object has one of three ends, and the rules with the level of filtering tell
which. -/
theorem planObject_verdict {p : Profile} {op : Operation} (h : op ∈ p.operations)
    (args : Dict Json) :
    ((∃ plan, op.planObject args = .ok plan) ↔
      (∀ r ∈ parameterRules op.name, r.Fits args) ∧ ¬FiltersTooMuch op.name args) ∧
    ((∃ r, op.planObject args = .error (.rejected r)) ↔
      (∀ r ∈ parameterRules op.name, r.Fits args) ∧ FiltersTooMuch op.name args) := by
  rw [← rules_eq_parameterRules h, ← Signature.exists_decode_iff]
  simp only [Operation.planObject_eq_ok_iff, Operation.planObject_eq_rejected_iff]
  cases hdecode : op.signature.decode args with
  | error e => simp
  | ok x =>
    rw [← refuses_iff h hdecode]
    cases hplan : op.plan x <;> simp [hplan]

/-- The spellings with an underscore of the names that are written without one. -/
def underscored : List String :=
  ["repo_path", "file_path", "project_path", "project_name"]

/-- **What the operations accept.** Arguments are planned exactly when they keep the rules of the
table and do not ask for a level of filtering above 2. They are rejected exactly when the level is
all that is wrong, and fail to decode in every other case. Arguments of other names never matter,
the names with an underscore among them. -/
theorem plan_accepts_iff {p : Profile} {name : String} {spec : Spec}
    (h : p.registry.lookup name = some spec) (args : Dict Json) :
    ((∃ plan, spec.plan args = .ok plan) ↔
      (∀ r ∈ parameterRules name, r.Fits args) ∧ ¬FiltersTooMuch name args) ∧
    ((∃ r, spec.plan args = .error (.rejected r)) ↔
      (∀ r ∈ parameterRules name, r.Fits args) ∧ FiltersTooMuch name args) ∧
    ((∃ e, spec.plan args = .error (.decode e)) ↔ ¬∀ r ∈ parameterRules name, r.Fits args) ∧
    (∀ other : Dict Json, (∀ r ∈ parameterRules name, other.get? r.name = args.get? r.name) →
      spec.plan other = spec.plan args) ∧
    ∀ key ∈ underscored, key ∉ (parameterRules name).map (·.name) := by
  obtain ⟨op, hop, rfl, rfl⟩ := p.exists_operation_of_lookup h
  have hrules := rules_eq_parameterRules hop
  obtain ⟨haccepted, hrejected⟩ := planObject_verdict hop args
  refine ⟨haccepted, hrejected, ?_, ?_, ?_⟩
  · rw [← hrules]
    exact Operation.exists_planObject_decode_iff
  · intro other hagree
    refine Operation.planObject_congr fun key hkey => ?_
    rw [← Signature.map_name_rules, hrules] at hkey
    obtain ⟨r, hr, rfl⟩ := List.mem_map.1 hkey
    exact hagree r hr
  · cases p, op, hop using Profile.operation_cases <;> decide

/-- A search that asks for a level of filtering of 3 is rejected. -/
theorem plan_accepts_iff_level_three :
    Profile.searxng.registry.lookup "search" = some Searxng.search.spec ∧
      ∃ r, Searxng.search.spec.plan
        (.ofList [("query", .str "rust"), ("safesearch", .int 3)]) = .error (.rejected r) := by
  have hlookup : Profile.searxng.registry.lookup "search" = some Searxng.search.spec := rfl
  have hrules := (Signature.exists_decode_iff Searxng.search.signature
    (.ofList [("query", .str "rust"), ("safesearch", .int 3)])).1 ⟨_, rfl⟩
  exact ⟨hlookup, (plan_accepts_iff hlookup _).2.1.2 ⟨hrules, rfl, 3, by decide, rfl⟩⟩

end ToolRelay
