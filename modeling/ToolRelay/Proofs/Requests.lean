import ToolRelay.Proofs.Planning

/-!
# What a request tells of the arguments

Five parameters are texts that can be left out, and what they say goes into the request word for
word: as a parameter of its own, in front of the query, or as an argument of a program. So the texts
can be read off the request where the required arguments are known
(`Operation.effectiveText_eq_of_request_eq`).
-/

set_option autoImplicit false

namespace ToolRelay

namespace SearchRequest

/-- A path alone has no parameters. -/
@[simp] theorem get?_ofPath (path key : String) : (ofPath path).get? key = none := rfl

/-- A parameter is found under its key, unless it is empty or the key has a value already. -/
@[simp] theorem get?_param (r : SearchRequest) (k v key : String) :
    (r.param k v).get? key = (r.get? key).or (if k = key ∧ v ≠ "" then some v else none) := by
  by_cases hv : v = ""
  · simp [param, hv]
  · by_cases hk : k = key
    · subst hk
      simp [param, get?, hv, List.lookup_append]
    · have hne : (key == k) = false := by simpa using Ne.symm hk
      simp [param, get?, hv, hk, List.lookup_append, List.lookup, hne]

/-- A parameter is not found under another key. -/
theorem get?_paramOpt_of_ne (r : SearchRequest) {k key : String} (v : Option String)
    (h : k ≠ key) : (r.paramOpt k v).get? key = r.get? key := by
  cases v <;> simp [paramOpt, h]

end SearchRequest

/-! ## Texts among the arguments -/

/-- The text under a name, if there is one. -/
def Dict.text? (args : Dict Json) (name : String) : Option String :=
  (args.get? name).bind Json.str?

/-- A parameter for a text has the text under its name, or else its fallback. -/
theorem Parameter.text?_of_read {p : Parameter String} {args : Dict Json} {s : String}
    (hkind : p.kind = .text) (h : p.read args = .ok s) :
    (args.text? p.name).or p.fallback = some s := by
  rw [Dict.text?]
  rcases read_eq_ok_iff.1 h with ⟨v, hv, hdecode⟩ | ⟨hnone, hfallback⟩
  · rw [hkind] at hdecode
    rw [hv, Kind.decode_text_eq_ok_iff.1 hdecode]
    rfl
  · rw [hnone, hfallback]
    rfl

/-- A required text is there, and is what is read first. -/
theorem Signature.text_of_read {β : Type} {name description : String} {rest : Signature β}
    {args : Dict Json} {s : String} {y : β}
    (h : (required name .text description rest).read args = .ok (s, y)) :
    args.get? name = some (.str s) ∧ rest.read args = .ok y := by
  obtain ⟨hs, hrest⟩ := (read_cons_eq_ok_iff _ _ _ _ _).1 h
  refine ⟨?_, hrest⟩
  rcases Parameter.read_eq_ok_iff.1 hs with ⟨v, hv, hdecode⟩ | ⟨-, hnone⟩
  · rw [hv, Kind.decode_text_eq_ok_iff.1 hdecode]
  · cases hnone

/-- A parameter for a text or `null` has the text under its name, if there is one. -/
theorem Parameter.text?_of_read_optional {p : Parameter (Option String)} {args : Dict Json}
    {s : Option String} (hkind : p.kind = .optional .text) (hfallback : p.fallback = some none)
    (h : p.read args = .ok s) : args.text? p.name = s := by
  rw [Dict.text?]
  rcases read_eq_ok_iff.1 h with ⟨v, hv, hdecode⟩ | ⟨hnone, hsome⟩
  · rw [hkind, Kind.decode_optional_eq_ok_iff] at hdecode
    rw [hv, Option.bind_some]
    rcases hdecode with ⟨rfl, rfl⟩ | ⟨-, y, hy, rfl⟩
    · rfl
    · rw [Kind.decode_text_eq_ok_iff.1 hy]
      rfl
  · rw [hnone, ← Option.some.inj (hfallback.symm.trans hsome)]
    rfl

/-! ## The requests of the operations -/

/-- The indexer for Python is told the path and the name of the project. -/
theorem Scip.indexPython_request {args : Dict Json} {plan : Plan}
    (h : indexPython.planObject args = .ok plan) :
    ∃ path name, args.text? "projectPath" = some path ∧
      (args.text? "projectName").or (some "my-project") = some name ∧
      plan.request = .command ⟨"scip-python",
        ["index", "--project-name", name, "--output", indexPath path, path], none⟩ := by
  obtain ⟨⟨path, name, ⟨⟩⟩, hdecode, hplan⟩ := Operation.planObject_eq_ok_iff.1 h
  have hread := Signature.read_of_decode hdecode
  simp only [indexPython, Signature.required, Signature.withDefault,
    Signature.read_cons_eq_ok_iff] at hread
  obtain ⟨hpath, hname, -⟩ := hread
  cases hplan
  have htext := Parameter.text?_of_read rfl hpath
  exact ⟨path, name, by simpa using htext, Parameter.text?_of_read rfl hname, rfl⟩

namespace Searxng

/-- A search of the web sends the categories and the language. -/
theorem search_request {args : Dict Json} {plan : Plan} (h : search.planObject args = .ok plan) :
    ∃ r categories language, plan.request = .search r ∧
      (args.text? "categories").or (some "general") = some categories ∧
      (args.text? "language").or (some "auto") = some language ∧
      r.get? "categories" = (some categories).filter (· ≠ "") ∧
      r.get? "language" = (some language).filter (· ≠ "") := by
  obtain ⟨x, hdecode, hplan⟩ := Operation.planObject_eq_ok_iff.1 h
  obtain ⟨query, categories, language, timeRange, level, pageno, maxResults, ⟨⟩⟩ := x
  have hread := Signature.read_of_decode hdecode
  simp only [search, Signature.required, Signature.withDefault,
    Signature.read_cons_eq_ok_iff] at hread
  obtain ⟨-, hcategories, hlanguage, -⟩ := hread
  simp only [search] at hplan
  split at hplan
  · cases hplan
  · cases hplan
    refine ⟨_, categories, language, rfl, Parameter.text?_of_read rfl hcategories,
      Parameter.text?_of_read rfl hlanguage, ?_, ?_⟩
    · simp [searchRequest, SearchRequest.get?_paramOpt_of_ne, Option.filter_some]
    · simp [searchRequest, SearchRequest.get?_paramOpt_of_ne, Option.filter_some]

/-- A text with a word and a space in front of it, if there is a word. -/
def inFront (rest : String) : Option String → String
  | some word => word ++ " " ++ rest
  | none => rest

/-- A search for code sends the language in front of the query. -/
theorem searchCode_request {args : Dict Json} {plan : Plan}
    (h : searchCode.planObject args = .ok plan) :
    ∃ r query, plan.request = .search r ∧ args.text? "query" = some query ∧
      r.get? "q" = (some (inFront query (args.text? "language"))).filter (· ≠ "") := by
  obtain ⟨⟨query, language, maxResults, ⟨⟩⟩, hdecode, hplan⟩ := Operation.planObject_eq_ok_iff.1 h
  have hread := Signature.read_of_decode hdecode
  simp only [searchCode, Signature.required, Signature.withDefault,
    Signature.read_cons_eq_ok_iff] at hread
  obtain ⟨hquery, hlanguage, -⟩ := hread
  cases hplan
  refine ⟨_, query, rfl, by simpa using Parameter.text?_of_read rfl hquery, ?_⟩
  rw [Parameter.text?_of_read_optional rfl rfl hlanguage]
  cases language <;> simp [searchRequest, inFront, Option.filter_some]

/-- A search for documentation sends the framework in front of the query. -/
theorem searchDocs_request {args : Dict Json} {plan : Plan}
    (h : searchDocs.planObject args = .ok plan) :
    ∃ r query, plan.request = .search r ∧ args.text? "query" = some query ∧
      r.get? "q" =
        (some (inFront (query ++ " documentation") (args.text? "framework"))).filter (· ≠ "") := by
  obtain ⟨⟨query, framework, maxResults, ⟨⟩⟩, hdecode, hplan⟩ := Operation.planObject_eq_ok_iff.1 h
  have hread := Signature.read_of_decode hdecode
  simp only [searchDocs, Signature.required, Signature.withDefault,
    Signature.read_cons_eq_ok_iff] at hread
  obtain ⟨hquery, hframework, -⟩ := hread
  cases hplan
  refine ⟨_, query, rfl, by simpa using Parameter.text?_of_read rfl hquery, ?_⟩
  rw [Parameter.text?_of_read_optional rfl rfl hframework]
  cases framework <;> simp [searchRequest, inFront, String.append_assoc, Option.filter_some]

end Searxng

/-! ## Texts told by a request -/

/-- The rules of an operation for texts that can be left out. -/
def textOptions (name : String) : List ParameterRule :=
  (parameterRules name).filter fun r => !r.required && r.range.textual

/-- The text under a name, or else the text that the operation falls back on. -/
def Operation.effectiveText (op : Operation) (args : Dict Json) (name : String) : Option String :=
  (args.text? name).or (op.spec.defaults.text? name)

namespace Searxng

/-- A text that is dropped when it is empty is known by what is left. -/
theorem eq_of_filter_eq {s t : String}
    (h : (some s).filter (· ≠ "") = (some t).filter (· ≠ "")) : s = t := by
  by_cases hs : s = "" <;> by_cases ht : t = "" <;> simp_all [Option.filter_some]

/-- The word in front of a text is known by the two together, and so is its absence. -/
theorem inFront_injective {rest : String} {s t : Option String}
    (h : inFront rest s = inFront rest t) : s = t := by
  -- with a word in front the text is longer
  have hlength : ∀ word : String, word ++ " " ++ rest ≠ rest := by
    intro word heq
    have hlen := congrArg String.length heq
    rw [String.length_append, String.length_append, show " ".length = 1 from rfl] at hlen
    omega
  cases s with
  | none =>
    cases t with
    | none => rfl
    | some word => exact absurd h.symm (hlength word)
  | some word =>
    cases t with
    | none => exact absurd h (hlength word)
    | some word' => exact congrArg some (by simpa [inFront] using h)

end Searxng

/-- A request tells the texts that can be left out, where the required arguments are the same. -/
theorem Operation.effectiveText_eq_of_request_eq {p : Profile} {op : Operation}
    (hop : op ∈ p.operations) {r : ParameterRule} (hr : r ∈ textOptions op.name) {a b : Dict Json}
    {plan plan' : Plan} (ha : op.planObject a = .ok plan) (hb : op.planObject b = .ok plan')
    (hrequired : ∀ key ∈ op.signature.requiredNames, a.get? key = b.get? key)
    (heq : plan.request = plan'.request) :
    op.effectiveText a r.name = op.effectiveText b r.name := by
  have htext : ∀ key ∈ op.signature.requiredNames, a.text? key = b.text? key := by
    intro key hkey
    rw [Dict.text?, Dict.text?, hrequired key hkey]
  have hsearch : ∀ {q q' : SearchRequest}, plan.request = .search q → plan'.request = .search q' →
      q = q' := fun hq hq' => ExternalRequest.search.inj (hq.symm.trans (heq.trans hq'))
  -- the operations without such a text are left to the end
  cases p, op, hop using Profile.operation_cases
  case indexPython =>
    obtain rfl : r = .mayBe "projectName" .text := List.mem_singleton.1 hr
    obtain ⟨path, name, -, hname, hrequest⟩ := Scip.indexPython_request ha
    obtain ⟨path', name', -, hname', hrequest'⟩ := Scip.indexPython_request hb
    obtain rfl : name = name' := by
      rw [hrequest, hrequest'] at heq
      simp only [ExternalRequest.command.injEq, CommandRequest.mk.injEq, List.cons.injEq] at heq
      exact heq.2.1.2.2.1
    exact hname.trans hname'.symm
  case search =>
    have hr' : r = .mayBe "categories" .text ∨ r = .mayBe "language" .text := by
      simpa using show r ∈ [.mayBe "categories" .text, .mayBe "language" .text] from hr
    obtain ⟨q, categories, language, hq, hc, hl, hqc, hql⟩ := Searxng.search_request ha
    obtain ⟨q', categories', language', hq', hc', hl', hqc', hql'⟩ := Searxng.search_request hb
    obtain rfl := hsearch hq hq'
    rcases hr' with rfl | rfl
    · obtain rfl := Searxng.eq_of_filter_eq (hqc.symm.trans hqc')
      exact hc.trans hc'.symm
    · obtain rfl := Searxng.eq_of_filter_eq (hql.symm.trans hql')
      exact hl.trans hl'.symm
  case searchCode =>
    obtain rfl : r = .mayBe "language" (.orNull .text) := List.mem_singleton.1 hr
    obtain ⟨q, query, hq, hquery, hqq⟩ := Searxng.searchCode_request ha
    obtain ⟨q', query', hq', hquery', hqq'⟩ := Searxng.searchCode_request hb
    obtain rfl := hsearch hq hq'
    obtain rfl : query = query' := by
      rw [htext "query" (by decide), hquery'] at hquery
      exact (Option.some.inj hquery).symm
    have hfront := Searxng.inFront_injective (Searxng.eq_of_filter_eq (hqq.symm.trans hqq'))
    exact congrArg (·.or none) hfront
  case searchDocs =>
    obtain rfl : r = .mayBe "framework" (.orNull .text) := List.mem_singleton.1 hr
    obtain ⟨q, query, hq, hquery, hqq⟩ := Searxng.searchDocs_request ha
    obtain ⟨q', query', hq', hquery', hqq'⟩ := Searxng.searchDocs_request hb
    obtain rfl := hsearch hq hq'
    obtain rfl : query = query' := by
      rw [htext "query" (by decide), hquery'] at hquery
      exact (Option.some.inj hquery).symm
    have hfront := Searxng.inFront_injective (Searxng.eq_of_filter_eq (hqq.symm.trans hqq'))
    exact congrArg (·.or none) hfront
  all_goals exact absurd hr List.not_mem_nil

/-- None of these texts falls back on `null`. -/
theorem Operation.text?_defaults_ne_null {p : Profile} {op : Operation} (hop : op ∈ p.operations)
    {r : ParameterRule} (hr : r ∈ textOptions op.name) :
    op.spec.defaults.text? r.name ≠ some "null" := by
  suffices h : ∀ r ∈ textOptions op.name, op.spec.defaults.text? r.name ≠ some "null" from h r hr
  cases p, op, hop using Profile.operation_cases <;> decide

end ToolRelay
