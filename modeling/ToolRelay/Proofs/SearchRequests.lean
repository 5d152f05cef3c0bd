import ToolRelay.Proofs.Decimals
import ToolRelay.Proofs.Dispatching
import ToolRelay.Proofs.Requests

/-!
# What searches send

Every search asks the same path for an answer in JSON, with the words to search for and a category.
`SearchRequest.Asks` says so of a request, and it is kept by each further parameter under a key that
is not taken, empty or not (`Asks.param`); so a request is put together from `asks_searchRequest`
parameter by parameter. Nothing that was dropped on the way can be one of the three, because the
query of a planned call and the categories are never empty.
-/

set_option autoImplicit false

namespace ToolRelay

/-- No number is written as an empty text. -/
theorem Template.number_ne_empty (n : Nat) : number n ≠ "" := by
  intro h
  obtain ⟨c, r, hcons, -⟩ := Decimal.exists_ofNat_eq_cons n
  have hchars := congrArg String.toList h
  rw [number, String.toList_ofList, hcons] at hchars
  exact absurd hchars (List.cons_ne_nil c r)

/-! ## Putting a request together -/

namespace SearchRequest

/-- The keys of the parameters. -/
def keys (r : SearchRequest) : List String :=
  r.query.map Prod.fst

/-- A value that is not empty is put behind the others. -/
theorem param_of_ne (r : SearchRequest) (key : String) {value : String} (h : value ≠ "") :
    r.param key value = { r with query := r.query ++ [(key, value)] } :=
  if_neg h

/-- A value that is not empty is there. -/
theorem mem_param (r : SearchRequest) (key : String) {value : String} (h : value ≠ "") :
    (key, value) ∈ (r.param key value).query := by
  rw [param_of_ne r key h]
  exact List.mem_append_right _ List.mem_cons_self

/-- A parameter takes none away. -/
theorem subset_param (r : SearchRequest) (key value : String) :
    r.query ⊆ (r.param key value).query := by
  by_cases h : value = ""
  · rw [h]
    exact List.Subset.refl _
  · rw [param_of_ne r key h]
    exact List.subset_append_left _ _

/-- A parameter is the new one or was there before. -/
theorem mem_or_eq_of_mem_param {r : SearchRequest} {key value : String} {e : String × String}
    (h : e ∈ (r.param key value).query) : e ∈ r.query ∨ e = (key, value) := by
  by_cases hvalue : value = ""
  · rw [hvalue] at h
    exact .inl h
  · rw [param_of_ne r key hvalue] at h
    rcases List.mem_append.1 h with h | h
    · exact .inl h
    · exact .inr (List.mem_singleton.1 h)

/-- One more parameter has at most one more key. -/
theorem keys_param {r : SearchRequest} {taken : List String} (h : r.keys ⊆ taken)
    (key value : String) : (r.param key value).keys ⊆ taken ++ [key] := by
  intro other hother
  obtain ⟨e, he, rfl⟩ := List.mem_map.1 hother
  rcases mem_or_eq_of_mem_param he with he | rfl
  · exact List.mem_append_left _ (h (List.mem_map_of_mem he))
  · exact List.mem_append_right _ List.mem_cons_self

/-- A parameter that may be missing has at most one more key. -/
theorem keys_paramOpt {r : SearchRequest} {taken : List String} (h : r.keys ⊆ taken)
    (key : String) (value : Option String) : (r.paramOpt key value).keys ⊆ taken ++ [key] := by
  cases value with
  | none => exact fun other hother => List.mem_append_left _ (h hother)
  | some value => exact keys_param h key value

/-- Whether a request is a search in JSON for words with a query in them: with a category, no key
twice and no value empty. -/
structure Asks (r : SearchRequest) (query : String) : Prop where
  path : r.path = "/search"
  distinct : r.keys.Nodup
  filled : ∀ e ∈ r.query, e.2 ≠ ""
  format : ("format", "json") ∈ r.query
  words : ∃ q, ("q", q) ∈ r.query ∧ query.toList <:+: q.toList
  categories : ∃ c, ("categories", c) ∈ r.query

namespace Asks

variable {r : SearchRequest} {query : String}

/-- A further parameter leaves a search well formed if its key is not taken. -/
theorem param (h : r.Asks query) {taken : List String} (htaken : r.keys ⊆ taken) {key : String}
    (hkey : key ∉ taken) (value : String) : (r.param key value).Asks query := by
  by_cases hvalue : value = ""
  · rwa [hvalue]
  have hsub := r.subset_param key value
  obtain ⟨q, hq, hwithin⟩ := h.words
  obtain ⟨c, hc⟩ := h.categories
  refine ⟨?_, ?_, ?_, hsub h.format, ⟨q, hsub hq, hwithin⟩, c, hsub hc⟩
  · rw [param_of_ne r key hvalue]
    exact h.path
  · rw [param_of_ne r key hvalue, keys, List.map_append, List.map_singleton,
      ← List.concat_eq_append, List.nodup_concat]
    exact ⟨fun hmem => hkey (htaken hmem), h.distinct⟩
  · intro e he
    rcases mem_or_eq_of_mem_param he with he | rfl
    · exact h.filled e he
    · exact hvalue

/-- A request goes on asking for its query with a parameter of a new key, if there is a value. -/
theorem paramOpt (h : r.Asks query) {taken : List String} (htaken : r.keys ⊆ taken) {key : String}
    (hkey : key ∉ taken) (value : Option String) : (r.paramOpt key value).Asks query := by
  cases value with
  | none => exact h
  | some value => exact h.param htaken hkey value

end Asks

/-- Whether a request says how a search of the web is narrowed. -/
structure Narrows (r : SearchRequest) : Prop where
  level : ∃ n ≤ 2, ("safesearch", Template.number n) ∈ r.query
  page : ∃ n, 1 ≤ n ∧ n ≤ Width.bits32.bound ∧ ("pageno", Template.number n) ∈ r.query
  range : ∀ word, ("time_range", word) ∈ r.query → word ∈ ["day", "week", "month", "year"]

end SearchRequest

/-! ## The searches -/

/-- The text of an argument that is supplied is not empty. -/
theorem Parameter.ne_empty_of_read {p : Parameter String} {args : Dict Json} {s : String}
    (hkind : p.kind = .text) (hfallback : p.fallback ≠ some "")
    (hsupplied : ∀ key, args.get? key ≠ some (.str "")) (h : p.read args = .ok s) : s ≠ "" := by
  rintro rfl
  rcases read_eq_ok_iff.1 h with ⟨v, hv, hdecode⟩ | ⟨-, hsome⟩
  · rw [hkind] at hdecode
    rw [Kind.decode_text_eq_ok_iff.1 hdecode] at hv
    exact hsupplied _ hv
  · exact hfallback hsome

/-- A number that is read lies under the bound of its width. -/
theorem Parameter.le_bound_of_read {p : Parameter Nat} {width : Width} {args : Dict Json} {n : Nat}
    (hkind : p.kind = .natural width) (hfallback : ∀ m, p.fallback = some m → m ≤ width.bound)
    (h : p.read args = .ok n) : n ≤ width.bound := by
  rcases read_eq_ok_iff.1 h with ⟨v, -, hdecode⟩ | ⟨-, hsome⟩
  · rw [hkind] at hdecode
    exact (Kind.decode_natural_eq_ok_iff.1 hdecode).1
  · exact hfallback n hsome

/-- A plan for a search: its request, the query that the answer repeats, and a limit. -/
structure Plan.SearchesFor (plan : Plan) (r : SearchRequest) (query : String) : Prop where
  request : plan.request = .search r
  asks : r.Asks query
  query : plan.query = query
  limit : ∃ n, plan.limit = some n ∧ 1 ≤ n

namespace Searxng

/-- A plan for records searches with the request that it is made of. -/
theorem searchesFor_recordsPlan {r : SearchRequest} {query : String} (h : r.Asks query)
    (maxResults : Nat) (template : Template) :
    (recordsPlan r maxResults template query).SearchesFor r query where
  request := rfl
  asks := h
  query := rfl
  limit := by
    refine ⟨_, rfl, ?_⟩
    unfold defaultMaxResults
    split
    · decide
    · omega

/-- A text with another in it is not empty if that is not. -/
theorem ne_empty_of_within {query q : String} (hquery : query ≠ "")
    (hwithin : query.toList <:+: q.toList) : q ≠ "" := by
  rintro rfl
  have hnil : query.toList = [] := List.infix_nil.1 hwithin
  exact hquery (String.toList_inj.1 hnil)

/-- The request of a search in a category. -/
theorem searchRequest_eq {q c : String} (hq : q ≠ "") (hc : c ≠ "") :
    (searchRequest q).param "categories" c =
      ⟨"/search", [("q", q), ("format", "json"), ("categories", c)]⟩ := by
  rw [searchRequest, SearchRequest.param_of_ne _ _ hc, SearchRequest.param_of_ne _ _ (by decide),
    SearchRequest.param_of_ne _ _ hq]
  rfl

/-- The request of a search in a category has three keys at most. -/
theorem keys_searchRequest (q c : String) :
    ((searchRequest q).param "categories" c).keys ⊆ ["q", "format", "categories"] := by
  have hnone : (SearchRequest.ofPath "/search").keys ⊆ [] := List.nil_subset _
  have hq := SearchRequest.keys_param hnone "q" q
  exact SearchRequest.keys_param (SearchRequest.keys_param hq "format" "json") "categories" c

/-- What all searches begin with is a search already. -/
theorem asks_searchRequest {query q c : String} (hquery : query ≠ "")
    (hwithin : query.toList <:+: q.toList) (hc : c ≠ "") :
    ((searchRequest q).param "categories" c).Asks query := by
  have hq := ne_empty_of_within hquery hwithin
  rw [searchRequest_eq hq hc]
  refine ⟨rfl, ?_, ?_, ?_, ⟨q, ?_, hwithin⟩, c, ?_⟩
  · exact (by decide : ["q", "format", "categories"].Nodup)
  · simpa using ⟨hq, hc⟩
  all_goals simp

/-- A text stands in what ends with it. -/
theorem infix_behind (front query : String) : query.toList <:+: (front ++ query).toList := by
  rw [String.toList_append]
  exact (List.suffix_append _ _).isInfix

/-- A text stands in what begins with it. -/
theorem infix_before (query back : String) : query.toList <:+: (query ++ back).toList := by
  rw [String.toList_append]
  exact (List.prefix_append _ _).isInfix

/-- A search of the web is narrowed by four more parameters, each under a key of its own. -/
theorem search_narrows {query categories : String} (hquery : query ≠ "")
    (hcategories : categories ≠ "") (language : String) (timeRange : Option TimeRange)
    {level page : Nat} (hlevel : level ≤ 2) (hpage : 1 ≤ page)
    (hbound : page ≤ Width.bits32.bound) {r : SearchRequest}
    (hr : r = (((((searchRequest query).param "categories" categories).param "language"
      language).paramOpt "time_range" (timeRange.map TimeRange.word)).param
        "safesearch" (Template.number level)).param "pageno" (Template.number page)) :
    r.Asks query ∧ r.Narrows := by
  subst hr
  have hasks := asks_searchRequest hquery (List.infix_refl query.toList) hcategories
  have hkeys := keys_searchRequest query categories
  generalize (searchRequest query).param "categories" categories = r at hasks hkeys
  have hlanguage := SearchRequest.keys_param hkeys "language" language
  have hrange := SearchRequest.keys_paramOpt hlanguage "time_range" (timeRange.map TimeRange.word)
  have hsafe := SearchRequest.keys_param hrange "safesearch" (Template.number level)
  have htime : "time_range" ∉ ["q", "format", "categories"] ++ ["language"] := by decide
  constructor
  · have hasks₁ := hasks.param hkeys (show "language" ∉ _ by decide) language
    have hasks₂ := hasks₁.paramOpt hlanguage htime (timeRange.map TimeRange.word)
    have hasks₃ := hasks₂.param hrange (show "safesearch" ∉ _ by decide) (Template.number level)
    exact hasks₃.param hsafe (by decide) (Template.number page)
  refine ⟨⟨level, hlevel, ?_⟩, ⟨page, hpage, hbound, ?_⟩, ?_⟩
  · apply SearchRequest.subset_param
    exact SearchRequest.mem_param _ _ (Template.number_ne_empty _)
  · exact SearchRequest.mem_param _ _ (Template.number_ne_empty _)
  · intro word hword
    -- only the parameter itself can have put its key there
    have hword₁ := (SearchRequest.mem_or_eq_of_mem_param hword).resolve_right (by simp)
    have hword₂ := (SearchRequest.mem_or_eq_of_mem_param hword₁).resolve_right (by simp)
    have hfree : ("time_range", word) ∉ (r.param "language" language).query := fun hmem =>
      htime (hlanguage (List.mem_map_of_mem hmem))
    cases timeRange with
    | none => exact absurd hword₂ hfree
    | some range =>
      obtain rfl : word = range.word :=
        congrArg Prod.snd ((SearchRequest.mem_or_eq_of_mem_param hword₂).resolve_left hfree)
      cases range <;> decide

section

variable {args : Dict Json} (hsupplied : ∀ key, args.get? key ≠ some (.str ""))

include hsupplied

/-- The query that is read is the text under its name, and is not empty. -/
theorem query_of_read {β : Type} {description query : String} {rest : Signature β} {y : β}
    (h : (Signature.required "query" .text description rest).read args = .ok (query, y)) :
    args.get? "query" = some (.str query) ∧ query ≠ "" := by
  have hquery := (Signature.text_of_read h).1
  refine ⟨hquery, ?_⟩
  rintro rfl
  exact hsupplied "query" hquery

/-- A search that fixes the category sends the query with words around it. -/
theorem exists_search_of_category {name : String} (hname : name ≠ "search") {β : Type}
    {description query : String} {rest : Signature β} {y : β}
    (h : (Signature.required "query" .text description rest).read args = .ok (query, y))
    {q c : String} (hwithin : query.toList <:+: q.toList) (hc : c ≠ "") (maxResults : Nat)
    (template : Template) :
    ∃ query' r, args.get? "query" = some (.str query') ∧
      (recordsPlan ((searchRequest q).param "categories" c) maxResults template query).SearchesFor
        r query' ∧ (name = "search" → r.Narrows) := by
  obtain ⟨hquery, hne⟩ := query_of_read hsupplied h
  have hasks := asks_searchRequest hne hwithin hc
  refine ⟨query, _, hquery, searchesFor_recordsPlan hasks maxResults template, ?_⟩
  intro heq
  exact absurd heq hname

/-- What a search plans for arguments without empty texts. -/
theorem exists_search_of_planObject {p : Profile} (hp : p = .searxng) {op : Operation}
    (hop : op ∈ p.operations) {plan : Plan} (h : op.planObject args = .ok plan) :
    ∃ query r, args.get? "query" = some (.str query) ∧ plan.SearchesFor r query ∧
      (op.name = "search" → r.Narrows) := by
  obtain ⟨x, hdecode, hplan⟩ := Operation.planObject_eq_ok_iff.1 h
  have hread := Signature.read_of_decode hdecode
  cases p, op, hop using Profile.operation_cases
  case search =>
    obtain ⟨query, categories, language, timeRange, level, pageno, maxResults, ⟨⟩⟩ := x
    obtain ⟨hquery, hne⟩ := query_of_read hsupplied hread
    have hrest := (Signature.text_of_read hread).2
    simp only [Signature.withDefault, Signature.read_cons_eq_ok_iff] at hrest
    obtain ⟨hcategories, -, -, -, hpageno, -⟩ := hrest
    have hcategories' := Parameter.ne_empty_of_read rfl (by decide) hsupplied hcategories
    have hbound := Parameter.le_bound_of_read rfl (by decide) hpageno
    simp only [search] at hplan
    split at hplan
    · cases hplan
    · next hlevel =>
      cases hplan
      obtain ⟨hasks, hnarrows⟩ := search_narrows hne hcategories' language timeRange
        (Nat.not_lt.1 hlevel) (Nat.le_max_right pageno 1) (Nat.max_le.2 ⟨hbound, by decide⟩) rfl
      exact ⟨query, _, hquery, searchesFor_recordsPlan hasks _ _, fun _ => hnarrows⟩
  case searchNews =>
    obtain ⟨query, timeRange, maxResults, ⟨⟩⟩ := x
    obtain ⟨hquery, hne⟩ := query_of_read hsupplied hread
    cases hplan
    have hasks := asks_searchRequest hne (List.infix_refl _) (show "news" ≠ "" by decide)
    have hranged := hasks.param (keys_searchRequest query "news")
      (show "time_range" ∉ _ by decide) timeRange.word
    refine ⟨query, _, hquery, searchesFor_recordsPlan hranged _ _, ?_⟩
    intro hname
    exact absurd hname (by decide)
  case searchImages =>
    obtain ⟨query, maxResults, ⟨⟩⟩ := x
    cases hplan
    have hwithin := List.infix_refl query.toList
    exact exists_search_of_category hsupplied (by decide) hread hwithin (by decide) _ _
  case searchStackoverflow =>
    obtain ⟨query, maxResults, ⟨⟩⟩ := x
    cases hplan
    have hwithin := infix_behind "site:stackoverflow.com OR site:stackexchange.com " query
    exact exists_search_of_category hsupplied (by decide) hread hwithin (by decide) _ _
  case searchCode =>
    obtain ⟨query, language, maxResults, ⟨⟩⟩ := x
    cases hplan
    refine exists_search_of_category hsupplied (by decide) hread ?_ (by decide) _ _
    cases language with
    | none => exact List.infix_refl query.toList
    | some word => exact infix_behind (word ++ " ") query
  case searchDocs =>
    obtain ⟨query, framework, maxResults, ⟨⟩⟩ := x
    cases hplan
    refine exists_search_of_category hsupplied (by decide) hread ?_ (by decide) _ _
    cases framework with
    | none => exact infix_before query " documentation"
    | some word => exact (infix_behind (word ++ " ") query).trans (infix_before _ _)
  case searchPackages =>
    obtain ⟨query, registry, maxResults, ⟨⟩⟩ := x
    cases hplan
    have hwithin := infix_behind (registry.siteFilter ++ " ") query
    exact exists_search_of_category hsupplied (by decide) hread hwithin (by decide) _ _
  case searchGithub =>
    obtain ⟨query, scope, maxResults, ⟨⟩⟩ := x
    cases hplan
    have hwithin := infix_behind (scopeFilter scope ++ " ") query
    exact exists_search_of_category hsupplied (by decide) hread hwithin (by decide) _ _
  all_goals cases hp

end

end Searxng

/-- A call makes no request beside another. -/
theorem Call.requests_eq_of_mem {c : Call} {world : ExternalRequest → Outcome}
    {request : ExternalRequest} (h : request ∈ (c.run world).2) : (c.run world).2 = [request] := by
  cases c with
  | answered envelope => cases h
  | waiting request' answer =>
    obtain rfl := List.mem_singleton.1 h
    rfl

/-- **Every search that is sent is well formed.** A request that a call of a search makes is the one
planned for the arguments that are supplied; it asks for the query among them, which the answer
repeats as it is, and at least one record is to be shown. A search of the web is narrowed by a level
of filtering, a page, and perhaps a range of time. -/
theorem Dispatch.dispatched_search_well_formed {name : String} {args : Option (Dict Json)}
    {world : ExternalRequest → Outcome} {request : ExternalRequest}
    (h : request ∈ ((call Profile.searxng.registry name args).run world).2) :
    ∃ spec plan query r,
      Planned Profile.searxng.registry name (dropUnsupplied (args.getD .empty)) spec plan ∧
        request = .search r ∧ (args.getD .empty).get? "query" = some (.str query) ∧
        plan.SearchesFor r query ∧ (name = "search" → r.Narrows) := by
  obtain ⟨spec, plan, hplanned, rfl⟩ := requests_eq_singleton_iff.1 (Call.requests_eq_of_mem h)
  obtain ⟨op, hop, rfl, rfl⟩ := Profile.exists_operation_of_lookup hplanned.registered
  -- what counts as supplied is no empty text
  have hsupplied : ∀ key, (dropUnsupplied (args.getD .empty)).get? key ≠ some (.str "") := by
    intro key hkey
    rw [get?_dropUnsupplied, Option.filter_eq_some_iff] at hkey
    exact absurd hkey.2 (by decide)
  obtain ⟨query, r, hquery, hsearches, hnarrows⟩ :=
    Searxng.exists_search_of_planObject hsupplied rfl hop hplanned.accepted
  rw [get?_dropUnsupplied, Option.filter_eq_some_iff] at hquery
  exact ⟨_, plan, query, r, hplanned, hsearches.request, hquery.1, hsearches, hnarrows⟩

/-- A search of the web with an empty language and page zero asks for the first page. -/
theorem Dispatch.dispatched_search_well_formed_first_page :
    ∃ (query : String) (r : SearchRequest),
      r.query = [("q", "cats"), ("format", "json"), ("categories", "general"), ("language", "auto"),
        ("safesearch", "2"), ("pageno", "1")] ∧
      r.Asks query ∧ r.Narrows := by
  have hrequest : ExternalRequest.search ⟨"/search", [("q", "cats"), ("format", "json"),
      ("categories", "general"), ("language", "auto"), ("safesearch", "2"), ("pageno", "1")]⟩ ∈
      ((call Profile.searxng.registry "search" (some (.ofList [("query", .str "cats"),
        ("language", .str ""), ("safesearch", .int 2), ("pageno", .int 0)]))).run
          fun _ => .error (.of "down")).2 :=
    List.mem_singleton.2 rfl
  obtain ⟨spec, plan, query, r, -, hr, -, hsearches, hnarrows⟩ :=
    dispatched_search_well_formed hrequest
  obtain rfl := ExternalRequest.search.inj hr
  exact ⟨query, _, rfl, hsearches.asks, hnarrows rfl⟩

end ToolRelay
