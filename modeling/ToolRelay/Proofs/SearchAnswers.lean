import ToolRelay.Proofs.ResultCount
import ToolRelay.Proofs.SearchRequests

/-!
# What a search is answered with

Eight operations plan searches, each for a template of its own. What they have in common is said by
`Searxng.Shows`: the request, the layout, the query that the answer repeats, and how many records it
shows. A planned search with records is answered with the text of the first of them, and one that
failed with the message behind the label, which is never the sentence for no results.
-/

set_option autoImplicit false

namespace ToolRelay

open Dispatch

/-! ## Layouts -/

/-- The templates for records are those with a layout. -/
theorem Template.exists_layout_iff (t : Template) :
    (∃ l, t.layout? = some l) ↔ t.readsOutput = false := by
  cases t with
  | gitHub scope => cases scope <;> simp [layout?, readsOutput]
  | _ => simp [layout?, readsOutput]

/-- The sentence for no records is the text of no other records. -/
theorem Template.render_eq_nothing_iff {t : Template} {l : Layout} (h : t.layout? = some l)
    (query : String) (rs : List SearchRecord) :
    l.render query rs = l.nothing ++ ": " ++ inQuotes query ↔ rs = [] :=
  listing_eq_nothing_iff (heading_ne_nothing h query) rs

/-- The blocks of records are joined, each with its number. -/
theorem Template.blocks_eq_join (l : Layout) (index : Nat) (rs : List SearchRecord) :
    l.blocks index rs = String.join ((rs.zipIdx index).map fun (r, i) => l.block i r) := by
  induction rs generalizing index with
  | nil => rfl
  | cons r rs ih => rw [Layout.blocks, ih, List.zipIdx_cons, List.map_cons, String.join_cons]

/-! ## Planned searches -/

namespace Searxng

/-- How many records the arguments of a search ask for. -/
def maxResults (args : Dict Json) : Nat :=
  args.countOr "max_results" defaultMaxResults

/-- What a planned search with these arguments asks for and shows. -/
structure Shows (args : Dict Json) (plan : Plan) (r : SearchRequest) (l : Template.Layout)
    (query : String) : Prop where
  request : plan.request = .search r
  layout : plan.template.layout? = some l
  given : args.get? "query" = some (.str query)
  query : plan.query = query
  limit : plan.limit = some (maxResults args)
  positive : 1 ≤ maxResults args

/-- A plan for records is limited to the number that is asked for. -/
theorem limit_of_withMaxResults {args : Dict Json} {n : Nat}
    (h : withMaxResults.read args = .ok (n, ())) (request : SearchRequest) (template : Template)
    (query : String) : (recordsPlan request n template query).limit = some (maxResults args) := by
  have hread := ((Signature.read_cons_eq_ok_iff _ _ _ _ _).1 h).1
  have hcount := Parameter.countOr_of_read rfl rfl hread
  exact congrArg some hcount.symm

/-- What is read of several parameters is read of the later ones. -/
theorem rest_of_read {α β : Type} {p : Parameter α} {rest : Signature β} {args : Dict Json} {x : α}
    {y : β} (h : (Signature.cons p rest).read args = .ok (x, y)) : rest.read args = .ok y :=
  ((Signature.read_cons_eq_ok_iff p rest args x y).1 h).2

/-- Every search is limited to the number that is asked for. -/
theorem limit_of_planObject {p : Profile} (hp : p = .searxng) {op : Operation}
    (hop : op ∈ p.operations) {args : Dict Json} {plan : Plan}
    (h : op.planObject args = .ok plan) : plan.limit = some (maxResults args) := by
  obtain ⟨x, hdecode, hplan⟩ := Operation.planObject_eq_ok_iff.1 h
  have hread := Signature.read_of_decode hdecode
  -- the number of results is the last parameter of each
  cases p, op, hop using Profile.operation_cases
  case search =>
    obtain ⟨query, categories, language, timeRange, level, pageno, n, ⟨⟩⟩ := x
    have hlast := rest_of_read (rest_of_read (rest_of_read (rest_of_read (rest_of_read hread))))
    simp only [search] at hplan
    split at hplan
    · cases hplan
    · cases hplan
      exact limit_of_withMaxResults (rest_of_read hlast) _ _ _
  case searchImages | searchStackoverflow =>
    obtain ⟨query, n, ⟨⟩⟩ := x
    cases hplan
    exact limit_of_withMaxResults (rest_of_read hread) _ _ _
  case searchNews | searchCode | searchDocs | searchPackages | searchGithub =>
    obtain ⟨query, choice, n, ⟨⟩⟩ := x
    cases hplan
    exact limit_of_withMaxResults (rest_of_read (rest_of_read hread)) _ _ _
  all_goals cases hp

/-- All searches have one label for errors. -/
theorem errorLabel_of_mem {op : Operation} (hop : op ∈ Profile.searxng.operations) :
    op.errorLabel = errorLabel := by
  simp only [Profile.operations, operations, List.mem_cons, List.not_mem_nil, or_false] at hop
  rcases hop with rfl | rfl | rfl | rfl | rfl | rfl | rfl | rfl <;> rfl

/-- What a planned search does, for the arguments that count as supplied. -/
theorem exists_shows_of_planned {name : String} {args : Dict Json} {spec : Spec} {plan : Plan}
    (h : Planned Profile.searxng.registry name (dropUnsupplied args) spec plan) :
    ∃ r l query, Shows args plan r l query ∧ spec.errorLabel = errorLabel := by
  obtain ⟨op, hop, rfl, rfl⟩ := Profile.exists_operation_of_lookup h.registered
  have hsupplied : ∀ key, (dropUnsupplied args).get? key ≠ some (.str "") := by
    intro key hkey
    rw [get?_dropUnsupplied, Option.filter_eq_some_iff] at hkey
    exact absurd hkey.2 (by decide)
  obtain ⟨query, r, hquery, hsearches, -⟩ :=
    exists_search_of_planObject hsupplied rfl hop h.accepted
  rw [get?_dropUnsupplied, Option.filter_eq_some_iff] at hquery
  -- a template that suits a search has a layout
  obtain ⟨x, -, hx⟩ := Operation.planObject_eq_ok_iff.1 h.accepted
  have hsuits := Operation.suits_of_plan hop hx
  rw [hsearches.request] at hsuits
  obtain ⟨l, hl⟩ := plan.template.exists_layout_iff.2 hsuits
  have hlimit := limit_of_planObject rfl hop h.accepted
  rw [maxResults, Dict.countOr_dropUnsupplied, ← maxResults] at hlimit
  obtain ⟨n, hn, hpositive⟩ := hsearches.limit
  obtain rfl := Option.some.inj (hlimit.symm.trans hn)
  exact ⟨r, l, query, ⟨hsearches.request, hl, hquery.1, hsearches.query, hlimit, hpositive⟩,
    errorLabel_of_mem hop⟩

/-! ## Answers -/

section

variable {name : String} {args : Option (Dict Json)} {spec : Spec} {plan : Plan} {r : SearchRequest}
  {l : Template.Layout} {query : String} {world : ExternalRequest → Outcome}

/-- A search that finds records is answered with the first of them. -/
theorem run_of_records
    (hplanned : Planned Profile.searxng.registry name (dropUnsupplied (args.getD .empty)) spec plan)
    (hshows : Shows (args.getD .empty) plan r l query) {rs : List SearchRecord}
    (hworld : world (.search r) = .ok (.records rs)) :
    ((call Profile.searxng.registry name args).run world).1 =
      ⟨l.render query (rs.take (maxResults (args.getD .empty))), false⟩ := by
  have hrender : plan.template.render plan.query
      (Payload.truncate (maxResults (args.getD .empty)) (.records rs)) =
        .ok (l.render query (rs.take (maxResults (args.getD .empty)))) := by
    rw [Payload.truncate, Template.render, hshows.layout, hshows.query]
  rw [run_of_planned world hplanned, hshows.request, hworld, finish, hshows.limit]
  dsimp only
  rw [hrender]
  rfl

/-- A search that fails is answered with the label and the message. -/
theorem run_of_failure
    (hplanned : Planned Profile.searxng.registry name (dropUnsupplied (args.getD .empty)) spec plan)
    (hshows : Shows (args.getD .empty) plan r l query) (hlabel : spec.errorLabel = errorLabel)
    {failure : Failure} (hworld : world (.search r) = .error failure) :
    ((call Profile.searxng.registry name args).run world).1 =
      ⟨errorLabel ++ ": " ++ failure.message, true⟩ := by
  rw [run_of_planned world hplanned, hshows.request, hworld, hlabel]
  rfl

/-- What a search shows without results is the sentence of its layout with the query. -/
theorem Shows.noResults (hshows : Shows (args.getD .empty) plan r l query) :
    plan.template.noResults? plan.query = some (l.nothing ++ ": " ++ Template.inQuotes query) := by
  rw [Template.noResults?_of_layout hshows.layout, hshows.query]

/-- The sentence for no results is the answer to a search exactly when it succeeds without records:
no failure looks like it. -/
theorem noResults_iff
    (hplanned : Planned Profile.searxng.registry name (dropUnsupplied (args.getD .empty)) spec plan)
    (hshows : Shows (args.getD .empty) plan r l query) (hlabel : spec.errorLabel = errorLabel)
    {outcome : Except Failure (List SearchRecord)}
    (hworld : world (.search r) = outcome.map .records) :
    plan.template.noResults? plan.query =
        some ((call Profile.searxng.registry name args).run world).1.text ↔ outcome = .ok [] := by
  rw [hshows.noResults, Option.some.injEq]
  cases outcome with
  | ok rs =>
    rw [run_of_records hplanned hshows hworld, eq_comm,
      Template.render_eq_nothing_iff hshows.layout, List.take_eq_nil_iff]
    have hpositive := hshows.positive
    constructor
    · rintro (hzero | rfl)
      · omega
      · rfl
    · intro h
      exact .inr (Except.ok.inj h)
  | error failure =>
    rw [run_of_failure hplanned hshows hlabel hworld]
    refine iff_of_false ?_ nofun
    intro heq
    have hhead := congrArg (fun s : String => s.toList.head?) heq
    have hnothing := Template.head?_nothing hshows.layout
    simp [String.toList_append, List.head?_append, hnothing, errorLabel] at hhead

end

end Searxng
end ToolRelay
