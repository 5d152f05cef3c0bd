import ToolRelay.Proofs.Replies

/-!
# Hits that are not kept take no place

The hits of a reply are decoded one by one, those that yield no record are dropped, the rest is cut
to the number that was asked for, and what is left is numbered. Since the hits are dropped first, the
text shows the first hits that are kept, as many as there are up to that number, and the others
cannot be told from it (`Dispatch.first_kept_hits_shown`). All of it rests on one fact: the records
are those of the kept hits, one for each (`Hit.map_record?_filter_kept`).
-/

set_option autoImplicit false

namespace ToolRelay

namespace Hit

/-- Whether a hit that stands alone yields a record. -/
def kept (v : Json) : Bool :=
  !(records [v]).isEmpty

/-- The hits that are kept are those with a record, in their order. -/
theorem map_record?_filter_kept (hits : List Json) :
    (hits.filter kept).map record? = (records hits).map some := by
  induction hits with
  | nil => rfl
  | cons v rest ih =>
    cases hrecord : record? v with
    | none =>
      have hkept : kept v = false := by simp [kept, records, hrecord]
      rw [List.filter_cons, hkept, records, List.filterMap_cons_none hrecord]
      exact ih
    | some r =>
      have hkept : kept v = true := by simp [kept, records, hrecord]
      rw [List.filter_cons, if_pos hkept, records, List.filterMap_cons_some hrecord, List.map_cons,
        List.map_cons, hrecord]
      exact congrArg (some r :: ·) ih

/-- There are as many records as hits that are kept. -/
theorem length_records (hits : List Json) :
    (records hits).length = (hits.filter kept).length := by
  have hlength := congrArg List.length (map_record?_filter_kept hits)
  rw [List.length_map, List.length_map] at hlength
  exact hlength.symm

/-- There is no record exactly if no hit is kept. -/
theorem records_eq_nil_iff (hits : List Json) :
    records hits = [] ↔ ∀ v ∈ hits, kept v = false := by
  rw [← List.length_eq_zero_iff, length_records, List.length_eq_zero_iff, List.filter_eq_nil_iff]
  simp

/-- The records depend on the hits that are kept only. -/
theorem records_congr {hits other : List Json} (h : other.filter kept = hits.filter kept) :
    records other = records hits := by
  have hsame : (records other).map some = (records hits).map some := by
    rw [← map_record?_filter_kept, ← map_record?_filter_kept, h]
  exact List.map_injective_iff.2 (Option.some_injective SearchRecord) hsame

end Hit

/-- Whether the outside answers a search with success and with a body that holds the hits. -/
inductive Outside.Finds (o : Outside) (c : Config) : ExternalRequest → List Json → Prop
  | intro {r : SearchRequest} {status : Nat} {body : List UInt8} {hits : List Json}
      (reply : o.reply (r.url c.searchUrl) = .answered status body)
      (success : Reply.isSuccess status = true) (holds : Reply.Holds body hits) :
      Outside.Finds o c (.search r) hits

/-- Hits that are found are answered with their records. -/
theorem Outside.Finds.answer {o : Outside} {c : Config} {request : ExternalRequest}
    {hits : List Json} (h : o.Finds c request hits) :
    o.answer c request = .ok (.records (Hit.records hits)) := by
  cases h with
  | @intro r status body hits hreply hsuccess hholds =>
    have hconclude : r.conclude c.searchUrl (.answered status body) = .ok (Hit.records hits) :=
      (r.conclude_eq_ok_iff _ _ _ _).2 ⟨hsuccess, hits, .inl hholds, rfl⟩
    rw [Outside.answer, hreply, hconclude]
    rfl

namespace Template

/-- The text for some records: a sentence where there are none, and otherwise a block for each,
numbered from one on. -/
def Layout.text (l : Layout) (query : String) (records : List SearchRecord) : String :=
  if records = [] then l.nothing ++ ": " ++ inQuotes query
  else "## " ++ l.heading ++ " for: " ++ inQuotes query ++ "\n\n" ++
    String.join ((records.zipIdx 1).map fun (r, index) => l.block index r)

/-- A layout renders records as its text. -/
theorem render_eq_text (l : Layout) (query : String) (records : List SearchRecord) :
    l.render query records = l.text query records := by
  unfold Layout.render Layout.text
  rw [blocks_eq_join]
  cases records <;> rfl

/-- A record is laid out below a line with its number and its title. -/
theorem exists_lines_eq_cons (l : Layout) (index : Nat) (r : SearchRecord) :
    ∃ rest, l.lines index r =
      ("### " ++ number index ++ ". " ++ (present r.title).getD "No title") :: rest := by
  unfold Layout.lines
  by_cases himage : l.image = true
  · rw [if_pos himage]
    exact ⟨_, rfl⟩
  · rw [if_neg himage]
    exact ⟨_, rfl⟩

/-- The block of a record begins with its number. -/
theorem prefix_block (l : Layout) (index : Nat) (r : SearchRecord) :
    ("### " ++ number index ++ ". ").toList <+: (l.block index r).toList := by
  obtain ⟨rest, hlines⟩ := exists_lines_eq_cons l index r
  rw [Layout.block, hlines, List.map_cons, String.join_cons]
  simp [String.toList_append]

end Template

namespace Dispatch

open Searxng

/-- **The first kept hits are shown.** A planned search that is answered with hits has a text with a
block for each of the first hits that are kept, in their order and numbered from one on, as many as
were asked for if there are so many. It is the sentence for no results exactly when no hit is kept.
Hits that are not kept can be put in or left out anywhere in the reply without a change. -/
theorem first_kept_hits_shown {name : String} {args : Option (Dict Json)} {spec : Spec} {plan : Plan}
    (hplanned : Planned Profile.searxng.registry name (dropUnsupplied (args.getD .empty)) spec plan)
    {o : Outside} {c : Config} {hits : List Json} (hfinds : o.Finds c plan.request hits) :
    ∃ l query records,
      plan.template.layout? = some l ∧ (args.getD .empty).get? "query" = some (.str query) ∧
      records.map some =
        ((hits.filter Hit.kept).take (maxResults (args.getD .empty))).map Hit.record? ∧
      records.length = min (maxResults (args.getD .empty)) (hits.filter Hit.kept).length ∧
      ((call Profile.searxng.registry name args).run (o.answer c)).1 =
        ⟨l.text query records, false⟩ ∧
      (∀ index r, ("### " ++ Template.number index ++ ". ").toList <+: (l.block index r).toList) ∧
      (plan.template.noResults? plan.query =
          some ((call Profile.searxng.registry name args).run (o.answer c)).1.text ↔
        ∀ v ∈ hits, Hit.kept v = false) ∧
      ∀ (o' : Outside) (c' : Config) hits', o'.Finds c' plan.request hits' →
        hits'.filter Hit.kept = hits.filter Hit.kept →
        (call Profile.searxng.registry name args).run (o'.answer c') =
          (call Profile.searxng.registry name args).run (o.answer c) := by
  obtain ⟨r, l, query, hshows, hlabel⟩ := exists_shows_of_planned hplanned
  have hanswer := hfinds.answer
  rw [hshows.request] at hanswer
  refine ⟨l, query, (Hit.records hits).take (maxResults (args.getD .empty)), hshows.layout,
    hshows.given, ?_, ?_, ?_, Template.prefix_block l, ?_, ?_⟩
  · rw [List.map_take, List.map_take, Hit.map_record?_filter_kept]
  · rw [List.length_take, Hit.length_records]
  · rw [run_of_records hplanned hshows hanswer, Template.render_eq_text]
  · have houtcome : o.answer c (.search r) =
        (.ok (Hit.records hits) : Except Failure (List SearchRecord)).map .records := hanswer
    rw [noResults_iff hplanned hshows hlabel houtcome, Except.ok.injEq, Hit.records_eq_nil_iff]
  · intro o' c' hits' hfinds' hsame
    rw [run_of_planned _ hplanned, run_of_planned _ hplanned, hfinds'.answer, hfinds.answer,
      Hit.records_congr hsame]

/-- The octets of a reply in which hits that are not kept stand before and between the others. -/
def mixedOctets : List UInt8 :=
  "\x7b\"results\":[5,\x7b\"url\":\"a\"\x7d,\x7b\"url\":\" \"\x7d,\x7b\"url\":\"b\"\x7d,\x7b\"url\":\"c\"\x7d]\x7d".toUTF8.toList

/-- The part of it that is the array. -/
def mixedPart : Json.Raw :=
  .array (.number ⟨false, ['5'], none, none⟩ :: ["a", " ", "b", "c"].map fun url =>
    .object [("url".toList.map some, .string (url.toList.map some))])

/-- The hits in it. -/
def mixedHits : List Json :=
  .int 5 :: ["a", " ", "b", "c"].map fun url => .obj [("url", .str url)]

/-- These octets hold these hits. -/
theorem holds_mixedOctets : Reply.Holds mixedOctets mixedHits := by
  have hshape : Json.Raw.ofMarks? (Text.Utf8.chunks mixedOctets) =
      some (.object [("results".toList.map some, mixedPart)]) := by cbv
  have hread : (Json.Raw.object [("results".toList.map some, mixedPart)]).toJson? Json.maxDepth =
      some (.ofDict (.ofList [("results", .arr mixedHits)])) := by cbv
  exact Reply.holds_of_toJson? hshape hread (by cbv) rfl

/-- The outside where every search is answered so. -/
def mixedOutside : Outside :=
  ⟨fun _ => .started .endless, fun _ => .answered 200 mixedOctets⟩

/-- Of the three hits that are kept there, the first two are shown. -/
theorem first_kept_hits_shown_mixed :
    ((call Profile.searxng.registry "search_stackoverflow"
      (some (.ofList [("query", .str "x"), ("max_results", .int 2)]))).run
        (mixedOutside.answer Config.usual)).1 =
      ⟨"## Stack Overflow Results for: \"x\"\n\n### 1. No title\n**URL:** a\n\n### 2. No title\n**URL:** b\n\n",
        false⟩ := by
  have hplanned : Planned Profile.searxng.registry "search_stackoverflow"
      (dropUnsupplied (.ofList [("query", .str "x"), ("max_results", .int 2)]))
      Searxng.searchStackoverflow.spec (recordsPlan ((searchRequest
        "site:stackoverflow.com OR site:stackexchange.com x").param "categories" "general") 2
          .stackOverflow "x") := ⟨rfl, by decide, rfl⟩
  have hsendable : ((((searchRequest "site:stackoverflow.com OR site:stackexchange.com x").param
      "categories" "general").url Config.usual.searchUrl).isSendable) = true := by decide +kernel
  have hreply : mixedOutside.reply (((searchRequest
      "site:stackoverflow.com OR site:stackexchange.com x").param "categories" "general").url
        Config.usual.searchUrl) = .answered 200 mixedOctets := if_pos hsendable
  obtain ⟨l, query, records, hl, hquery, hrecords, -, hanswer, -⟩ :=
    @first_kept_hits_shown _ (some (.ofList [("query", .str "x"), ("max_results", .int 2)])) _ _
      hplanned _ _ _ (.intro hreply rfl holds_mixedOctets)
  cases hl
  cases hquery
  have hshown : records = [⟨none, "a", none, none, none, none, none⟩,
      ⟨none, "b", none, none, none, none, none⟩] :=
    List.map_injective_iff.2 (Option.some_injective SearchRecord) (hrecords.trans (by rfl))
  rw [hanswer, hshown]
  decide +kernel

end Dispatch
end ToolRelay
