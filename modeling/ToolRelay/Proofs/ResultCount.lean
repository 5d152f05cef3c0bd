import ToolRelay.Proofs.Dispatching
import ToolRelay.Proofs.Lines
import ToolRelay.Proofs.SearchAddress

/-!
# More results

Whoever asks for more results gets the same answer with more behind it. Records and lines are cut
at their end, and both are worded one by one behind a heading that does not tell how many there are;
so the text for fewer is the beginning of the text for more, unless there is nothing to word
(`Template.prefix_render_truncate`). Arguments that differ only in how much they ask for come to
plans that differ in the limit and in the request (`Operation.recounted`).
-/

set_option autoImplicit false

namespace ToolRelay

/-! ## Texts that list something -/

namespace Template

/-- A text for a list: a sentence for the empty list, and otherwise a heading and what is said of
the items, numbered from one on. -/
def listing {α : Type} (nothing heading : String) (body : Nat → List α → String)
    (l : List α) : String :=
  if l.isEmpty then nothing else heading ++ body 1 l

section

variable {α : Type} {nothing heading : String} {body : Nat → List α → String}

/-- A text is the beginning of itself with more behind. -/
theorem prefix_append (s t : String) : s.toList <+: (s ++ t).toList := by
  rw [String.toList_append]
  exact List.prefix_append _ _

/-- A list with more behind it has a text with more behind it. -/
theorem prefix_listing
    (hbody : ∀ index l r, body index (l ++ r) = body index l ++ body (index + l.length) r)
    {l m : List α} (h : l <+: m) :
    (listing nothing heading body l).toList <+: (listing nothing heading body m).toList ∨
      listing nothing heading body l = nothing := by
  cases l with
  | nil => exact .inr rfl
  | cons x xs =>
    left
    obtain ⟨rest, rfl⟩ := h
    rw [listing, listing, List.cons_append, if_neg (by simp), if_neg (by simp),
      ← List.cons_append, hbody, ← String.append_assoc]
    exact prefix_append _ _

/-- A listing is the sentence for no results exactly if there are none. -/
theorem listing_eq_nothing_iff (hheading : ∀ rest, heading ++ rest ≠ nothing) (l : List α) :
    listing nothing heading body l = nothing ↔ l = [] := by
  cases l with
  | nil => exact iff_of_true rfl rfl
  | cons x xs => exact iff_of_false (hheading _) (List.cons_ne_nil x xs)

end

/-- The words that begin the sentence for no results, where a template has such a sentence. -/
def nothing? (t : Template) : Option String :=
  match t.layout?, t with
  | some l, _ => some l.nothing
  | none, .commitSearch => some "No matches found for"
  | none, .fileHistory => some "No history found for file"
  | none, _ => none

/-- The sentence for no results. -/
def noResults? (t : Template) (query : String) : Option String :=
  t.nothing?.map fun nothing => nothing ++ ": " ++ inQuotes query

/-! ### Records -/

/-- Further records go on with the numbers. -/
theorem blocks_append (l : Layout) (index : Nat) (rs rest : List SearchRecord) :
    l.blocks index (rs ++ rest) = l.blocks index rs ++ l.blocks (index + rs.length) rest := by
  induction rs generalizing index with
  | nil => exact String.empty_append.symm
  | cons r rs ih =>
    have hindex : index + 1 + rs.length = index + (r :: rs).length := by
      rw [List.length_cons]
      omega
    rw [List.cons_append, Layout.blocks, ih, hindex, Layout.blocks, String.append_assoc]

/-- A template with a layout has its sentence for no results. -/
theorem noResults?_of_layout {t : Template} {l : Layout} (h : t.layout? = some l) (query : String) :
    t.noResults? query = some (l.nothing ++ ": " ++ inQuotes query) := by
  unfold noResults? nothing?
  rw [h]
  rfl

/-- Fewer records have the beginning of the text of more. -/
theorem prefix_render (l : Layout) (query : String) {rs rest : List SearchRecord}
    (h : rs <+: rest) :
    (l.render query rs).toList <+: (l.render query rest).toList ∨
      l.render query rs = l.nothing ++ ": " ++ inQuotes query :=
  prefix_listing (blocks_append l) h

/-! ### Lines -/

/-- Further lines go on with the numbers. -/
theorem numbered_append (index : Nat) (ls rest : List (List Char)) :
    numbered index (ls ++ rest) = numbered index ls ++ numbered (index + ls.length) rest := by
  induction ls generalizing index with
  | nil => exact String.empty_append.symm
  | cons l ls ih =>
    have hindex : index + 1 + ls.length = index + (l :: ls).length := by
      rw [List.length_cons]
      omega
    rw [List.cons_append, numbered, ih, hindex, numbered]
    simp only [String.append_assoc]

/-- Lines are numbered without the white space at their ends. -/
theorem numbered_map_trimEnd (index : Nat) (ls : List (List Char)) :
    numbered index (ls.map Text.trimEnd) = numbered index ls := by
  induction ls generalizing index with
  | nil => rfl
  | cons l ls ih =>
    have htrim : Text.trimEnd (Text.trimEnd l) = Text.trimEnd l :=
      List.rdropWhile_idempotent Text.isBlank l
    rw [List.map_cons, numbered, numbered, htrim, ih]

/-- The text of a log is up to the entries in it. -/
theorem renderLog_eq_listing (nothing heading query stdout : String) :
    renderLog nothing heading query stdout =
      listing (nothing ++ ": " ++ inQuotes query)
        ("## " ++ heading ++ ": " ++ inQuotes query ++ "\n\n") numbered
        (Text.entries (Text.lines stdout.toList)) := by
  unfold renderLog listing Text.entries
  rw [List.isEmpty_map, numbered_map_trimEnd]

/-! ### Payloads that are cut -/

/-- Fewer lines have the beginning of the text of more. -/
theorem prefix_renderLog_leading (nothing heading query stdout : String) {m n : Nat}
    (hmn : m ≤ n) :
    (renderLog nothing heading query (Text.leading m stdout)).toList <+:
        (renderLog nothing heading query (Text.leading n stdout)).toList ∨
      renderLog nothing heading query (Text.leading m stdout) =
        nothing ++ ": " ++ inQuotes query := by
  simp only [renderLog_eq_listing, Text.entries_lines_leading]
  have htake : (Text.lines stdout.toList).take m <+: (Text.lines stdout.toList).take n :=
    List.take_prefix_take_left hmn
  exact prefix_listing numbered_append (Text.prefix_entries htake)

/-- The text of a payload that is cut to fewer items is the beginning of the text of the payload cut
to more, unless it is the sentence for no results. -/
theorem prefix_render_truncate {t : Template} (ht : t ≠ .scipIndex) {query : String}
    {payload : Payload} {m n : Nat} (hmn : m ≤ n) {s s' : String}
    (hs : t.render query (payload.truncate m) = .ok s)
    (hs' : t.render query (payload.truncate n) = .ok s') :
    s.toList <+: s'.toList ∨ t.noResults? query = some s := by
  cases payload with
  | records rs =>
    have htake : rs.take m <+: rs.take n := List.take_prefix_take_left hmn
    simp only [Payload.truncate, render] at hs hs'
    cases hlayout : t.layout? with
    | none =>
      rw [hlayout] at hs
      cases hs
    | some l =>
      simp only [hlayout, Except.ok.injEq] at hs hs'
      subst hs hs'
      rw [noResults?_of_layout hlayout]
      exact (prefix_render l query htake).imp_right fun h => congrArg some h.symm
  | output o =>
    cases t
    case commitSearch | fileHistory =>
      simp only [Payload.truncate, render, renderOutput?, Except.ok.injEq] at hs hs'
      subst hs hs'
      exact (prefix_renderLog_leading _ _ query o.stdout hmn).imp_right fun h =>
        congrArg some h.symm
    case scipIndex => exact absurd rfl ht
    -- the templates for records render no output
    all_goals cases hs

/-- All sentences for no results begin with the same letter. -/
theorem head?_nothing {t : Template} {l : Layout} (h : t.layout? = some l) :
    l.nothing.toList.head? = some 'N' := by
  cases t
  case gitHub scope => cases scope <;> cases h <;> rfl
  all_goals cases h
  all_goals rfl

/-- No heading begins like a sentence for no results. -/
theorem heading_ne_nothing {t : Template} {l : Layout} (h : t.layout? = some l) (query : String)
    (rest : String) :
    "## " ++ l.heading ++ " for: " ++ inQuotes query ++ "\n\n" ++ rest ≠
      l.nothing ++ ": " ++ inQuotes query := by
  intro heq
  have hchars := congrArg (fun s : String => s.toList.head?) heq
  simp [String.toList_append, List.head?_append, head?_nothing h] at hchars

/-- There are no results among some records only if there are none at all. -/
theorem noResults_of_le {t : Template} {query : String} {rs : List SearchRecord} {m n : Nat}
    (hm : 1 ≤ m) {s s' : String} (hs : t.render query ((Payload.records rs).truncate m) = .ok s)
    (hs' : t.render query ((Payload.records rs).truncate n) = .ok s')
    (h : t.noResults? query = some s) : t.noResults? query = some s' := by
  simp only [Payload.truncate, render] at hs hs'
  cases hlayout : t.layout? with
  | none =>
    rw [hlayout] at hs
    cases hs
  | some l =>
    simp only [hlayout, Except.ok.injEq] at hs hs'
    subst hs hs'
    rw [noResults?_of_layout hlayout, Option.some.injEq] at h ⊢
    have hnil : rs.take m = [] :=
      (listing_eq_nothing_iff (heading_ne_nothing hlayout query) _).1 h.symm
    have hrs : rs = [] := by
      rcases List.take_eq_nil_iff.1 hnil with hzero | hrs
      · omega
      · exact hrs
    rw [hrs, List.take_nil]
    rfl

end Template

/-! ## Arguments that differ in a count -/

/-- The argument that says how many results to show. -/
def Profile.countName? : Profile → Option String
  | .gitHistory => some "limit"
  | .scip => none
  | .searxng => some "max_results"

/-- Whether two argument objects are the same except that they ask for so many results each. -/
structure Dict.Recounted (key : String) (m n : Nat) (a b : Dict Json) : Prop where
  first : a.get? key = some (.int m)
  second : b.get? key = some (.int n)
  same : ∀ other, other ≠ key → a.get? other = b.get? other

namespace Signature

/-- Whether values are the same except that a parameter has one count and the other. -/
def Recounted (key : String) (m n : Nat) : {α : Type} → Signature α → α → α → Prop
  | _, .nil, _, _ => True
  | _, .cons p rest, (x, xs), (y, ys) =>
    ((p.name = key → p.kind.decode (.int m) = .ok x ∧ p.kind.decode (.int n) = .ok y) ∧
      (p.name ≠ key → x = y)) ∧ rest.Recounted key m n xs ys

/-- Arguments that differ in the count are read as values that do. -/
theorem recounted_of_read {α : Type} (sig : Signature α) {key : String} {m n : Nat}
    {a b : Dict Json} (h : Dict.Recounted key m n a b) {x y : α} (hx : sig.read a = .ok x)
    (hy : sig.read b = .ok y) : sig.Recounted key m n x y := by
  induction sig with
  | nil => trivial
  | cons p rest ih =>
    obtain ⟨x, xs⟩ := x
    obtain ⟨y, ys⟩ := y
    obtain ⟨hx, hxs⟩ := (read_cons_eq_ok_iff _ _ _ _ _).1 hx
    obtain ⟨hy, hys⟩ := (read_cons_eq_ok_iff _ _ _ _ _).1 hy
    refine ⟨⟨?_, ?_⟩, ih hxs hys⟩
    · rintro rfl
      rw [Parameter.read, h.first] at hx
      rw [Parameter.read, h.second] at hy
      exact ⟨hx, hy⟩
    · intro hname
      rw [p.read_congr (h.same p.name hname), hy] at hx
      exact (Except.ok.inj hx).symm

end Signature

/-- A number is decoded as itself. -/
theorem Kind.eq_of_decode_natural {width : Width} {m n : Nat}
    (h : (Kind.natural width).decode (.int m) = .ok n) : n = m := by
  obtain ⟨-, heq⟩ := decode_natural_eq_ok_iff.1 h
  exact (Int.ofNat.inj (Json.int.inj heq)).symm

/-- The number under a key of an argument object, or the fallback in place of nothing and of zero. -/
def Dict.countOr (args : Dict Json) (key : String) (fallback : Nat) : Nat :=
  match args.get? key with
  | some (.int n) => if n = 0 then fallback else n.toNat
  | _ => fallback

/-- A count that is read is the number, or the usual one in place of zero. -/
theorem Parameter.countOr_of_read {p : Parameter Nat} {width : Width} {fallback : Nat}
    (hkind : p.kind = .natural width) (hfallback : p.fallback = some fallback) {args : Dict Json}
    {n : Nat} (h : p.read args = .ok n) :
    args.countOr p.name fallback = if n = 0 then fallback else n := by
  rw [Dict.countOr]
  rcases Parameter.read_eq_ok_iff.1 h with ⟨v, hv, hdecode⟩ | ⟨hnone, hsome⟩
  · rw [hkind] at hdecode
    obtain ⟨-, rfl⟩ := Kind.decode_natural_eq_ok_iff.1 hdecode
    rw [hv]
    simp
  · rw [hfallback] at hsome
    cases hsome
    rw [hnone]
    simp

/-- Arguments that do not count as supplied tell no number. -/
theorem Dict.countOr_dropUnsupplied (args : Dict Json) (key : String) (fallback : Nat) :
    (Dispatch.dropUnsupplied args).countOr key fallback = args.countOr key fallback := by
  rw [countOr, countOr, Dispatch.get?_dropUnsupplied]
  cases args.get? key with
  | none => rfl
  | some v =>
    cases v with
    | str s => by_cases hs : s = "" <;> simp [Dispatch.supplied, Option.filter_some, hs]
    | _ => rfl

/-- Whether two plans word the same, one for so many results and the other for so many. -/
structure Plan.Recounted (m n : Nat) (plan plan' : Plan) : Prop where
  template : plan'.template = plan.template
  query : plan'.query = plan.query
  first : plan.limit = some m
  second : plan'.limit = some n
  counts : plan.template ≠ .scipIndex

/-- A limit of one at least is kept. -/
theorem GitHistory.limitOr_eq (fallback : Nat) {limit : Nat} (h : 1 ≤ limit) :
    limitOr fallback limit = limit := by
  unfold limitOr
  exact if_neg (by omega)

/-- Plans for different counts of records differ in the count only. -/
theorem Searxng.recounted_recordsPlan {m n : Nat} (hm : 1 ≤ m) (hn : 1 ≤ n)
    (r r' : SearchRequest) {template : Template}
    (ht : template.readsOutput = false) (query : String) :
    Plan.Recounted m n (recordsPlan r m template query) (recordsPlan r' n template query) where
  template := rfl
  query := rfl
  first := congrArg some (if_neg (by omega))
  second := congrArg some (if_neg (by omega))
  counts := by
    rintro rfl
    cases ht

/-- Arguments that differ in a count come to plans that differ in it. -/
theorem Operation.recounted {p : Profile} {op : Operation} (hop : op ∈ p.operations) {key : String}
    (hkey : p.countName? = some key) {a b : Dict Json} {m n : Nat} (hm : 1 ≤ m) (hn : 1 ≤ n)
    (h : Dict.Recounted key m n a b) {plan plan' : Plan} (hplan : op.planObject a = .ok plan)
    (hplan' : op.planObject b = .ok plan') : Plan.Recounted m n plan plan' := by
  obtain ⟨x, hx, hplan⟩ := planObject_eq_ok_iff.1 hplan
  obtain ⟨y, hy, hplan'⟩ := planObject_eq_ok_iff.1 hplan'
  have hrecounted := op.signature.recounted_of_read h (Signature.read_of_decode hx)
    (Signature.read_of_decode hy)
  cases p, op, hop using Profile.operation_cases
  case searchCommits =>
    cases hkey
    obtain ⟨repo, query, mode, limit, ⟨⟩⟩ := x
    obtain ⟨repo', query', mode', limit', ⟨⟩⟩ := y
    obtain ⟨-, ⟨-, hquery⟩, -, ⟨hcount, -⟩, -⟩ := hrecounted
    obtain rfl := hquery (by decide)
    obtain rfl := Kind.eq_of_decode_natural (hcount rfl).1
    obtain rfl := Kind.eq_of_decode_natural (hcount rfl).2
    cases hplan
    cases hplan'
    have hfirst := GitHistory.limitOr_eq 10 hm
    have hsecond := GitHistory.limitOr_eq 10 hn
    exact ⟨rfl, rfl, congrArg some hfirst, congrArg some hsecond, nofun⟩
  case getFileHistory =>
    cases hkey
    obtain ⟨repo, path, limit, ⟨⟩⟩ := x
    obtain ⟨repo', path', limit', ⟨⟩⟩ := y
    obtain ⟨-, ⟨-, hpath⟩, ⟨hcount, -⟩, -⟩ := hrecounted
    obtain rfl := hpath (by decide)
    obtain rfl := Kind.eq_of_decode_natural (hcount rfl).1
    obtain rfl := Kind.eq_of_decode_natural (hcount rfl).2
    cases hplan
    cases hplan'
    have hfirst := GitHistory.limitOr_eq 5 hm
    have hsecond := GitHistory.limitOr_eq 5 hn
    exact ⟨rfl, rfl, congrArg some hfirst, congrArg some hsecond, nofun⟩
  case indexTypescript | indexPython => cases hkey
  case search =>
    cases hkey
    obtain ⟨query, categories, language, timeRange, level, pageno, maxResults, ⟨⟩⟩ := x
    obtain ⟨query', categories', language', timeRange', level', pageno', maxResults', ⟨⟩⟩ := y
    obtain ⟨⟨-, hquery⟩, -, -, -, -, -, ⟨hcount, -⟩, -⟩ := hrecounted
    obtain rfl := hquery (by decide)
    obtain rfl := Kind.eq_of_decode_natural (hcount rfl).1
    obtain rfl := Kind.eq_of_decode_natural (hcount rfl).2
    simp only [Searxng.search] at hplan hplan'
    split at hplan
    · cases hplan
    · split at hplan'
      · cases hplan'
      · cases hplan
        cases hplan'
        exact Searxng.recounted_recordsPlan hm hn _ _ (by rfl) query
  case searchImages | searchStackoverflow =>
    cases hkey
    obtain ⟨query, maxResults, ⟨⟩⟩ := x
    obtain ⟨query', maxResults', ⟨⟩⟩ := y
    obtain ⟨⟨-, hquery⟩, ⟨hcount, -⟩, -⟩ := hrecounted
    obtain rfl := hquery (by decide)
    obtain rfl := Kind.eq_of_decode_natural (hcount rfl).1
    obtain rfl := Kind.eq_of_decode_natural (hcount rfl).2
    cases hplan
    cases hplan'
    exact Searxng.recounted_recordsPlan hm hn _ _ (by rfl) query
  case searchNews | searchCode | searchDocs | searchPackages | searchGithub =>
    cases hkey
    obtain ⟨query, choice, maxResults, ⟨⟩⟩ := x
    obtain ⟨query', choice', maxResults', ⟨⟩⟩ := y
    obtain ⟨⟨-, hquery⟩, ⟨-, hchoice⟩, ⟨hcount, -⟩, -⟩ := hrecounted
    obtain rfl := hquery (by decide)
    obtain rfl := hchoice (by decide)
    obtain rfl := Kind.eq_of_decode_natural (hcount rfl).1
    obtain rfl := Kind.eq_of_decode_natural (hcount rfl).2
    cases hplan
    cases hplan'
    exact Searxng.recounted_recordsPlan hm hn _ _ (by rfl) query

namespace Dispatch

/-- An answer with a limit is the text of so much of the payload, if it fits the template. -/
theorem finish_of_limit (label : String) {plan : Plan} {n : Nat} (h : plan.limit = some n)
    (payload : Payload) :
    (∃ text, plan.template.render plan.query (payload.truncate n) = .ok text ∧
        finish label plan (.ok payload) = .ok text) ∨
      (¬payload.Fits plan.template ∧
        finish label plan (.ok payload) = .error (.unrenderable label)) := by
  unfold finish
  rw [h]
  dsimp only
  cases hrender : plan.template.render plan.query (payload.truncate n) with
  | ok text => exact .inl ⟨text, rfl, rfl⟩
  | error e =>
    right
    refine ⟨fun hfits => ?_, rfl⟩
    rw [← payload.fits_truncate_iff plan.template n] at hfits
    obtain ⟨text, htext⟩ := (plan.template.exists_render_iff plan.query _).2 hfits
    rw [hrender] at htext
    cases htext

/-- What is worded for a search is records. -/
theorem records_of_render {op : Operation} (hop : op ∈ Profile.searxng.operations)
    {args : Dict Json} {plan : Plan} (hplan : op.planObject args = .ok plan) {payload : Payload}
    {n : Nat} {s : String}
    (hs : plan.template.render plan.query (payload.truncate n) = .ok s) :
    ∃ rs, payload = .records rs := by
  obtain ⟨x, -, hx⟩ := Operation.planObject_eq_ok_iff.1 hplan
  obtain ⟨r, hrequest, -⟩ := Searxng.exists_request_of_plan hop hx
  have hsuits := Operation.suits_of_plan hop hx
  rw [hrequest] at hsuits
  have hfits := (plan.template.exists_render_iff plan.query _).1 ⟨s, hs⟩
  rw [Payload.fits_truncate_iff] at hfits
  cases payload with
  | records rs => exact ⟨rs, rfl⟩
  | output o =>
    have hreads : plan.template.readsOutput = false := hsuits
    have hreads' : plan.template.readsOutput = true := hfits
    rw [hreads] at hreads'
    cases hreads'

/-- **More results only come behind.** Of two calls that differ in how many results they ask for,
and that the outside answers with the same payload, the one that asks for fewer is answered with the
beginning of the text for the other, or with the sentence for no results. A search without results
has none either if it asks for more. -/
theorem text_prefix_of_count_le {p : Profile} {key : String} (hkey : p.countName? = some key)
    {name : String} {a b : Dict Json} {m n : Nat} (hm : 1 ≤ m) (hmn : m ≤ n)
    (hab : Dict.Recounted key m n a b) {spec spec' : Spec} {plan plan' : Plan}
    (ha : Planned p.registry name (dropUnsupplied a) spec plan)
    (hb : Planned p.registry name (dropUnsupplied b) spec' plan')
    (world : ExternalRequest → Outcome) {payload : Payload}
    (hworld : world plan.request = .ok payload) (hworld' : world plan'.request = .ok payload) :
    (((call p.registry name (some a)).run world).1.text.toList <+:
        ((call p.registry name (some b)).run world).1.text.toList ∨
      plan.template.noResults? plan.query =
        some ((call p.registry name (some a)).run world).1.text) ∧
    (p = .searxng →
      plan.template.noResults? plan.query =
        some ((call p.registry name (some a)).run world).1.text →
      plan'.template.noResults? plan'.query =
        some ((call p.registry name (some b)).run world).1.text) := by
  obtain rfl : spec = spec' := Option.some.inj (ha.registered.symm.trans hb.registered)
  have hrunA : (call p.registry name (some a)).run world = _ := run_of_planned world ha
  have hrunB : (call p.registry name (some b)).run world = _ := run_of_planned world hb
  obtain ⟨op, hop, rfl, rfl⟩ := p.exists_operation_of_lookup ha.registered
  -- numbers count as supplied, so the calls differ in the same way
  have hsupplied : Dict.Recounted key m n (dropUnsupplied a) (dropUnsupplied b) := by
    refine ⟨?_, ?_, ?_⟩
    · rw [get?_dropUnsupplied, hab.first]
      rfl
    · rw [get?_dropUnsupplied, hab.second]
      rfl
    · intro other hother
      rw [get?_dropUnsupplied, get?_dropUnsupplied, hab.same other hother]
  have hplans := Operation.recounted hop hkey hm (hm.trans hmn) hsupplied ha.accepted hb.accepted
  rw [hrunA, hrunB, hworld, hworld', hplans.template, hplans.query]
  have hsecond := finish_of_limit op.spec.errorLabel hplans.second payload
  rw [hplans.template, hplans.query] at hsecond
  rcases finish_of_limit op.spec.errorLabel hplans.first payload with
    ⟨s, hs, hfinish⟩ | ⟨hfits, hfinish⟩
  · rcases hsecond with ⟨s', hs', hfinish'⟩ | ⟨hfits, -⟩
    · rw [hfinish, hfinish']
      refine ⟨Template.prefix_render_truncate hplans.counts hmn hs hs', ?_⟩
      rintro rfl hnothing
      obtain ⟨rs, rfl⟩ := records_of_render hop ha.accepted hs
      exact Template.noResults_of_le hm hs hs' hnothing
    · rw [← payload.fits_truncate_iff plan.template m] at hfits
      exact absurd ((plan.template.exists_render_iff plan.query _).1 ⟨s, hs⟩) hfits
  · -- a payload that does not fit is not worded, however much of it is asked for
    rcases hsecond with ⟨s', hs', -⟩ | ⟨-, hfinish'⟩
    · rw [← payload.fits_truncate_iff plan.template n] at hfits
      exact absurd ((plan.template.exists_render_iff plan.query _).1 ⟨s', hs'⟩) hfits
    · rw [hfinish, hfinish']
      exact ⟨.inl (List.prefix_refl _), fun _ h => h⟩

/-- The arguments of a search for so many pictures. -/
def picturesOf (n : Nat) : Dict Json :=
  .ofList [("query", .str "cats"), ("max_results", .int n)]

/-- A record of a picture. -/
def picture (title url : String) : SearchRecord :=
  ⟨some title, url, none, none, none, none, none⟩

/-- The outside where every search finds the same three pictures. -/
def threePictures : ExternalRequest → Outcome := fun _ =>
  .ok (.records [picture "One" "a", picture "Two" "b", picture "Three" "c"])

/-- The text for so many of them. -/
def picturesText (n : Nat) : String :=
  ((call Profile.searxng.registry "search_images" (some (picturesOf n))).run threePictures).1.text

/-- The text for one picture is a beginning of the text for two, which goes on. -/
theorem text_prefix_of_count_le_pictures :
    (picturesText 1).toList <+: (picturesText 2).toList ∧ picturesText 1 ≠ picturesText 2 := by
  have hrecounted : Dict.Recounted "max_results" 1 2 (picturesOf 1) (picturesOf 2) := by
    refine ⟨rfl, rfl, fun other hother => ?_⟩
    rw [picturesOf, picturesOf, Dict.get?_ofList (by simp), Dict.get?_ofList (by simp)]
    simp [Dict.find?, Ne.symm hother]
  have hplanned : ∀ n : Nat, n = 1 ∨ n = 2 → Planned Profile.searxng.registry "search_images"
      (dropUnsupplied (picturesOf n)) Searxng.searchImages.spec (Searxng.recordsPlan
        ((Searxng.searchRequest "cats").param "categories" "images") n .images "cats") := by
    rintro n (rfl | rfl)
    · exact ⟨rfl, by decide, rfl⟩
    · exact ⟨rfl, by decide, rfl⟩
  have hshown : Template.images.noResults? "cats" ≠ some (picturesText 1) := by decide +kernel
  have hkept := (text_prefix_of_count_le rfl (by decide) (by decide) hrecounted
    (hplanned 1 (.inl rfl)) (hplanned 2 (.inr rfl)) threePictures rfl rfl).1
  exact ⟨hkept.resolve_right hshown, by decide +kernel⟩

end Dispatch
end ToolRelay
