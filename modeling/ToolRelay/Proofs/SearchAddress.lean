import Mathlib
import ToolRelay.Config
import ToolRelay.Proofs.Paths
import ToolRelay.Proofs.Planning

/-!
# Where a search goes

An address of the web has a path of settled segments (`settled_of_ofText`), so putting the path of a
request behind it and reading the whole again changes nothing but the slashes at its end. The
parameters of the request take the place of the query. Whatever the caller sends, then, the address
differs from the base address in the end of its path and in its query only, and the query is decoded
into the parameters as they are (`search_stays_in_query`).
-/

set_option autoImplicit false

namespace ToolRelay.Url

/-! ## Addresses of the web -/

/-- HTTP and HTTPS are schemes of the web. -/
theorem kindOf_of_supports {scheme : List Char} (h : Config.supports scheme = true) :
    kindOf scheme = .web := by
  rw [Config.supports, decide_eq_true_eq] at h
  have hweb : String.ofList scheme ∈ ["http", "https", "ws", "wss", "ftp"] := by
    simp only [List.mem_cons, List.not_mem_nil, or_false] at h ⊢
    tauto
  rw [kindOf, if_pos hweb]

/-- The text of an authority: what stands before the first slash. -/
def authorityOf (k : SchemeKind) (text : List Char) : List Char :=
  text.takeWhile fun c => !k.isSlash c

/-- The host and what stands behind it, in the text of an authority without its user. -/
def placeOf (k : SchemeKind) (text : List Char) : List Char × List Char :=
  cutHost false (Text.cutLast '@' (authorityOf k text)).2

/-- An address with an authority has the scheme that was asked for, the host and the port that are
read behind the user, and on the web a path that is read behind the port. -/
theorem exists_of_ofAuthority {names : ToAscii} {scheme text : List Char} {followed : Bool}
    {u : Url} (h : ofAuthority names scheme text followed = .ok u) :
    ∃ host rest, hostOf names (kindOf scheme) (placeOf (kindOf scheme) text).1 = .ok host ∧
      u.host = some host ∧
      cutPort scheme (placeOf (kindOf scheme) text).2 = .ok (u.port, rest) ∧
      u.scheme = scheme ∧ u.guarded = false ∧ u.query = none ∧ u.fragment = none ∧
      (kindOf scheme = .web → u.location = .path (Path.read .web
        (rest ++ text.drop (authorityOf (kindOf scheme) text).length)).segments) := by
  unfold ofAuthority at h
  simp only [bind, Except.bind, pure, Except.pure, throw, throwThe, MonadExceptOf.throw] at h
  -- the checks of the user, the host and the port may end in an error
  split at h
  · cases h
  split at h
  · cases h
  next host hhost =>
  split at h
  · cases h
  split at h
  · cases h
  next found hport =>
  split at h
  · cases h
  obtain ⟨port, rest⟩ := found
  cases h
  refine ⟨host, rest, hhost, rfl, hport, rfl, rfl, rfl, rfl, fun hweb => ?_⟩
  simp only [hweb, SchemeKind.special, Bool.not_true, Bool.and_false, Bool.false_eq_true, if_false]
  rfl

/-- The address of a file has the scheme for files. -/
theorem scheme_of_fileUrl {names : ToAscii} {host path : List Char} {u : Url}
    (h : fileUrl names host path = .ok u) : u.scheme = ['f', 'i', 'l', 'e'] := by
  unfold fileUrl at h
  simp only [bind, Except.bind, pure, Except.pure] at h
  split at h
  · cases h
    rfl
  · split at h
    · cases h
    · cases h
      rfl

/-- What is read behind the scheme for files has that scheme. -/
theorem scheme_of_ofFile {names : ToAscii} {text : List Char} {u : Url}
    (h : ofFile names text = .ok u) : u.scheme = ['f', 'i', 'l', 'e'] := by
  unfold ofFile at h
  split at h
  · dsimp only at h
    split at h
    · exact scheme_of_fileUrl h
    · exact scheme_of_fileUrl h
  · exact scheme_of_fileUrl h

/-- Only what is read with an authority is an address of the web. -/
theorem ofAuthority_of_ofHierarchy {names : ToAscii} {scheme text : List Char} {followed : Bool}
    {u : Url} (h : ofHierarchy names scheme text followed = .ok u) (hweb : kindOf u.scheme = .web) :
    kindOf scheme = .web ∧
      ofAuthority names scheme ((Path.seen text).dropWhile SchemeKind.web.isSlash) followed =
        .ok u := by
  unfold ofHierarchy at h
  dsimp only at h
  split at h
  · next hkind => exact ⟨hkind, h⟩
  · rw [scheme_of_ofFile h] at hweb
    exact absurd hweb (by decide)
  · next hkind =>
    split at h
    · obtain ⟨-, -, -, -, -, hscheme, -⟩ := exists_of_ofAuthority h
      rw [hscheme, hkind] at hweb
      cases hweb
    · cases h
      rw [show (ofBare scheme _).scheme = scheme from rfl, hkind] at hweb
      cases hweb

/-- What is read as the fragment, the query and the rest of a text behind its scheme. -/
def partsOf (s : String) : List Char × Option (List Char) × Option (List Char) :=
  let behind := ((inner s.toList).dropWhile (· ≠ ':')).drop 1
  let text := Text.cut '?' (Text.cut '#' behind).1
  (text.1, text.2, (Text.cut '#' behind).2)

/-- An address of the web is read from the parts of its text. -/
theorem exists_ofAuthority_of_ofText {names : ToAscii} {s : String} {u : Url}
    (h : ofText names s = .ok u)
    (hweb : kindOf u.scheme = .web) :
    ∃ scheme behind v, scheme? (Path.seen (inner s.toList)) = some (scheme, behind) ∧
      kindOf scheme = .web ∧
      ofAuthority names scheme ((Path.seen (partsOf s).1).dropWhile SchemeKind.web.isSlash)
        ((partsOf s).2.1.isSome || (partsOf s).2.2.isSome) = .ok v ∧
      u = { v with
        query := (partsOf s).2.1.map fun q => encode (querySet v.kind.special) (Path.seen q)
        fragment := (partsOf s).2.2.map fun f => encode fragmentSet (Path.seen f) } := by
  unfold ofText at h
  dsimp only at h
  split at h
  · cases h
  · next scheme behind hscheme =>
    cases hhierarchy : ofHierarchy names scheme _ _ with
    | error e =>
      rw [hhierarchy] at h
      cases h
    | ok v =>
      rw [hhierarchy] at h
      cases h
      obtain ⟨hkind, hauthority⟩ := ofAuthority_of_ofHierarchy hhierarchy hweb
      refine ⟨scheme, behind, v, hscheme, hkind, ?_⟩
      dsimp only [partsOf]
      exact ⟨hauthority, rfl⟩

/-- An address of the web that was read has a path of settled segments. -/
theorem settled_of_ofText {names : ToAscii} {s : String} {u : Url} (h : ofText names s = .ok u)
    (hweb : kindOf u.scheme = .web) :
    u.guarded = false ∧ ∃ segments, u.location = .path segments ∧ segments ≠ [] ∧
      ∀ segment ∈ segments, Path.Settled segment := by
  obtain ⟨scheme, -, v, -, hkind, hauthority, rfl⟩ := exists_ofAuthority_of_ofText h hweb
  obtain ⟨-, rest, -, -, -, -, hguarded, -, -, hlocation⟩ := exists_of_ofAuthority hauthority
  exact ⟨hguarded, _, hlocation hkind, Path.settled_of_read _⟩

/-! ## A path below another -/

namespace Path

/-- One more segment is written behind a slash. -/
theorem text_append (segments : List (List Char)) (s : List Char) :
    text (segments ++ [s]) = text segments ++ '/' :: s := by
  simp [text]

/-- A path without the slashes at its end is the path of the segments before the empty ones at the
end. -/
theorem exists_rdropWhile_text {segments : List (List Char)} (h : ∀ s ∈ segments, '/' ∉ s) :
    ∃ front, front <+: segments ∧ (text segments).rdropWhile isSlash = text front := by
  -- slashes are dropped at the end, so the last segment decides
  induction segments using List.reverseRecOn with
  | nil => exact ⟨[], List.nil_prefix, rfl⟩
  | append_singleton segments s ih =>
    obtain ⟨front, hfront, htext⟩ := ih fun t ht => h t (List.mem_append_left _ ht)
    rw [text_append]
    rcases List.eq_nil_or_concat s with rfl | ⟨s', c, rfl⟩
    · refine ⟨front, hfront.trans (List.prefix_append _ _), ?_⟩
      rw [List.rdropWhile_concat_pos _ _ _ rfl, htext]
    · -- the last segment ends with a character that is no slash
      have hc : ¬isSlash c = true := by
        intro hslash
        have hslash' : c = '/' := by simpa [isSlash] using hslash
        exact h (s'.concat c) (by simp) (by simp [hslash'])
      refine ⟨segments ++ [s'.concat c], List.prefix_rfl, ?_⟩
      rw [text_append, List.concat_eq_append, ← List.cons_append, ← List.append_assoc,
        List.rdropWhile_concat_neg _ _ _ hc]

/-- A settled path with one more settled segment in place of the slashes at its end is read as it
was written. -/
theorem text_read_joinPaths {segments : List (List Char)} (h : ∀ s ∈ segments, Settled s)
    {name : List Char} (hname : Settled name) :
    text (read .web (joinPaths (text segments) ('/' :: name))).segments =
      (text segments).rdropWhile isSlash ++ '/' :: name := by
  obtain ⟨front, hfront, htext⟩ :=
    exists_rdropWhile_text fun s hs hmem => ((h s hs).plain _ hmem).1 rfl
  have hslashes : ('/' :: name).dropWhile isSlash = name := by
    cases name with
    | nil => rfl
    | cons c r =>
      have hc : isSlash c = false := by
        simpa [isSlash] using (hname.plain c List.mem_cons_self).1
      simp [hc, show isSlash '/' = true from rfl]
  have hjoin : joinPaths (text segments) ('/' :: name) = text (front ++ [name]) := by
    rw [joinPaths, hslashes, text_append, ← htext]
    rfl
  have hsettled : ∀ s ∈ front ++ [name], Settled s := by
    intro s hs
    rcases List.mem_append.1 hs with hs | hs
    · exact h s (hfront.subset hs)
    · exact List.mem_singleton.1 hs ▸ hname
  rw [hjoin, read_text (by simp) hsettled, htext, text_append]

/-- The segment for searches is settled. -/
theorem settled_search : Settled ['s', 'e', 'a', 'r', 'c', 'h'] where
  plain := by
    intro c hc
    simp only [List.mem_cons, List.not_mem_nil, or_false] at hc
    rcases hc with rfl | rfl | rfl | rfl | rfl | rfl <;> decide
  not_here := by decide
  not_above := by decide

end Path
end Url

/-! ## The address of a search -/

/-- A parameter leaves the path as it is. -/
@[simp] theorem SearchRequest.path_param (r : SearchRequest) (key value : String) :
    (r.param key value).path = r.path := by
  unfold param
  split <;> rfl

/-- A parameter that may be missing leaves the path as it is. -/
@[simp] theorem SearchRequest.path_paramOpt (r : SearchRequest) (key : String)
    (value : Option String) : (r.paramOpt key value).path = r.path := by
  cases value with
  | none => rfl
  | some v => exact r.path_param key v

/-- Every operation of the search service plans a GET of the one search path. -/
theorem Searxng.exists_request_of_plan {op : Operation} (hop : op ∈ Profile.searxng.operations)
    {x : op.Args} {plan : Plan} (h : op.plan x = .ok plan) :
    ∃ r, plan.request = .search r ∧ r.path = "/search" := by
  have hpath : ∀ q, (searchRequest q).path = "/search" := by
    intro q
    simp [searchRequest, SearchRequest.ofPath]
  simp only [Profile.operations, operations, List.mem_cons, List.not_mem_nil, or_false] at hop
  rcases hop with rfl | rfl | rfl | rfl | rfl | rfl | rfl | rfl
  · simp only [search] at h
    split at h
    · cases h
    · cases h
      exact ⟨_, rfl, by simp [hpath]⟩
  all_goals
    cases h
    exact ⟨_, rfl, by simp [hpath]⟩

/-- How the address of a search comes from a base address and the parameters of the search. -/
structure Url.IsSearchAt (base : Url) (parameters : List (String × String)) (u : Url) : Prop where
  scheme : u.scheme = base.scheme
  username : u.username = base.username
  password : u.password = base.password
  host : u.host = base.host
  port : u.port = base.port
  path : u.pathText = base.pathText.rdropWhile isSlash ++ "/search".toList
  /-- The query is written between the path and the fragment of the base address, cannot be taken
  for the fragment, and tells the parameters. -/
  query : ∃ q, u.query = some q ∧ '#' ∉ q ∧ Url.Form.decode q = parameters ∧
    u.chars = base.scheme ++ ':' :: base.authorityText ++ u.pathText ++ '?' :: q ++
      Url.partText '#' base.fragment

/-- **Nothing that a caller sends leaves the query.** The address of a search below a base address of
the web is the base address with `/search` in place of the slashes at the end of its path, and with a
query that is decoded into the parameters of the request. -/
theorem search_stays_in_query {names : Url.ToAscii} {s : String} {base : Url}
    (hbase : Url.ofText names s = .ok base) (hweb : Config.supports base.scheme = true)
    {name : String} {spec : Spec} (hlookup : Profile.searxng.registry.lookup name = some spec)
    {args : Dict Json} {plan : Plan} (hplan : spec.plan args = .ok plan) :
    ∃ r, plan.request = .search r ∧ base.IsSearchAt r.query (r.url base) := by
  obtain ⟨op, hop, rfl, -⟩ := Profile.exists_operation_of_lookup hlookup
  obtain ⟨x, -, hx⟩ := Operation.planObject_eq_ok_iff.1 hplan
  obtain ⟨r, hrequest, hpath⟩ := Searxng.exists_request_of_plan hop hx
  have hkind := Url.kindOf_of_supports hweb
  obtain ⟨hguarded, segments, hlocation, -, hsettled⟩ := Url.settled_of_ofText hbase hkind
  have hbasePath : base.pathText = Url.Path.text segments := by rw [Url.pathText, hlocation]
  have hpathText : (r.url base).pathText = base.pathText.rdropWhile isSlash ++ "/search".toList := by
    have hread := Url.Path.text_read_joinPaths hsettled Url.Path.settled_search
    simp only [SearchRequest.url, Url.withForm, Url.withPath, Url.pathText, hlocation, hpath,
      Url.kind, hkind]
    exact hread
  refine ⟨r, hrequest, rfl, rfl, rfl, rfl, rfl, hpathText, Url.Form.encode r.query, rfl,
    Url.Form.hash_not_mem_encode _, Url.Form.decode_encode _, ?_⟩
  have hguard : (r.url base).pathGuard = [] := by
    rw [Url.pathGuard, show (r.url base).guarded = base.guarded from rfl, hguarded]
    rfl
  rw [Url.chars, hguard, List.append_nil]
  rfl

/-- An address with a user, a port, a path that does not end with a segment, a query and a
fragment. -/
def Url.furnished : Url where
  scheme := "https".toList
  username := ['u']
  password := ['p']
  host := some (.domain ['h'])
  port := some 8443
  guarded := false
  location := .path [['a'], ['b', '%', '2', 'F'], [], []]
  query := some ['x', '=', '1']
  fragment := some ['f']

/-- A query for images with every separator in it stays in the query of such an address. -/
theorem search_stays_in_query_images :
    Url.ofText Url.plainNames "https://u:p@h:8443/a//%2E%2e/b%2F//?x=1#f" = .ok Url.furnished ∧
      ∃ plan r, Searxng.searchImages.spec.plan (.ofList [("query", .str "a&b=c #é+%41")]) =
          .ok plan ∧ plan.request = .search r ∧
        Url.furnished.IsSearchAt r.query (r.url Url.furnished) := by
  have hbase : Url.ofText Url.plainNames "https://u:p@h:8443/a//%2E%2e/b%2F//?x=1#f" =
      .ok Url.furnished := by cbv
  have hlookup : Profile.searxng.registry.lookup "search_images" =
      some Searxng.searchImages.spec := rfl
  obtain ⟨plan, hplan⟩ : ∃ plan, Searxng.searchImages.spec.plan
      (.ofList [("query", .str "a&b=c #é+%41")]) = .ok plan := ⟨_, rfl⟩
  obtain ⟨r, hrequest, haddress⟩ := search_stays_in_query hbase (by decide) hlookup hplan
  exact ⟨hbase, plan, r, hplan, hrequest, haddress⟩

end ToolRelay
