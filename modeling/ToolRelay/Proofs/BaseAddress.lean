import ToolRelay.Proofs.Authorities
import ToolRelay.Proofs.Decimals

/-!
# A base address that is put together

Without an address in full, the base address of the search service is a host and a port with a
colon between them. What the port then is depends on where the text of the host ends: it is the port
of the address if the host ends with its authority (`NamesAuthority`), and the end of a path, of a
query or of a fragment if the host has one of these. `Config.addresses_port_iff` says when the base
address goes to the port that was named.
-/

set_option autoImplicit false

namespace ToolRelay

namespace Url

/-- Whether a text is a scheme, a colon, any slashes, and an authority that nothing follows. -/
def NamesAuthority (host : List Char) : Prop :=
  ∃ scheme behind, host = scheme ++ ':' :: behind ∧ ':' ∉ scheme ∧
    ∀ c ∈ (Path.seen behind).dropWhile SchemeKind.web.isSlash, c ∉ ['/', '\\', '?', '#']

/-! ## The parts of the text -/

variable {front l digits : List Char}

/-- Digits at the end keep what is left out around a text in front of it. -/
theorem inner_append (front l : List Char) (hne : digits ≠ [])
    (hdigits : ∀ c ∈ digits, Decimal.isDigit c = true) :
    inner (front ++ ':' :: (l ++ digits)) = front.dropWhile isOuter ++ ':' :: (l ++ digits) := by
  have hstart := dropWhile_append_cons (show isOuter ':' = false by decide) front (l ++ digits)
  rcases List.eq_nil_or_concat digits with rfl | ⟨before, c, rfl⟩
  · exact absurd rfl hne
  · -- the last digit is not left out, so nothing is at the end
    have hc : ¬isOuter c = true := by
      obtain ⟨hlow, -⟩ := Decimal.toNat_of_isDigit (hdigits c (by simp))
      simp only [isOuter, decide_eq_true_eq]
      omega
    have hend := List.rdropWhile_concat_neg isOuter
      (front.dropWhile isOuter ++ ':' :: (l ++ before)) c hc
    rw [inner, hstart, List.concat_eq_append, ← List.append_assoc l, ← List.cons_append,
      ← List.append_assoc]
    exact hend

/-- Behind the first colon a text that ends with digits is cut at its marks. -/
theorem partsOf_eq {s : String} (htext : s.toList = front ++ ':' :: (l ++ digits))
    (hfront : ':' ∉ front) (hne : digits ≠ [])
    (hdigits : ∀ c ∈ digits, Decimal.isDigit c = true) :
    partsOf s = ((Text.cut '?' (Text.cut '#' (l ++ digits)).1).1,
      (Text.cut '?' (Text.cut '#' (l ++ digits)).1).2, (Text.cut '#' (l ++ digits)).2) := by
  have hdrop : (inner s.toList).dropWhile (· ≠ ':') = ':' :: (l ++ digits) := by
    rw [htext, inner_append front l hne hdigits, dropWhile_append_cons (by simp),
      List.dropWhile_eq_nil_iff.2, List.nil_append]
    intro c hc
    simpa using ne_of_mem_of_not_mem ((List.dropWhile_sublist isOuter).subset hc) hfront
  rw [partsOf, hdrop]
  rfl

/-- Digits are all seen. -/
theorem seen_of_digits (hdigits : ∀ c ∈ digits, Decimal.isDigit c = true) :
    Path.seen digits = digits := by
  refine List.filter_eq_self.2 fun c hc => ?_
  have hne : ∀ d, Decimal.isDigit d = false → c ≠ d := by
    intro d hd
    exact ne_of_mem_of_not_mem hc (not_mem_of_digits hdigits hd)
  simp [Path.isPassedOver, hne '\t' (by decide), hne '\n' (by decide), hne '\r' (by decide)]

/-- A character that is neither passed over nor a slash is there behind the slashes if it is there
at all. -/
theorem mem_shown_iff {c : Char} (hseen : Path.isPassedOver c = false)
    (hslash : SchemeKind.web.isSlash c = false) {l : List Char} :
    c ∈ (Path.seen l).dropWhile SchemeKind.web.isSlash ↔ c ∈ l := by
  have hfilter : c ∈ Path.seen l ↔ c ∈ l := by simp [Path.seen, hseen]
  refine ⟨fun h => hfilter.1 ((List.dropWhile_sublist _).subset h), fun h => ?_⟩
  have hmem := hfilter.2 h
  rw [← List.takeWhile_append_dropWhile (p := SchemeKind.web.isSlash) (l := Path.seen l),
    List.mem_append] at hmem
  refine hmem.resolve_left fun htake => ?_
  rw [List.mem_takeWhile_imp htake] at hslash
  cases hslash

/-- A text with the mark in it is cut. -/
theorem cut_ne_none {mark : Char} {l : List Char} (h : mark ∈ l) : (Text.cut mark l).2 ≠ none := by
  obtain ⟨before, behind, rfl, hbefore⟩ := List.eq_append_cons_of_mem h
  rw [Text.cut_append hbefore]
  simp

/-! ## The address of a text -/

variable {names : ToAscii} {s : String} {u : Url}

/-- An address at the root was read from a text without a mark of a query or of a fragment. -/
theorem AddressesAtRoot.not_mem {port : Option Nat} (hroot : u.AddressesAtRoot port)
    (h : ofText names s = .ok u) (hweb : kindOf u.scheme = .web)
    (hparts : partsOf s = ((Text.cut '?' (Text.cut '#' l).1).1, (Text.cut '?' (Text.cut '#' l).1).2,
      (Text.cut '#' l).2)) : '#' ∉ l ∧ '?' ∉ l := by
  obtain ⟨-, -, v, -, -, -, rfl⟩ := exists_ofAuthority_of_ofText h hweb
  have hhash : '#' ∉ l := by
    intro hmem
    have hfragment := hroot.fragment
    rw [hparts] at hfragment
    exact cut_ne_none hmem (Option.map_eq_none_iff.1 hfragment)
  refine ⟨hhash, fun hmem => ?_⟩
  have hquery := hroot.query
  rw [hparts, Text.cut_of_not_mem hhash] at hquery
  exact cut_ne_none hmem (Option.map_eq_none_iff.1 hquery)

/-- Without such a mark all that is behind the slashes is read with an authority. -/
theorem ofAuthority_of_not_mem (h : ofText names s = .ok u) (hweb : kindOf u.scheme = .web)
    (hparts : partsOf s = ((Text.cut '?' (Text.cut '#' l).1).1, (Text.cut '?' (Text.cut '#' l).1).2,
      (Text.cut '#' l).2)) (hhash : '#' ∉ l) (hmark : '?' ∉ l) :
    ofAuthority names u.scheme ((Path.seen l).dropWhile SchemeKind.web.isSlash) false = .ok u := by
  rw [Text.cut_of_not_mem hhash, Text.cut_of_not_mem hmark] at hparts
  obtain ⟨scheme, -, v, -, -, hauthority, hu⟩ := exists_ofAuthority_of_ofText h hweb
  simp only [hparts, Option.isSome_none, Bool.or_false, Option.map_none] at hauthority hu
  obtain ⟨-, -, -, -, -, hscheme, -, hquery, hfragment, -⟩ := exists_of_ofAuthority hauthority
  have hsame : u = v := by
    -- what is read with an authority has no query and no fragment of its own
    rw [hu]
    cases v
    cases hquery
    cases hfragment
    rfl
  rw [hsame, hscheme]
  exact hauthority

/-- The address of digits behind a scheme has the digits for its host. -/
theorem addressesAtRoot_of_not_mem (h : ofText names s = .ok u) (hweb : kindOf u.scheme = .web)
    (htext : s.toList = front ++ ':' :: digits) (hne : digits ≠ [])
    (hdigits : ∀ c ∈ digits, Decimal.isDigit c = true) (hfront : ':' ∉ front) :
    u.AddressesAtRoot (impliedPort? u.scheme) := by
  have hparts := partsOf_eq (l := []) htext hfront hne hdigits
  have hshown : (Path.seen digits).dropWhile SchemeKind.web.isSlash = digits := by
    rw [seen_of_digits hdigits, List.dropWhile_eq_self_iff]
    intro hlength
    simp [isSlash_of_digits hdigits _ (List.getElem_mem hlength)]
  have hauthority := ofAuthority_of_not_mem h hweb hparts
    (not_mem_of_digits hdigits (by decide)) (not_mem_of_digits hdigits (by decide))
  rw [List.nil_append, hshown] at hauthority
  exact host_of_ofAuthority hweb hdigits hauthority

/-- The text behind the first colon alone decides whether it ends with its authority. -/
theorem namesAuthority_iff {scheme behind : List Char} (hscheme : ':' ∉ scheme) :
    NamesAuthority (scheme ++ ':' :: behind) ↔
      ∀ c ∈ (Path.seen behind).dropWhile SchemeKind.web.isSlash, c ∉ ['/', '\\', '?', '#'] := by
  refine ⟨?_, fun h => ⟨scheme, behind, rfl, hscheme, h⟩⟩
  rintro ⟨scheme', behind', heq, hscheme', h⟩
  -- the first colon cuts the text in one way only
  have hcut := Text.cut_append hscheme behind
  rw [heq, Text.cut_append hscheme' behind'] at hcut
  cases hcut
  exact h

/-- Behind a host with a scheme the digits are the port of an address at the root exactly when the
host ends with its authority. -/
theorem addressesAtRoot_iff {host : List Char} (h : ofText names s = .ok u)
    (hweb : kindOf u.scheme = .web) (htext : s.toList = host ++ ':' :: digits) (hne : digits ≠ [])
    (hdigits : ∀ c ∈ digits, Decimal.isDigit c = true) (hcolon : ':' ∈ host) :
    u.AddressesAtRoot (some (Decimal.valueFrom 0 digits)) ↔ NamesAuthority host := by
  obtain ⟨front, behind, rfl, hfront⟩ := List.eq_append_cons_of_mem hcolon
  have htext' : s.toList = front ++ ':' :: (behind ++ [':'] ++ digits) := by simp [htext]
  have hparts := partsOf_eq htext' hfront hne hdigits
  have hshown : (Path.seen (behind ++ [':'] ++ digits)).dropWhile SchemeKind.web.isSlash =
      (Path.seen behind).dropWhile SchemeKind.web.isSlash ++ ':' :: digits := by
    have hdigit := seen_of_digits hdigits
    rw [Path.seen] at hdigit
    rw [← List.append_cons, Path.seen, List.filter_append, List.filter_cons_of_pos (by decide),
      hdigit]
    exact dropWhile_append_cons (by decide) _ _
  rw [namesAuthority_iff hfront]
  constructor
  · intro hroot
    obtain ⟨hhash, hmark⟩ := hroot.not_mem h hweb hparts
    have hauthority := ofAuthority_of_not_mem h hweb hparts hhash hmark
    rw [hshown] at hauthority
    have hpath := fun c hc hslash =>
      path_of_ofAuthority (c := c) hweb hdigits hc hslash hauthority hroot.path
    intro c hc hmem
    simp only [List.mem_cons, List.not_mem_nil, or_false] at hmem
    rcases hmem with rfl | rfl | rfl | rfl
    · exact hpath '/' hc rfl
    · exact hpath '\\' hc rfl
    · exact hmark (by simp [(mem_shown_iff rfl rfl).1 hc])
    · exact hhash (by simp [(mem_shown_iff rfl rfl).1 hc])
  · intro hplain
    have habsent : ∀ mark, Decimal.isDigit mark = false → mark ∉ behind → mark ≠ ':' →
        mark ∉ behind ++ [':'] ++ digits := by
      intro mark hmark hbehind hne
      simp [hbehind, hne, not_mem_of_digits hdigits hmark]
    have hhash : '#' ∉ behind := fun hmem => hplain '#' ((mem_shown_iff rfl rfl).2 hmem) (by simp)
    have hmark : '?' ∉ behind := fun hmem => hplain '?' ((mem_shown_iff rfl rfl).2 hmem) (by simp)
    have hauthority := ofAuthority_of_not_mem h hweb hparts
      (habsent '#' (by decide) hhash (by decide)) (habsent '?' (by decide) hmark (by decide))
    rw [hshown] at hauthority
    refine port_of_ofAuthority hweb hne hdigits (fun c hc => ?_) hauthority
    rw [Bool.eq_false_iff, ne_eq, isSlash_web_iff]
    rintro (rfl | rfl)
    · exact hplain '/' hc (by simp)
    · exact hplain '\\' hc (by simp)

end Url

/-! ## The base address of the search service -/

namespace Environment

/-- The text of the host, where there is no address in full. -/
def searchHost (env : Environment) : String :=
  Config.withoutSlashes ((env.value? "SEARXNG_HOST").getD Config.usualHost)

/-- The text of the port, where there is no address in full. -/
def searchPort (env : Environment) : String :=
  (env.value? "SEARXNG_PORT").getD Config.usualPort

/-- An environment with a host for the search service and nothing else. -/
def ofHost (host : String) : Environment := fun name =>
  if name = "SEARXNG_HOST" then some host else none

end Environment

namespace Config

variable {names : Url.ToAscii} {env : Environment} {seconds : Option Nat} {config : Config}

/-- Without an address in full it is put together of the host and the port. -/
theorem toList_rawUrl (h : env.value? "SEARXNG_URL" = none) :
    (rawUrl env).toList = env.searchHost.toList ++ ':' :: env.searchPort.toList := by
  rw [rawUrl, h]
  show (env.searchHost ++ ":" ++ env.searchPort).toList = _
  simp

/-- A configuration is settled exactly if its address is read from the text, under a scheme that is
supported, and its seconds are the given ones, those of the environment or the usual ones, and not
zero. -/
theorem ofEnvironment_eq_ok_iff :
    ofEnvironment names env seconds = .ok config ↔
      Url.ofText names (rawUrl env) = .ok config.searchUrl ∧
      supports config.searchUrl.scheme = true ∧
      config.timeout = (seconds.orElse fun _ => timeoutOf env).getD usualTimeout ∧
      config.timeout ≠ 0 := by
  obtain ⟨timeout, url⟩ := config
  unfold ofEnvironment
  dsimp only
  cases htext : Url.ofText names (rawUrl env) with
  | error e => simp
  | ok read =>
    dsimp only
    by_cases hsupported : supports read.scheme = true
    · rw [if_pos hsupported]
      split
      · next hzero =>
        rw [hzero]
        simp +contextual
      · next hpositive =>
        constructor
        · intro h
          cases h
          exact ⟨rfl, hsupported, rfl, hpositive⟩
        · rintro ⟨hread, -, rfl, -⟩
          cases hread
          rfl
    · rw [if_neg hsupported]
      constructor
      · intro h
        cases h
      · rintro ⟨hread, hurl, -⟩
        cases hread
        exact absurd hurl hsupported

/-- **When a base address goes to the port that was named.** Let the environment give no address of
the search service in full, and let there be a configuration. The base address goes to the port whose
number was named, to the root, and without a query and a fragment, exactly when the text of the port
is a number and the host ends with its authority; or when the host is a scheme alone, which implies
the port, so that the number is read as a host. -/
theorem addresses_port_iff (hurl : env.value? "SEARXNG_URL" = none)
    (hconfig : ofEnvironment names env seconds = .ok config) :
    (∃ n, Decimal.digits? env.searchPort.toList = some n ∧
      config.searchUrl.AddressesAtRoot (some n)) ↔
    ∃ n, Decimal.digits? env.searchPort.toList = some n ∧
      (Url.NamesAuthority env.searchHost.toList ∨
        ':' ∉ env.searchHost.toList ∧ Url.impliedPort? config.searchUrl.scheme = some n) := by
  obtain ⟨htext, hsupported, -⟩ := ofEnvironment_eq_ok_iff.1 hconfig
  have hweb := Url.kindOf_of_supports hsupported
  refine exists_congr fun n => and_congr_right fun hport => ?_
  obtain ⟨hne, hdigits, rfl⟩ := Decimal.digits?_eq_some_iff.1 hport
  have hraw := toList_rawUrl hurl
  by_cases hcolon : ':' ∈ env.searchHost.toList
  · rw [Url.addressesAtRoot_iff htext hweb hraw hne hdigits hcolon]
    simp [hcolon]
  · -- without a scheme in front the port is none
    have hroot := Url.addressesAtRoot_of_not_mem htext hweb hraw hne hdigits hcolon
    have hnot : ¬Url.NamesAuthority env.searchHost.toList := by
      rintro ⟨scheme, behind, hhost, -⟩
      rw [hhost] at hcolon
      simp at hcolon
    constructor
    · intro hnamed
      exact .inr ⟨hcolon, hroot.port.symm.trans hnamed.port⟩
    · rintro (hnames | ⟨-, himplied⟩)
      · exact absurd hnames hnot
      · rwa [himplied] at hroot

/-- The configuration for a search service in the local network. -/
def ofLan (port : Option Nat) (segment : String) : Config where
  timeout := usualTimeout
  searchUrl := { scheme := "http".toList, username := [], password := []
                 host := some (.domain "search.lan".toList), port, guarded := false
                 location := .path [segment.toList], query := none, fragment := none }

/-- A host with a slash at its end is addressed at the port. -/
theorem addresses_port_iff_lan :
    ofEnvironment Url.plainNames (.ofHost "http://search.lan/") none = .ok (ofLan (some 8080) "") ∧
      (ofLan (some 8080) "").searchUrl.AddressesAtRoot (some 8080) := by
  have hconfig : ofEnvironment Url.plainNames (.ofHost "http://search.lan/") none =
      .ok (ofLan (some 8080) "") := by cbv
  have hshown : (Url.Path.seen "//search.lan".toList).dropWhile Url.SchemeKind.web.isSlash =
      "search.lan".toList := by cbv
  have hnames : Url.NamesAuthority (Environment.ofHost "http://search.lan/").searchHost.toList := by
    refine ⟨"http".toList, "//search.lan".toList, by cbv, by decide, ?_⟩
    rw [hshown]
    simp
  obtain ⟨n, hport, hroot⟩ :=
    (addresses_port_iff rfl hconfig).2 ⟨8080, by cbv, .inl hnames⟩
  have hvalue : some n = some 8080 := hport.symm.trans (by cbv)
  rw [hvalue] at hroot
  exact ⟨hconfig, hroot⟩

/-- A host with a path is not: the port ends the path, and the address goes to another port. -/
theorem path_not_addressed_at_port :
    (Environment.ofHost "http://search.lan/searx").value? "SEARXNG_URL" = none ∧
      ofEnvironment Url.plainNames (.ofHost "http://search.lan/searx") none =
        .ok (ofLan none "searx:8080") ∧
      Decimal.digits? (Environment.ofHost "http://search.lan/searx").searchPort.toList =
        some 8080 ∧
      (ofLan none "searx:8080").searchUrl.effectivePort? = some 80 ∧
      (ofLan none "searx:8080").searchUrl.pathText = "/searx:8080".toList :=
  ⟨rfl, by cbv, by cbv, by cbv, by cbv⟩

end Config

end ToolRelay
