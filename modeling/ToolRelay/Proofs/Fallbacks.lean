import ToolRelay.Proofs.Operations
import ToolRelay.Proofs.Requests
import ToolRelay.Proofs.SchemaSpecs

/-!
# Arguments that are left out

An argument may be left out for a fallback, which the schema tells as a default. A client that fills
the default in asks for the same thing, and so does one that fills in zero for a number. The second
is no fact of decoding, since other values are read: it holds because no operation tells zero from
the fallback (`Operation.plan_normal`). Values that are filled in are never at fault, so an error
stays the same error as well (`Signature.decode_fill`).
-/

set_option autoImplicit false

namespace ToolRelay

/-! ## Values that stand for no argument -/

namespace Kind

/-- Whether a value is read back when it is written as an argument. -/
def Writes : {α : Type} → Kind α → α → Prop
  | _, .text, _ => True
  | _, .natural width, n => n ≤ width.bound
  | _, .label ls, x => ls.find? (ls.label x) = some x
  | _, .optional kind, x => ∀ y, x = some y → kind.encode y ≠ .null ∧ kind.Writes y

/-- A value that a kind can write is read back. -/
theorem decode_encode {α : Type} (kind : Kind α) {x : α} (h : kind.Writes x) :
    kind.decode (kind.encode x) = .ok x := by
  induction kind with
  | text => rfl
  | natural width => exact decode_natural_eq_ok_iff.2 ⟨h, rfl⟩
  | label ls =>
    have hfind : ls.find? (ls.label x) = some x := h
    simp only [encode, decode, decodeLabel, hfind]
  | optional kind ih =>
    rw [decode_optional_eq_ok_iff]
    cases x with
    | none => exact .inl ⟨rfl, rfl⟩
    | some y =>
      obtain ⟨hnull, hwrites⟩ := h y rfl
      exact .inr ⟨hnull, y, ih hwrites, rfl⟩

/-- A value with the fallback in place of zero. -/
def normal : {α : Type} → Kind α → (fallback : α) → α → α
  | _, .natural _, fallback, n => if n = 0 then fallback else n
  | _, .text, _, s => s
  | _, .label _, _, x => x
  | _, .optional _, _, x => x

end Kind

namespace Parameter

variable {α : Type}

/-- A value of the parameter with the fallback, if there is one, in place of zero. -/
def normal (p : Parameter α) (x : α) : α :=
  p.fallback.elim x fun fallback => p.kind.normal fallback x

/-- Whether an argument says no more than leaving it out. -/
def Implied (p : Parameter α) (v : Json) : Prop :=
  ∃ fallback x, p.fallback = some fallback ∧ p.kind.decode v = .ok x ∧
    p.normal x = p.normal fallback

/-- A default that is written out is implied. -/
theorem implied_encode {p : Parameter α} {x : α} (hfallback : p.fallback = some x)
    (hwrites : p.kind.Writes x) : p.Implied (p.kind.encode x) :=
  ⟨x, x, hfallback, p.kind.decode_encode hwrites, rfl⟩

/-- Zero is implied where an integer may be left out. -/
theorem implied_zero {p : Parameter α} {bound : Nat} (hoptional : p.rule.required = false)
    (hrange : p.rule.range = .natural bound) : p.Implied (.int 0) := by
  obtain ⟨name, description, kind, fallback⟩ := p
  cases kind with
  | natural width =>
    cases fallback with
    | none => cases hoptional
    | some n =>
      refine ⟨n, 0, rfl, Kind.decode_natural_eq_ok_iff.2 ⟨Nat.zero_le _, rfl⟩, ?_⟩
      simp [normal, Kind.normal]
  | _ => cases hrange

/-- Filling in an implied argument changes a value to one that is the same up to zero. -/
theorem read_of_implied {p : Parameter α} {a b : Dict Json} {v : Json}
    (ha : a.get? p.name = none) (hb : b.get? p.name = some v) (h : p.Implied v) :
    (p.read b).map p.normal = (p.read a).map p.normal := by
  obtain ⟨fallback, x, hfallback, hdecode, hnormal⟩ := h
  have hreadA : p.read a = .ok fallback := read_eq_ok_iff.2 (.inr ⟨ha, hfallback⟩)
  have hreadB : p.read b = .ok x := read_eq_ok_iff.2 (.inl ⟨v, hb, hdecode⟩)
  rw [hreadA, hreadB]
  exact congrArg Except.ok hnormal

end Parameter

/-! ## Filling in -/

namespace Signature

/-- Values with the fallbacks in place of zeros. -/
def normal : {α : Type} → Signature α → α → α
  | _, .nil, x => x
  | _, .cons p rest, (x, y) => (p.normal x, rest.normal y)

/-- Whether an argument says no more than leaving it out, for every parameter of its name. -/
def Implied : {α : Type} → Signature α → String → Json → Prop
  | _, .nil, _, _ => True
  | _, .cons p rest, name, v => (p.name = name → p.Implied v) ∧ rest.Implied name v

/-- Whether the second arguments are the first with implied ones filled in. -/
def Fills {α : Type} (sig : Signature α) (a b : Dict Json) : Prop :=
  ∀ key, b.get? key = a.get? key ∨
    (a.get? key = none ∧ ∃ v, b.get? key = some v ∧ sig.Implied key v)

variable {α : Type}

/-- Anything is implied under a name that is not declared. -/
theorem implied_of_not_mem (sig : Signature α) {name : String} (v : Json)
    (h : name ∉ sig.names) : sig.Implied name v := by
  induction sig with
  | nil => trivial
  | cons p rest ih =>
    rw [names, List.mem_cons, not_or] at h
    exact ⟨fun hname => absurd hname.symm h.1, ih h.2⟩

/-- What is implied is no fault. -/
theorem fault?_of_implied (sig : Signature α) {name : String} {v : Json}
    (h : sig.Implied name v) : sig.fault? name v = none := by
  induction sig with
  | nil => rfl
  | cons p rest ih =>
    obtain ⟨hfirst, hrest⟩ := h
    rw [fault?]
    split
    · next hname =>
      obtain ⟨fallback, x, -, hdecode, -⟩ := hfirst hname
      rw [hdecode]
    · exact ih hrest

/-- Filling in changes values to some that are the same up to zeros, and no error. -/
theorem read_fill (sig : Signature α) {a b : Dict Json} (h : sig.Fills a b) :
    (sig.read b).map sig.normal = (sig.read a).map sig.normal := by
  induction sig with
  | nil => rfl
  | cons p rest ih =>
    have hrest : (rest.read b).map rest.normal = (rest.read a).map rest.normal := by
      refine ih fun key => (h key).imp_right ?_
      rintro ⟨ha, v, hb, himplied⟩
      exact ⟨ha, v, hb, himplied.2⟩
    have hfirst : (p.read b).map p.normal = (p.read a).map p.normal := by
      rcases h p.name with hsame | ⟨ha, v, hb, himplied⟩
      · rw [p.read_congr hsame]
      · exact Parameter.read_of_implied ha hb (himplied.1 rfl)
    simp only [read]
    -- the two parts end alike for both arguments, in values or in an error
    cases hpa : p.read a <;> cases hpb : p.read b <;> cases hra : rest.read a <;>
      cases hrb : rest.read b <;> simp_all [Except.map, normal]

/-- Filling in what is implied leaves the first fault as it is. -/
theorem firstFault?_fill (sig : Signature α) {a b : Dict Json} (h : sig.Fills a b) :
    sig.firstFault? b = sig.firstFault? a := by
  have hback : (b.filter fun name _ => a.contains name) = a := by
    refine Dict.ext_get? fun key => ?_
    rw [Dict.get?_filter, Dict.contains]
    rcases h key with hsame | ⟨ha, v, hb, -⟩
    · rw [hsame]
      cases a.get? key <;> rfl
    · rw [ha, hb]
      rfl
  have hkeep : sig.firstFault? (b.filter fun name _ => a.contains name) = sig.firstFault? b := by
    refine sig.firstFault?_filter b _ fun name v hb hkept => ?_
    rw [Dict.contains, Option.isSome_eq_false_iff, Option.isNone_iff_eq_none] at hkept
    rcases h name with hsame | ⟨-, w, hw, himplied⟩
    · rw [hsame, hkept] at hb
      cases hb
    · rw [hw] at hb
      cases hb
      exact sig.fault?_of_implied himplied
  rw [← hkeep, hback]

/-- Decoding arguments that are filled in gives the same values up to zeros, or the same error. -/
theorem decode_fill (sig : Signature α) {a b : Dict Json} (h : sig.Fills a b) :
    (sig.decode b).map sig.normal = (sig.decode a).map sig.normal := by
  rw [decode_eq, decode_eq, sig.firstFault?_fill h]
  cases sig.firstFault? a with
  | some e => rfl
  | none => exact sig.read_fill h

/-! ## What is implied -/

/-- Whether every fallback is read back when it is written as an argument. -/
def Writes : {α : Type} → Signature α → Prop
  | _, .nil => True
  | _, .cons p rest => p.fallback.elim True p.kind.Writes ∧ rest.Writes

/-- Defaults belong to declared names. -/
theorem mem_names_of_mem_defaults (sig : Signature α) {name : String} {v : Json}
    (h : (name, v) ∈ sig.defaults) : name ∈ sig.names := by
  rw [defaults_eq, List.mem_filterMap] at h
  obtain ⟨⟨key, property⟩, hproperty, hdefault⟩ := h
  obtain ⟨w, -, hentry⟩ := Option.map_eq_some_iff.1 hdefault
  cases hentry
  rw [← map_fst_properties]
  exact List.mem_map_of_mem hproperty

/-- The defaults of a signature are implied. -/
theorem implied_of_mem_defaults (sig : Signature α) (hdistinct : sig.names.Nodup)
    (hwrites : sig.Writes) {name : String} {v : Json} (h : (name, v) ∈ sig.defaults) :
    sig.Implied name v := by
  induction sig with
  | nil => trivial
  | cons p rest ih =>
    rw [names, List.nodup_cons] at hdistinct
    obtain ⟨hfallback, hwrites⟩ := hwrites
    rw [defaults, List.mem_append, Option.mem_toList, Option.map_eq_some_iff] at h
    rcases h with ⟨x, hx, hentry⟩ | h
    · cases hentry
      rw [hx] at hfallback
      exact ⟨fun _ => Parameter.implied_encode hx hfallback,
        rest.implied_of_not_mem _ hdistinct.1⟩
    · refine ⟨?_, ih hdistinct.2 hwrites h⟩
      rintro rfl
      exact absurd (rest.mem_names_of_mem_defaults h) hdistinct.1

/-- Zero is implied under a name of which all rules are those of an integer that may be left out. -/
theorem implied_zero (sig : Signature α) {name : String}
    (h : ∀ r ∈ sig.rules, r.name = name →
      r.required = false ∧ r.range = .natural r.range.bound) : sig.Implied name (.int 0) := by
  induction sig with
  | nil => trivial
  | cons p rest ih =>
    simp only [rules, List.mem_cons, forall_eq_or_imp] at h
    obtain ⟨hfirst, hrest⟩ := h
    refine ⟨fun hname => ?_, ih hrest⟩
    obtain ⟨hoptional, hrange⟩ := hfirst hname
    exact Parameter.implied_zero hoptional hrange

end Signature

/-! ## The operations -/

/-- A limit is never zero, unless the usual one is. -/
theorem GitHistory.limitOr_ne_zero {fallback : Nat} (h : fallback ≠ 0) (limit : Nat) :
    limitOr fallback limit ≠ 0 := by
  unfold limitOr
  split <;> assumption

/-- A limit of zero is the usual limit. -/
theorem GitHistory.limitOr_normal (fallback limit : Nat) :
    limitOr fallback (if limit = 0 then fallback else limit) = limitOr fallback limit := by
  unfold limitOr
  split <;> simp_all

/-- A number of results of zero is the usual number. -/
theorem Searxng.recordsPlan_normal (request : SearchRequest) (n : Nat) (template : Template)
    (query : String) :
    recordsPlan request (if n = 0 then defaultMaxResults else n) template query =
      recordsPlan request n template query := by
  unfold recordsPlan
  split <;> simp_all

/-- Whether a plan asks for something to show: for at least one record or line, from a page that
there is, and a program for as many lines as are shown. -/
structure Plan.AsksForSome (plan : Plan) : Prop where
  limit : plan.limit ≠ some 0
  page : ∀ r page, plan.request = .search r → r.get? "pageno" = some page →
    ∃ n, 0 < n ∧ page = Template.number n
  told : ∀ r n, plan.request = .command r → plan.limit = some n →
    ["-n", Template.number n] <:+: r.arguments

/-- A plan for records asks for one record at least, and for a page that there is. -/
theorem Searxng.asksForSome_recordsPlan {request : SearchRequest} {maxResults : Nat}
    {template : Template} {query : String}
    (h : ∀ page, request.get? "pageno" = some page → ∃ n, 0 < n ∧ page = Template.number n) :
    (recordsPlan request maxResults template query).AsksForSome where
  limit := by
    simp only [recordsPlan, ne_eq, Option.some.injEq]
    split
    · decide
    · assumption
  page := by
    rintro r page ⟨⟩ hpage
    exact h page hpage
  told := nofun

namespace Operation

variable {p : Profile} {op : Operation}

/-- No operation tells zero from the fallback of a number. -/
theorem plan_normal (hop : op ∈ p.operations) (x : op.Args) :
    op.plan (op.signature.normal x) = op.plan x := by
  cases p, op, hop using Profile.operation_cases
  case searchCommits =>
    obtain ⟨repoPath, query, mode, limit, ⟨⟩⟩ := x
    simp only [GitHistory.searchCommits, Signature.required, Signature.withDefault,
      Signature.normal, Parameter.normal, Kind.normal, Option.elim, GitHistory.limitOr_normal]
  case getFileHistory =>
    obtain ⟨repoPath, filePath, limit, ⟨⟩⟩ := x
    simp only [GitHistory.getFileHistory, Signature.required, Signature.withDefault,
      Signature.normal, Parameter.normal, Kind.normal, Option.elim, GitHistory.limitOr_normal]
  case indexTypescript => rfl
  case indexPython => rfl
  case search =>
    obtain ⟨query, categories, language, timeRange, level, pageno, maxResults, ⟨⟩⟩ := x
    have hlevel : (if level = 0 then 0 else level) = level := by split <;> simp_all
    have hpage : max (if pageno = 0 then 1 else pageno) 1 = max pageno 1 := by
      split <;> simp_all
    simp only [Searxng.search, Signature.required, Signature.withDefault, Searxng.withMaxResults,
      Signature.normal, Parameter.normal, Kind.normal, Option.elim, Searxng.recordsPlan_normal,
      hlevel, hpage]
  -- the other searches plan for records, with one value or none beside the query
  case searchImages | searchStackoverflow =>
    obtain ⟨query, maxResults, ⟨⟩⟩ := x
    exact congrArg Except.ok (Searxng.recordsPlan_normal _ _ _ _)
  case searchNews | searchCode | searchDocs | searchPackages | searchGithub =>
    obtain ⟨query, choice, maxResults, ⟨⟩⟩ := x
    exact congrArg Except.ok (Searxng.recordsPlan_normal _ _ _ _)

/-- The operations can write all their defaults. -/
theorem writes (hop : op ∈ p.operations) : op.signature.Writes := by
  have hcount : Searxng.withMaxResults.Writes := ⟨show 10 ≤ Width.bits64.bound by decide, trivial⟩
  have hlimit : ∀ n ≤ 10, n ≤ Width.bits32.bound := by
    intro n hn
    exact hn.trans (by decide)
  cases p, op, hop using Profile.operation_cases
  case searchCommits => exact ⟨trivial, trivial, rfl, hlimit 10 (by decide), trivial⟩
  case getFileHistory => exact ⟨trivial, trivial, hlimit 5 (by decide), trivial⟩
  case indexTypescript => exact ⟨trivial, trivial⟩
  case indexPython => exact ⟨trivial, trivial, trivial⟩
  case search =>
    exact ⟨trivial, trivial, trivial, nofun, Nat.zero_le _, hlimit 1 (by decide), hcount⟩
  case searchImages => exact ⟨trivial, hcount⟩
  case searchNews => exact ⟨trivial, rfl, hcount⟩
  case searchCode => exact ⟨trivial, nofun, hcount⟩
  case searchStackoverflow => exact ⟨trivial, hcount⟩
  case searchDocs => exact ⟨trivial, nofun, hcount⟩
  case searchPackages => exact ⟨trivial, rfl, hcount⟩
  case searchGithub => exact ⟨trivial, rfl, hcount⟩

/-- Every plan asks for something to show. -/
theorem asksForSome_of_plan (hop : op ∈ p.operations) {x : op.Args} {plan : Plan}
    (h : op.plan x = .ok plan) : plan.AsksForSome := by
  cases p, op, hop using Profile.operation_cases
  case searchCommits =>
    obtain ⟨repoPath, query, mode, limit, ⟨⟩⟩ := x
    cases h
    refine ⟨?_, nofun, ?_⟩
    · simpa using GitHistory.limitOr_ne_zero (by decide : 10 ≠ 0) limit
    · rintro r n ⟨⟩ ⟨⟩
      exact ⟨["log", mode.filter query], [GitHistory.prettyFormat, "--date=iso"], rfl⟩
  case getFileHistory =>
    obtain ⟨repoPath, filePath, limit, ⟨⟩⟩ := x
    cases h
    refine ⟨?_, nofun, ?_⟩
    · simpa using GitHistory.limitOr_ne_zero (by decide : 5 ≠ 0) limit
    · rintro r n ⟨⟩ ⟨⟩
      exact ⟨["log"], [GitHistory.prettyFormat, "--date=iso", "--", filePath], rfl⟩
  case indexTypescript =>
    cases h
    exact ⟨nofun, nofun, nofun⟩
  case indexPython =>
    cases h
    exact ⟨nofun, nofun, nofun⟩
  case search =>
    obtain ⟨query, categories, language, timeRange, level, pageno, maxResults, ⟨⟩⟩ := x
    simp only [Searxng.search] at h
    split at h
    · cases h
    · cases h
      refine Searxng.asksForSome_recordsPlan fun page hpage => ⟨max pageno 1, by omega, ?_⟩
      obtain ⟨-, rfl⟩ : Template.number (max pageno 1) ≠ "" ∧
          Template.number (max pageno 1) = page := by
        simpa [Searxng.searchRequest, SearchRequest.get?_paramOpt_of_ne] using hpage
      rfl
  all_goals
    cases h
    refine Searxng.asksForSome_recordsPlan fun page hpage => ?_
    simp [Searxng.searchRequest] at hpage

/-- Filling in changes no plan, and no error. -/
theorem planObject_fill (hop : op ∈ p.operations) {a b : Dict Json}
    (h : op.signature.Fills a b) : op.planObject b = op.planObject a := by
  have hdecode := op.signature.decode_fill h
  unfold planObject
  cases hb : op.signature.decode b <;> cases ha : op.signature.decode a <;>
    rw [ha, hb] at hdecode <;> simp only [Except.map] at hdecode
  case error.error e e' =>
    cases hdecode
    rfl
  case ok.ok y x =>
    have hnormal : op.signature.normal y = op.signature.normal x := Except.ok.inj hdecode
    have hplan : op.plan y = op.plan x := by
      rw [← plan_normal hop y, hnormal, plan_normal hop x]
    simp only [hplan]
  case error.ok => cases hdecode
  case ok.error => cases hdecode

/-- The defaults that a spec tells are implied. -/
theorem implied_of_defaults (hop : op ∈ p.operations) {name : String} {v : Json}
    (h : op.spec.defaults.get? name = some v) : op.signature.Implied name v := by
  have hdistinct : op.signature.names.Nodup := (Profile.describable hop).distinct
  have hmem : (name, v) ∈ op.signature.defaults := Dict.mem_of_get?_ofList h
  exact op.signature.implied_of_mem_defaults hdistinct (writes hop) hmem

/-- Zero is implied for what is told to be an integer. -/
theorem implied_zero_of_type (hop : op ∈ p.operations) {info : ParameterInfo}
    (hinfo : info ∈ op.spec.parameters) (htype : info.type = "integer") :
    op.signature.Implied info.name (.int 0) := by
  refine op.signature.implied_zero fun r hr hname => Profile.natural_of_word hop r hr ?_
  have hword := typeOf_spec (Profile.describable hop) hr
  rw [hname, typeOf_of_mem_parameters hinfo, htype] at hword
  exact hword.symm

end Operation

/-- Whether the second arguments are the first with some of the defaults filled in. -/
def Spec.FillsIn (s : Spec) (a b : Dict Json) : Prop :=
  ∀ key, b.get? key = a.get? key ∨ (a.get? key = none ∧ b.get? key = s.defaults.get? key)

/-- **The defaults that are told are those that are used.** The spec of an operation is the one that
is made of its schema, so its defaults are those that the schema tells. Filling in any of them
changes neither a plan nor an error, whatever the arguments are. Neither does zero for an integer
that is left out, so that every plan asks for something to show. -/
theorem plan_fill_defaults {p : Profile} {name : String} {spec : Spec}
    (h : p.registry.lookup name = some spec) :
    Spec.ofSchema spec.name spec.description spec.errorLabel (.ofDict spec.inputSchema) spec.plan =
      .ok spec ∧
    (∀ a b, spec.FillsIn a b → spec.plan b = spec.plan a) ∧
    (∀ a, ∀ info ∈ spec.parameters, info.type = "integer" → a.get? info.name = none →
      spec.plan (a.insert info.name (.int 0)) = spec.plan a) ∧
    ∀ a plan, spec.plan a = .ok plan → plan.AsksForSome := by
  obtain ⟨op, hop, rfl, rfl⟩ := p.exists_operation_of_lookup h
  refine ⟨Spec.ofSchema_spec (Profile.describable hop), ?_, ?_, ?_⟩
  · intro a b hfills
    refine Operation.planObject_fill hop fun key => ?_
    rcases hfills key with hsame | ⟨ha, hb⟩
    · exact .inl hsame
    · cases hdefault : op.spec.defaults.get? key with
      | none => exact .inl (by rw [ha, hb, hdefault])
      | some v =>
        exact .inr ⟨ha, v, hb.trans hdefault, Operation.implied_of_defaults hop hdefault⟩
  · intro a info hinfo htype hnone
    refine Operation.planObject_fill hop fun key => ?_
    rw [Dict.get?_insert]
    by_cases hkey : info.name = key
    · subst hkey
      exact .inr ⟨hnone, .int 0, if_pos rfl, Operation.implied_zero_of_type hop hinfo htype⟩
    · exact .inl (if_neg hkey)
  · intro a plan hplan
    obtain ⟨x, -, hx⟩ := Operation.planObject_eq_ok_iff.1 hplan
    exact Operation.asksForSome_of_plan hop hx

/-- The first page is the default of a search, which is planned with it and without. -/
theorem plan_fill_defaults_page :
    Profile.searxng.registry.lookup "search" = some Searxng.search.spec ∧
      Searxng.search.spec.plan (.ofList [("query", .str "cats"), ("pageno", .int 1)]) =
        Searxng.search.spec.plan (.ofList [("query", .str "cats")]) ∧
      ∃ plan, Searxng.search.spec.plan (.ofList [("query", .str "cats")]) = .ok plan := by
  have hlookup : Profile.searxng.registry.lookup "search" = some Searxng.search.spec := rfl
  refine ⟨hlookup, (plan_fill_defaults hlookup).2.1 _ _ fun key => ?_, _, rfl⟩
  have hdefault : Searxng.search.spec.defaults.get? "pageno" = some (.int 1) := rfl
  rw [Dict.get?_ofList (by simp), Dict.get?_ofList (by simp)]
  by_cases hkey : key = "pageno"
  · subst hkey
    exact .inr ⟨rfl, hdefault.symm⟩
  · left
    simp [Dict.find?, Ne.symm hkey]

end ToolRelay
