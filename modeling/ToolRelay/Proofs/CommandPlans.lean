import ToolRelay.Proofs.CommandOptions
import ToolRelay.Proofs.Decimals
import ToolRelay.Proofs.Fallbacks

/-!
# What a command tells of the arguments

An operation that runs a program puts every argument into the command in one place, and nothing else
there. So the command line has a length of its own, the numbers and paths on it can be read off
(`Scan.values`), and the whole command tells the arguments (`command_plan_faithful`), up to what an
operation cannot tell apart: zero or nothing in place of a default, and the two spellings of a
label. What is left of an argument then is its effective value.
-/

set_option autoImplicit false

namespace ToolRelay

/-! ## Effective arguments -/

/-- What an argument stands for where there is a default: that for nothing and for zero, the text
for a label that is written as an object, and otherwise the value itself. -/
def Json.effective (default : Option Json) : Option Json → Option Json
  | none => default
  | some (.int 0) => default
  | some (.obj [(label, .null)]) => some (.str label)
  | some v => some v

/-- The effective value of the argument of a name. -/
def Spec.effective (s : Spec) (args : Dict Json) (name : String) : Option Json :=
  Json.effective (s.defaults.get? name) (args.get? name)

/-- An integer other than zero counts for itself. -/
theorem Json.effective_some_int {default : Option Json} {n : Int} (h : n ≠ 0) :
    effective default (some (.int n)) = some (.int n) := by
  unfold effective
  split <;> simp_all

/-- The text of a label that was found is the text it was found by. -/
theorem Labels.label_of_find? {α : Type} {ls : Labels α} {s : String} {x : α}
    (h : ls.find? s = some x) : ls.label x = s := by
  simpa using List.find?_some h

/-- A label counts by its text, however it is written. -/
theorem Kind.effective_of_decodeLabel {α : Type} {ls : Labels α} {v : Json} {x : α}
    (default : Option Json) (h : decodeLabel ls v = .ok x) :
    Json.effective default (some v) = some (.str (ls.label x)) := by
  unfold decodeLabel at h
  split at h
  · next s =>
    cases hfind : ls.find? s with
    | none =>
      rw [hfind] at h
      cases h
    | some y =>
      rw [hfind] at h
      cases h
      rw [Labels.label_of_find? hfind]
      rfl
  · next s content =>
    cases hfind : ls.find? s with
    | none =>
      rw [hfind] at h
      cases h
    | some y =>
      rw [hfind] at h
      cases content <;> cases h
      rw [Labels.label_of_find? hfind]
      rfl
  · cases h
  · cases h

/-- A value that is read, and is no zero, is effective as it is written. -/
theorem Kind.effective_of_decode {α : Type} (kind : Kind α) {v : Json} {x : α}
    (default : Option Json) (hzero : v ≠ .int 0) (h : kind.decode v = .ok x) :
    Json.effective default (some v) = some (kind.encode x) := by
  induction kind with
  | text =>
    obtain rfl := decode_text_eq_ok_iff.1 h
    rfl
  | natural width =>
    obtain ⟨-, rfl⟩ := decode_natural_eq_ok_iff.1 h
    refine Json.effective_some_int ?_
    intro hn
    rw [hn] at hzero
    exact hzero rfl
  | label ls => exact effective_of_decodeLabel default h
  | optional kind ih =>
    rcases decode_optional_eq_ok_iff.1 h with ⟨rfl, rfl⟩ | ⟨-, y, hy, rfl⟩
    · rfl
    · exact ih hy

namespace Parameter

variable {α : Type} {p : Parameter α}

/-- The fallback is as normal as a value can be. -/
theorem normal_fallback {x : α} (h : p.fallback = some x) : p.normal x = x := by
  rw [normal, h, Option.elim]
  obtain ⟨name, description, kind, fallback⟩ := p
  cases kind with
  | natural width => exact ite_self x
  | _ => rfl

/-- A value that is not zero is in its normal form. -/
theorem normal_of_ne_zero {v : Json} {x : α} (hzero : v ≠ .int 0) (h : p.kind.decode v = .ok x) :
    p.normal x = x := by
  obtain ⟨name, description, kind, fallback⟩ := p
  cases fallback with
  | none => rfl
  | some d =>
    cases kind with
    | natural width =>
      obtain ⟨-, rfl⟩ := Kind.decode_natural_eq_ok_iff.1 h
      refine if_neg ?_
      rintro rfl
      exact hzero rfl
    | _ => rfl

/-- The effective value of an argument that is read is the normal form of what it comes to. -/
theorem effective_of_read {args : Dict Json} {x : α}
    (hzero : p.kind.range.Holds (.int 0) → p.Implied (.int 0)) (h : p.read args = .ok x) :
    Json.effective (p.fallback.map p.kind.encode) (args.get? p.name) =
      some (p.kind.encode (p.normal x)) := by
  rcases read_eq_ok_iff.1 h with ⟨v, hv, hdecode⟩ | ⟨hnone, hfallback⟩
  · rw [hv]
    by_cases hv₀ : v = .int 0
    · subst hv₀
      obtain ⟨d, y, hd, hy, hnormal⟩ := hzero ((p.kind.exists_decode_iff _).1 ⟨x, hdecode⟩)
      obtain rfl : y = x := Except.ok.inj (hy.symm.trans hdecode)
      rw [hnormal, normal_fallback hd, hd]
      rfl
    · rw [normal_of_ne_zero hv₀ hdecode]
      exact p.kind.effective_of_decode _ hv₀ hdecode
  · rw [hnone, normal_fallback hfallback, hfallback]
    rfl

end Parameter

namespace Signature

/-- Whether a table gives the fallback of every parameter. -/
def Tells : {α : Type} → Signature α → (String → Option Json) → Prop
  | _, .nil, _ => True
  | _, .cons p rest, table => table p.name = p.fallback.map p.kind.encode ∧ rest.Tells table

/-- Tables that agree on the names of a signature tell the same. -/
theorem tells_congr {α : Type} (sig : Signature α) {table table' : String → Option Json}
    (h : ∀ name ∈ sig.names, table name = table' name) (htells : sig.Tells table') :
    sig.Tells table := by
  induction sig with
  | nil => trivial
  | cons p rest ih =>
    obtain ⟨hfirst, hrest⟩ := htells
    refine ⟨(h p.name List.mem_cons_self).trans hfirst, ih ?_ hrest⟩
    intro name hname
    exact h name (List.mem_cons_of_mem _ hname)

/-- The properties of a signature tell its defaults. -/
theorem tells_properties {α : Type} (sig : Signature α) (h : sig.names.Nodup) :
    sig.Tells fun name => (Dict.find? name sig.properties).bind fun v => v.get? "default" := by
  induction sig with
  | nil => trivial
  | cons p rest ih =>
    rw [names, List.nodup_cons] at h
    constructor
    · simp only [properties, Dict.find?, if_true, Option.bind_some, p.get?_schema_default]
    · refine tells_congr rest (fun name hname => ?_) (ih h.2)
      have hne : p.name ≠ name := by
        rintro rfl
        exact h.1 hname
      simp only [properties, Dict.find?, if_neg hne]

/-- Arguments that come to the same up to zeros have the same effective values. -/
theorem effective_eq_of_normal_eq {α : Type} (sig : Signature α) {table : String → Option Json}
    (htells : sig.Tells table)
    (hzero : ∀ r ∈ sig.rules, r.range.Holds (.int 0) →
      r.required = false ∧ r.range = .natural r.range.bound)
    {a b : Dict Json} {x y : α} (ha : sig.read a = .ok x) (hb : sig.read b = .ok y)
    (h : sig.normal x = sig.normal y) {name : String} (hname : name ∈ sig.names) :
    Json.effective (table name) (a.get? name) = Json.effective (table name) (b.get? name) := by
  induction sig with
  | nil => cases hname
  | cons p rest ih =>
    obtain ⟨x, xs⟩ := x
    obtain ⟨y, ys⟩ := y
    obtain ⟨hx, hxs⟩ := (read_cons_eq_ok_iff _ _ _ _ _).1 ha
    obtain ⟨hy, hys⟩ := (read_cons_eq_ok_iff _ _ _ _ _).1 hb
    obtain ⟨hfirst, hrest⟩ := Prod.mk.inj h
    simp only [rules, List.mem_cons, forall_eq_or_imp] at hzero
    rcases List.mem_cons.1 hname with rfl | hname
    · have himplied : p.kind.range.Holds (.int 0) → p.Implied (.int 0) := by
        intro hholds
        obtain ⟨hoptional, hrange⟩ := hzero.1 hholds
        exact Parameter.implied_zero hoptional hrange
      rw [htells.1, Parameter.effective_of_read himplied hx,
        Parameter.effective_of_read himplied hy, hfirst]
    · exact ih htells.2 hzero.2 hxs hys hrest hname

end Signature

/-- Zero lies in ranges of integers only. -/
theorem ValueRange.word_of_holds_zero {range : ValueRange} (h : range.Holds (.int 0)) :
    range.word = "integer" := by
  induction range with
  | text =>
    obtain ⟨s, hs⟩ := h
    cases hs
  | natural bound => rfl
  | label labels =>
    obtain ⟨s, -, hs | hs⟩ := h <;> cases hs
  | orNull range ih =>
    rcases h with hnull | h
    · cases hnull
    · exact ih h

/-- Arguments with one normal form have the same effective values. -/
theorem Operation.effective_eq_of_normal_eq {p : Profile} {op : Operation} (hop : op ∈ p.operations)
    {a b : Dict Json} {x y : op.Args} (ha : op.signature.decode a = .ok x)
    (hb : op.signature.decode b = .ok y) (h : op.signature.normal x = op.signature.normal y)
    {name : String} (hname : name ∈ op.spec.parameters.map (·.name)) :
    op.spec.effective a name = op.spec.effective b name := by
  have hdistinct : op.signature.names.Nodup := (Profile.describable hop).distinct
  have htells : op.signature.Tells fun name => op.spec.defaults.get? name := by
    refine Signature.tells_congr _ (fun name _ => ?_) (op.signature.tells_properties hdistinct)
    rw [show op.spec.defaults = Spec.defaultsOf op.signature.properties from
      congrArg Dict.ofList op.signature.defaults_eq]
    refine Spec.get?_defaultsOf ?_ name
    rwa [Signature.map_fst_properties]
  refine op.signature.effective_eq_of_normal_eq htells ?_ (Signature.read_of_decode ha)
    (Signature.read_of_decode hb) h ((op.mem_parameters_iff name).1 hname)
  intro r hr hholds
  exact Profile.natural_of_word hop r hr (ValueRange.word_of_holds_zero hholds)

/-! ## Values on a command line -/

namespace Scan

/-- The values that an option is given. -/
def values (option : String) : Scan → List String → List String
  | _, [] => []
  | .free, argument :: rest =>
    (if argument = option then rest.head?.toList else []) ++
      (free.step argument).values option rest
  | s, argument :: rest => (s.step argument).values option rest

variable {option argument : String} {rest : List String}

/-- What is no option with a value, and not `--`, is passed over. -/
theorem values_other (hother : argument ∉ "--" :: valued) (hoption : option ∈ valued) :
    free.values option (argument :: rest) = free.values option rest := by
  have hne : argument ≠ option := by
    rintro rfl
    exact hother (List.mem_cons_of_mem _ hoption)
  rw [values, if_neg hne, step_other hother, List.nil_append]

/-- An option takes its value along, whatever that is. -/
theorem values_valued (value : String) (h : argument ∈ valued) :
    free.values option (argument :: value :: rest) =
      (if argument = option then [value] else []) ++ free.values option rest := by
  rw [values, step_valued h]
  rfl

/-- Operands are no values of options. -/
theorem values_operands (rest : List String) : operands.values option rest = [] := by
  induction rest with
  | nil => rfl
  | cons argument rest ih => exact ih

/-- Behind two dashes no option has a value. -/
theorem values_end (hoption : option ∈ valued) : free.values option ("--" :: rest) = [] := by
  have hne : "--" ≠ option := by
    have hall : ∀ o ∈ valued, "--" ≠ o := by decide
    exact hall option hoption
  have hstep : free.step "--" = .operands := rfl
  rw [values, if_neg hne, hstep, values_operands]
  rfl

/-- The last argument is followed by no value. -/
theorem values_singleton (argument : String) : free.values option [argument] = [] := by
  rw [values]
  split <;> rfl

end Scan

/-- The values that an option is given in a request, as its program reads it. -/
def CommandRequest.valuesOf (r : CommandRequest) (option : String) : List String :=
  Scan.free.values option r.arguments

open Scan

namespace GitHistory

/-- A search for commits has one limit, which is its number. -/
theorem values_searchCommits (mode : SearchMode) (query number : String) :
    free.values "-n" ["log", mode.filter query, "-n", number, prettyFormat, "--date=iso"] =
      [number] := by
  have hfilter : mode.filter query ∉ "--" :: valued := by
    cases mode with
    | message => exact glued_not_mem query (by decide)
    | diff => exact glued_not_mem query (by decide)
  rw [values_other (by decide) (by decide), values_other hfilter (by decide),
    values_valued number (by decide), values_other (by decide) (by decide), values_singleton]
  rfl

/-- The history of a file has one limit, which is its number. -/
theorem values_getFileHistory (number path : String) :
    free.values "-n" ["log", "-n", number, prettyFormat, "--date=iso", "--", path] = [number] := by
  rw [values_other (by decide) (by decide), values_valued number (by decide),
    values_other (by decide) (by decide), values_other (by decide) (by decide),
    values_end (by decide)]
  rfl

end GitHistory

namespace Scip

/-- The index of a project in TypeScript is written to one path. -/
theorem values_indexTypescript (path : String) :
    free.values "--output" ["index", "--cwd", path, "--output", indexPath path] =
      [indexPath path] := by
  rw [values_other (by decide) (by decide), values_valued path (by decide),
    values_valued (indexPath path) (by decide)]
  rfl

/-- The index of a project in Python is written to one path. -/
theorem values_indexPython (path name : String) :
    free.values "--output" ["index", "--project-name", name, "--output", indexPath path, path] =
      [indexPath path] := by
  rw [values_other (by decide) (by decide), values_valued name (by decide),
    values_valued (indexPath path) (by decide), values_singleton]
  rfl

/-- The index stands in the directory of the project, behind a slash of its own unless there is one
or no directory. -/
theorem indexPath_eq (path : String) :
    ∃ slash, indexPath path = path ++ slash ++ "index.scip" ∧ (slash = "" ∨ slash = "/") ∧
      (slash = "" ↔ path = "" ∨ path.toList.getLast? = some '/') := by
  unfold indexPath inside
  by_cases h : path = "" ∨ path.toList.getLast? = some '/'
  · refine ⟨"", ?_, .inl rfl, iff_of_true rfl h⟩
    rw [if_pos h, String.append_empty]
  · refine ⟨"/", ?_, .inr rfl, iff_of_false (by decide) h⟩
    rw [if_neg h]

end Scip

/-! ## Commands tell the arguments -/

/-- Different numbers are written differently. -/
theorem Template.number_injective {m n : Nat} (h : number m = number n) : m = n := by
  have hchars : Decimal.ofNat m = Decimal.ofNat n := String.ofList_injective h
  have hread := Decimal.digits?_ofNat m
  rw [hchars, Decimal.digits?_ofNat] at hread
  exact (Option.some.inj hread).symm

/-- The two filters begin in different ways, so neither can be taken for the other. -/
theorem GitHistory.filter_injective {mode mode' : SearchMode} {query query' : String}
    (h : mode.filter query = mode'.filter query') : mode = mode' ∧ query = query' := by
  have hchars := congrArg String.toList h
  cases mode <;> cases mode' <;>
    simp only [SearchMode.filter, String.toList_append] at hchars
  case message.message =>
    exact ⟨rfl, String.toList_inj.1 (List.append_cancel_left hchars)⟩
  case diff.diff =>
    exact ⟨rfl, String.toList_inj.1 (List.append_cancel_left hchars)⟩
  case message.diff =>
    have hsecond := congrArg (fun l => l[1]?) hchars
    cases hsecond
  case diff.message =>
    have hsecond := congrArg (fun l => l[1]?) hchars
    cases hsecond

namespace Operation

variable {p : Profile} {op : Operation}

/-- The same command comes of the same values, up to zeros. -/
theorem normal_eq_of_request_eq (hop : op ∈ p.operations) (hcommand : p ≠ .searxng) {x y : op.Args}
    {plan plan' : Plan} (hx : op.plan x = .ok plan) (hy : op.plan y = .ok plan')
    (h : plan.request = plan'.request) : op.signature.normal x = op.signature.normal y := by
  cases p, op, hop using Profile.operation_cases
  case searchCommits =>
    obtain ⟨repo, query, mode, limit, ⟨⟩⟩ := x
    obtain ⟨repo', query', mode', limit', ⟨⟩⟩ := y
    cases hx
    cases hy
    simp only [ExternalRequest.command.injEq, CommandRequest.mk.injEq, List.cons.injEq,
      Option.some.injEq, true_and, and_true] at h
    obtain ⟨⟨hfilter, hnumber⟩, rfl⟩ := h
    obtain ⟨rfl, rfl⟩ := GitHistory.filter_injective hfilter
    have hlimit : GitHistory.limitOr 10 limit = GitHistory.limitOr 10 limit' :=
      Template.number_injective hnumber
    show (repo, query, mode, GitHistory.limitOr 10 limit, ()) =
      (repo, query, mode, GitHistory.limitOr 10 limit', ())
    rw [hlimit]
  case getFileHistory =>
    obtain ⟨repo, path, limit, ⟨⟩⟩ := x
    obtain ⟨repo', path', limit', ⟨⟩⟩ := y
    cases hx
    cases hy
    simp only [ExternalRequest.command.injEq, CommandRequest.mk.injEq, List.cons.injEq,
      Option.some.injEq, true_and, and_true] at h
    obtain ⟨⟨hnumber, rfl⟩, rfl⟩ := h
    have hlimit : GitHistory.limitOr 5 limit = GitHistory.limitOr 5 limit' :=
      Template.number_injective hnumber
    show (repo, path, GitHistory.limitOr 5 limit, ()) =
      (repo, path, GitHistory.limitOr 5 limit', ())
    rw [hlimit]
  case indexTypescript =>
    obtain ⟨path, ⟨⟩⟩ := x
    obtain ⟨path', ⟨⟩⟩ := y
    cases hx
    cases hy
    simp only [Scip.indexing, ExternalRequest.command.injEq, CommandRequest.mk.injEq,
      List.cons.injEq, true_and, and_true] at h
    rw [h.1]
  case indexPython =>
    obtain ⟨path, project, ⟨⟩⟩ := x
    obtain ⟨path', project', ⟨⟩⟩ := y
    cases hx
    cases hy
    simp only [Scip.indexing, ExternalRequest.command.injEq, CommandRequest.mk.injEq,
      List.cons.injEq, true_and, and_true] at h
    obtain ⟨rfl, -, rfl⟩ := h
    rfl
  all_goals exact absurd rfl hcommand

end Operation

/-- Whether a command is that of a look at a history: it runs in the repository, and is told the
limit of the plan. -/
structure CommandRequest.Looks (r : CommandRequest) (args : Dict Json) (plan : Plan) : Prop where
  place : ∃ repo, args.get? "repoPath" = some (.str repo) ∧ r.workingDir = some repo
  limit : ∃ n, 1 ≤ n ∧ plan.limit = some n ∧ r.valuesOf "-n" = [Template.number n]

/-- Whether a command is that of an indexer: it writes into the directory of the project. -/
structure CommandRequest.Indexes (r : CommandRequest) (args : Dict Json) : Prop where
  output : ∃ path slash, args.get? "projectPath" = some (.str path) ∧
    r.valuesOf "--output" = [path ++ slash ++ "index.scip"] ∧ (slash = "" ∨ slash = "/") ∧
      (slash = "" ↔ path = "" ∨ path.toList.getLast? = some '/')

/-- How many arguments an operation gives its program. -/
def argumentCount : String → Nat
  | "search_commits" => 6
  | "get_file_history" => 7
  | "index_typescript" => 5
  | "index_python" => 6
  | _ => 0

/-- A plan of these operations runs one program, with arguments of a fixed number in their places.
-/
theorem Operation.exists_command_of_plan {p : Profile} {op : Operation} (hop : op ∈ p.operations)
    (hcommand : p ≠ .searxng) {args : Dict Json} {plan : Plan}
    (h : op.planObject args = .ok plan) :
    ∃ r, plan.request = .command r ∧ r.arguments.length = argumentCount op.name ∧
      (p = .gitHistory → r.Looks args plan) ∧ (p = .scip → r.Indexes args) := by
  have hlimit : ∀ fallback n, fallback ≠ 0 → 1 ≤ GitHistory.limitOr fallback n := by
    intro fallback n hfallback
    exact Nat.one_le_iff_ne_zero.2 (GitHistory.limitOr_ne_zero hfallback n)
  obtain ⟨x, hdecode, hplan⟩ := planObject_eq_ok_iff.1 h
  have hread := Signature.read_of_decode hdecode
  cases p, op, hop using Profile.operation_cases
  case searchCommits =>
    obtain ⟨repo, query, mode, limit, ⟨⟩⟩ := x
    have hrepo := (Signature.text_of_read hread).1
    cases hplan
    refine ⟨_, rfl, rfl, fun _ => ⟨⟨repo, hrepo, rfl⟩, ?_⟩, nofun⟩
    exact ⟨_, hlimit 10 limit (by decide), rfl, GitHistory.values_searchCommits mode query _⟩
  case getFileHistory =>
    obtain ⟨repo, path, limit, ⟨⟩⟩ := x
    have hrepo := (Signature.text_of_read hread).1
    cases hplan
    refine ⟨_, rfl, rfl, fun _ => ⟨⟨repo, hrepo, rfl⟩, ?_⟩, nofun⟩
    exact ⟨_, hlimit 5 limit (by decide), rfl, GitHistory.values_getFileHistory _ path⟩
  case indexTypescript =>
    obtain ⟨path, ⟨⟩⟩ := x
    have hpath := (Signature.text_of_read hread).1
    obtain ⟨slash, hindex, hslash⟩ := Scip.indexPath_eq path
    cases hplan
    refine ⟨_, rfl, rfl, nofun, fun _ => ⟨path, slash, hpath, ?_, hslash⟩⟩
    rw [← hindex]
    exact Scip.values_indexTypescript path
  case indexPython =>
    obtain ⟨path, project, ⟨⟩⟩ := x
    have hpath := (Signature.text_of_read hread).1
    obtain ⟨slash, hindex, hslash⟩ := Scip.indexPath_eq path
    cases hplan
    refine ⟨_, rfl, rfl, nofun, fun _ => ⟨path, slash, hpath, ?_, hslash⟩⟩
    rw [← hindex]
    exact Scip.values_indexPython path project
  all_goals exact absurd rfl hcommand

/-- **Commands lose and mix nothing.** The number of arguments is up to the operation. A look at a
history runs in the repository and is told the limit, an indexer writes into the directory of the
project, and arguments that come to the same command have the same effective values. -/
theorem command_plan_faithful {p : Profile} (hcommand : p ≠ .searxng) {name : String} {spec : Spec}
    (hlookup : p.registry.lookup name = some spec) {a : Dict Json} {plan : Plan}
    (ha : spec.plan a = .ok plan) :
    ∃ r, plan.request = .command r ∧ r.arguments.length = argumentCount name ∧
      (p = .gitHistory → r.Looks a plan) ∧ (p = .scip → r.Indexes a) ∧
      ∀ b plan', spec.plan b = .ok plan' → plan'.request = plan.request →
        ∀ key ∈ spec.parameters.map (·.name), spec.effective b key = spec.effective a key := by
  obtain ⟨op, hop, rfl, rfl⟩ := p.exists_operation_of_lookup hlookup
  obtain ⟨r, hr, hlength, hlooks, hindexes⟩ := Operation.exists_command_of_plan hop hcommand ha
  refine ⟨r, hr, hlength, hlooks, hindexes, ?_⟩
  intro b plan' hb hrequest key hkey
  obtain ⟨x, hx, hplan⟩ := Operation.planObject_eq_ok_iff.1 ha
  obtain ⟨y, hy, hplan'⟩ := Operation.planObject_eq_ok_iff.1 hb
  have hnormal := Operation.normal_eq_of_request_eq hop hcommand hplan' hplan hrequest
  exact Operation.effective_eq_of_normal_eq hop hy hx hnormal hkey

/-- A search for a text that begins like the other filter is told from it, and a mode that is
written as an object is the same mode. -/
theorem command_plan_faithful_diff :
    ∃ r, r.arguments = ["log", "-S-grep=x", "-n", "10", GitHistory.prettyFormat, "--date=iso"] ∧
      r.valuesOf "-n" = ["10"] ∧
      ∀ b plan', GitHistory.searchCommits.spec.plan b = .ok plan' →
        plan'.request = .command r →
        GitHistory.searchCommits.spec.effective b "mode" = some (.str "diff") := by
  have hlookup : Profile.gitHistory.registry.lookup "search_commits" =
      some GitHistory.searchCommits.spec := rfl
  obtain ⟨plan, hplan⟩ : ∃ plan, GitHistory.searchCommits.spec.plan (.ofList
      [("repoPath", .str "/r"), ("query", .str "-grep=x"), ("mode", .obj [("diff", .null)])]) =
        .ok plan := ⟨_, rfl⟩
  obtain ⟨r, hr, -, hlooks, -, hsame⟩ := command_plan_faithful (by decide) hlookup hplan
  obtain ⟨n, -, hn, hvalues⟩ := (hlooks rfl).limit
  cases hplan
  cases hr
  cases hn
  refine ⟨_, rfl, hvalues, fun b plan' hb hrequest => ?_⟩
  exact hsame b plan' hb hrequest "mode" (by decide)

end ToolRelay
