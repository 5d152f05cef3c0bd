import ToolRelay.Proofs.Fallbacks

/-!
# The choices of a parameter

People choose among the values that a parameter is described with, and these are read from the
schema; which values are planned is settled by the signature. For a parameter with choices the two
agree over any accepted arguments, and its default is among them (`choices_accepted_iff`).
-/

set_option autoImplicit false

namespace ToolRelay

/-! ## One argument set -/

/-- A range with labels admits no other text. -/
theorem ValueRange.textual_eq_false {range : ValueRange} (h : range.labels ≠ []) :
    range.textual = false := by
  induction range with
  | text => exact absurd rfl h
  | natural => rfl
  | label => rfl
  | orNull range ih => exact ih h

/-- A value that is put under the name of a rule fits exactly if it lies in the range. -/
theorem ParameterRule.fits_insert_iff (r : ParameterRule) (args : Dict Json) (v : Json) :
    r.Fits (args.insert r.name v) ↔ r.range.Holds v := by
  simp [Fits, Dict.contains, Dict.get?_insert]

/-- A value under another key changes nothing for a rule. -/
theorem ParameterRule.fits_insert_of_ne {r : ParameterRule} {key : String} (h : key ≠ r.name)
    (args : Dict Json) (v : Json) : r.Fits (args.insert key v) ↔ r.Fits args := by
  simp only [Fits, Dict.contains, Dict.get?_insert, if_neg h]

/-- Where the rules are kept, they are kept with one argument set to a value of its range. -/
theorem Signature.fits_insert_iff {α : Type} {sig : Signature α} (distinct : sig.names.Nodup)
    {args : Dict Json} (hfits : ∀ r ∈ sig.rules, r.Fits args) {r : ParameterRule}
    (hr : r ∈ sig.rules) (v : Json) :
    (∀ q ∈ sig.rules, q.Fits (args.insert r.name v)) ↔ r.range.Holds v := by
  rw [← r.fits_insert_iff args v]
  refine ⟨fun h => h r hr, fun h q hq => ?_⟩
  by_cases hname : r.name = q.name
  · -- names are distinct, so this is the rule of the argument
    rw [← map_name_rules] at distinct
    have hsame : r = q := List.inj_on_of_nodup_map distinct hr hq hname
    rwa [← hsame]
  · rw [ParameterRule.fits_insert_of_ne hname]
    exact hfits q hq

/-- A text is no level of filtering. -/
theorem FiltersTooMuch.of_insert_str {name key s : String} {args : Dict Json}
    (h : FiltersTooMuch name (args.insert key (.str s))) : FiltersTooMuch name args := by
  obtain ⟨hname, n, hn, hget⟩ := h
  rw [Dict.get?_insert] at hget
  split at hget
  · cases hget
  · exact ⟨hname, n, hn, hget⟩

/-! ## The labels among the defaults -/

/-- What is written for a value of a kind with labels is one of them, or `null`. -/
theorem Kind.exists_label_of_writes {α : Type} (kind : Kind α) {x : α} (hwrites : kind.Writes x)
    (hlabels : kind.range.labels ≠ []) (hnull : kind.encode x ≠ .null) :
    ∃ s ∈ kind.range.labels, kind.encode x = .str s := by
  induction kind with
  | text => exact absurd rfl hlabels
  | natural width => exact absurd rfl hlabels
  | label ls => exact ⟨ls.label x, (ls.exists_find?_iff _).1 ⟨x, hwrites⟩, rfl⟩
  | optional kind ih =>
    cases x with
    | none => exact absurd rfl hnull
    | some y => exact ih (hwrites y rfl).2 hlabels hnull

/-- A default is what is written for a fallback of the rule with its name. -/
theorem Signature.exists_label_of_mem_defaults {α : Type} {sig : Signature α}
    (distinct : sig.names.Nodup) (hwrites : sig.Writes) {r : ParameterRule} (hr : r ∈ sig.rules)
    (hlabels : r.range.labels ≠ []) {v : Json} (hv : (r.name, v) ∈ sig.defaults)
    (hnull : v ≠ .null) : ∃ s ∈ r.range.labels, v = .str s := by
  induction sig with
  | nil => cases hr
  | cons p rest ih =>
    rw [names, List.nodup_cons] at distinct
    obtain ⟨hfallback, hwrites⟩ := hwrites
    rw [defaults, List.mem_append, Option.mem_toList, Option.map_eq_some_iff] at hv
    rcases List.mem_cons.1 hr with rfl | hr
    · rcases hv with ⟨x, hx, hentry⟩ | hv
      · cases hentry
        rw [hx] at hfallback
        exact p.kind.exists_label_of_writes hfallback hlabels hnull
      · exact absurd (rest.mem_names_of_mem_defaults hv) distinct.1
    · rcases hv with ⟨x, -, hentry⟩ | hv
      · -- the first name is not that of a later rule
        have hname : p.name = r.name := congrArg Prod.fst hentry
        refine absurd ?_ distinct.1
        rw [hname, ← map_name_rules]
        exact List.mem_map_of_mem hr
      · exact ih distinct.2 hwrites hr hv

/-! ## What is described and what is planned -/

/-- The default that a parameter is described with is that of its name. -/
theorem Spec.default_of_mem_parameters {s : Spec} {info : ParameterInfo}
    (h : info ∈ s.parameters) : info.default = s.defaults.get? info.name := by
  rw [parameters, List.mem_map] at h
  obtain ⟨⟨name, property⟩, -, rfl⟩ := h
  rfl

/-- A text in an accepted object is accepted exactly if it lies in the range of its parameter. -/
theorem Operation.exists_planObject_insert_iff {p : Profile} {op : Operation}
    (hop : op ∈ p.operations) {args : Dict Json} {plan : Plan}
    (haccepted : op.planObject args = .ok plan) {r : ParameterRule} (hr : r ∈ op.signature.rules)
    (s : String) :
    (∃ plan', op.planObject (args.insert r.name (.str s)) = .ok plan') ↔
      r.range.Holds (.str s) := by
  have hverdict := fun a => (planObject_verdict hop a).1
  simp only [← rules_eq_parameterRules hop] at hverdict
  obtain ⟨hfits, hlevel⟩ := (hverdict args).1 ⟨plan, haccepted⟩
  rw [hverdict, Signature.fits_insert_iff (Profile.describable hop).distinct hfits hr]
  exact and_iff_left fun h => hlevel h.of_insert_str

/-- **The choices shown are the values accepted.** Where a parameter of an operation is described
with choices, accepted arguments with it set to a text are accepted exactly when the text is one of
them; and a default that it is described with is one of them, or `null`. -/
theorem choices_accepted_iff {p : Profile} {name : String} {spec : Spec}
    (hlookup : p.registry.lookup name = some spec) {info : ParameterInfo}
    (hinfo : info ∈ spec.parameters) (hlisted : info.choices ≠ []) :
    (∀ args plan, spec.plan args = .ok plan → ∀ s,
      (∃ plan', spec.plan (args.insert info.name (.str s)) = .ok plan') ↔ s ∈ info.choices) ∧
    ∀ v, info.default = some v → v ≠ .null → ∃ s ∈ info.choices, v = .str s := by
  obtain ⟨op, hop, rfl, -⟩ := p.exists_operation_of_lookup hlookup
  have hdescribable := Profile.describable hop
  obtain ⟨r, hr, hname, hchoices⟩ := Operation.exists_rule_of_mem_parameters hdescribable hinfo
  rw [hchoices] at hlisted
  rw [hchoices, ← hname]
  constructor
  · intro args plan haccepted s
    refine (Operation.exists_planObject_insert_iff hop haccepted hr s).trans ?_
    simp [ValueRange.holds_str_iff, ValueRange.textual_eq_false hlisted]
  · intro v hdefault hnull
    rw [Spec.default_of_mem_parameters hinfo, ← hname] at hdefault
    have hmem : (r.name, v) ∈ op.signature.defaults := Dict.mem_of_get?_ofList hdefault
    exact Signature.exists_label_of_mem_defaults hdescribable.distinct (Operation.writes hop) hr
      hlisted hmem hnull

/-- What a search of repositories may be set to search for. -/
theorem choices_accepted_iff_search_type :
    ∃ info ∈ Searxng.searchGithub.spec.parameters,
      info.name = "search_type" ∧ info.choices = ["repos", "code"] ∧
      ∀ s, (∃ plan, Searxng.searchGithub.spec.plan
        ((Dict.ofList [("query", .str "relay")]).insert info.name (.str s)) = .ok plan) ↔
          s = "repos" ∨ s = "code" := by
  have hlookup : Profile.searxng.registry.lookup "search_github" =
      some Searxng.searchGithub.spec := rfl
  have hop : Searxng.searchGithub ∈ Profile.searxng.operations := by
    simp [Profile.operations, Searxng.operations]
  have hrule : ParameterRule.mayBe "search_type" (.label ["repos", "code"]) ∈
      Searxng.searchGithub.signature.rules := .tail _ (.head _)
  obtain ⟨info, hinfo, hname, -, hchoices⟩ :=
    Operation.exists_parameter (Profile.describable hop) hrule
  replace hchoices : info.choices = ["repos", "code"] := hchoices
  refine ⟨info, hinfo, hname, hchoices, fun s => ?_⟩
  rw [(choices_accepted_iff hlookup hinfo (by simp [hchoices])).1 _ _ rfl s]
  simp [hchoices]

end ToolRelay
