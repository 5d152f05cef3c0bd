import ToolRelay.Proofs.FileArguments
import ToolRelay.Proofs.Operations

/-!
# Arguments that are spelled out

A client sends texts and numbers as values; on a command line both are written down as texts, and
the types of the parameters have to tell them apart again. A text stands for itself where a text is
wanted, also one of digits, and an integer is read from its decimal text if it is one of 64 bits,
the sign among them. The one parameter with a larger range than that is the number of results, so
accepted arguments come back as they were unless they ask for `2 ^ 63` results or more
(`Coercion.arguments_eq_iff`).
-/

set_option autoImplicit false

namespace ToolRelay

namespace Argument

/-- The text that a value is spelled by: a text is its own spelling, and an integer is written in
decimal. Other values are not spelled. -/
def spelling? : Json → Option String
  | .str s => some s
  | .int n => some (String.ofList (Decimal.ofInt n))
  | _ => none

/-- Whether texts spell out arguments: each argument has a spelling, which stands under its name,
and nothing else is given. -/
structure Spells (provided : Dict String) (args : Dict Json) : Prop where
  spelled : ∀ key v, args.get? key = some v →
    ∃ text, spelling? v = some text ∧ provided.get? key = some text
  complete : ∀ key, args.get? key = none → provided.get? key = none

end Argument

/-- The numbers in a range are natural numbers. -/
theorem ValueRange.nonneg_of_holds {range : ValueRange} {n : Int} (h : range.Holds (.int n)) :
    0 ≤ n := by
  induction range with
  | text =>
    obtain ⟨s, hs⟩ := h
    cases hs
  | natural bound =>
    obtain ⟨m, -, hm⟩ := h
    cases hm
    exact Int.natCast_nonneg m
  | label labels => simp [Holds] at h
  | orNull range ih => exact ih (by simpa [Holds] using h)

namespace Coercion

/-- Where a parameter admits a value, the spelling of the value comes to it, unless it is an integer
of more than 64 bits with the sign. -/
theorem coerce_spelling_iff {range : ValueRange} {v : Json} {text : String} (hv : range.Holds v)
    (htext : Argument.spelling? v = some text) :
    coerce text range.word = v ↔ ∀ n, v = .int n → n < 0x8000000000000000 := by
  cases v with
  | str s =>
    cases htext
    rw [word_of_holds_str hv, coerce_string]
    exact iff_of_true rfl nofun
  | int n =>
    cases htext
    have hnonneg : 0 ≤ n := ValueRange.nonneg_of_holds hv
    have hread := coerce_integer_fileText n
    have hfile : Argument.fileText (.int n) = String.ofList (Decimal.ofInt n) := by
      rw [← toList_fileText_int, String.ofList_toList]
    rw [hfile] at hread
    rw [word_of_holds_int hv, hread]
    split
    · next hbounds =>
      refine iff_of_true rfl ?_
      rintro m ⟨⟩
      exact hbounds.2
    · next hbounds =>
      -- the text is not read, and it stays a text
      refine iff_of_false nofun fun hsmall => hbounds ?_
      exact ⟨by omega, hsmall n rfl⟩
  | _ => cases htext

/-- **What is spelled out is what is meant.** Accepted arguments of declared names that are texts and
integers come back from their spellings exactly when every integer among them is below
`2 ^ 63`. -/
theorem arguments_eq_iff {p : Profile} {name : String} {spec : Spec}
    (hlookup : p.registry.lookup name = some spec) {args : Dict Json} {plan : Plan}
    (hplan : spec.plan args = .ok plan)
    (hdeclared : ∀ key v, args.get? key = some v → ∃ parameter ∈ spec.parameters,
      parameter.name = key)
    {provided : Dict String} (hspelled : Argument.Spells provided args) :
    arguments spec provided = args ↔
      ∀ key n, args.get? key = some (.int n) → n < 0x8000000000000000 := by
  obtain ⟨op, hop, rfl, -⟩ := p.exists_operation_of_lookup hlookup
  obtain ⟨x, hdecode, -⟩ := Operation.planObject_eq_ok_iff.1 hplan
  have hfits := (Signature.exists_decode_iff op.signature args).1 ⟨x, hdecode⟩
  -- one argument at a time
  have hgiven : ∀ key v, args.get? key = some v →
      ((arguments op.spec provided).get? key = some v ↔
        ∀ n, v = .int n → n < 0x8000000000000000) := by
    intro key v hv
    obtain ⟨parameter, hparameter, rfl⟩ := hdeclared key v hv
    obtain ⟨r, hr, hname⟩ := (op.mem_parameters_iff_exists_rule parameter.name).1
      (List.mem_map_of_mem hparameter)
    rw [← hname] at hv ⊢
    obtain ⟨text, htext, hprovided⟩ := hspelled.spelled r.name v hv
    have hholds : r.range.Holds v := (hfits r hr).2 v hv
    rw [get?_arguments hop hr, hprovided, Option.map_some, Option.some_inj]
    exact coerce_spelling_iff hholds htext
  constructor
  · intro heq key n hn
    have hsame : (arguments op.spec provided).get? key = some (.int n) := by rw [heq, hn]
    exact (hgiven key (.int n) hn).1 hsame n rfl
  · intro hsmall
    refine Dict.ext_get? fun key => ?_
    cases hv : args.get? key with
    | none => rw [arguments, Dict.get?_map, hspelled.complete key hv, Option.map_none]
    | some v =>
      refine (hgiven key v hv).2 ?_
      rintro n rfl
      exact hsmall key n hv

/-- Arguments of a search for a text of digits, with a number of results. -/
def digitArguments (maxResults : Nat) : Dict Json :=
  .ofList [("max_results", .int maxResults), ("query", .str "42")]

/-- The spellings of these arguments. -/
def digitSpellings (maxResults : Nat) : Dict String :=
  .ofList [("max_results", String.ofList (Decimal.ofNat maxResults)), ("query", "42")]

/-- The arguments are a number of results and a query of digits. -/
theorem mem_of_digitArguments {maxResults : Nat} {key : String} {v : Json}
    (h : (digitArguments maxResults).get? key = some v) :
    (key = "max_results" ∧ v = .int maxResults) ∨ (key = "query" ∧ v = .str "42") := by
  have hmem := Dict.mem_of_get?_ofList h
  simpa using hmem

/-- These texts spell these arguments. -/
theorem spells_digitArguments (maxResults : Nat) :
    Argument.Spells (digitSpellings maxResults) (digitArguments maxResults) := by
  constructor
  · intro key v hv
    rcases mem_of_digitArguments hv with ⟨rfl, rfl⟩ | ⟨rfl, rfl⟩
    · exact ⟨_, rfl, rfl⟩
    · exact ⟨_, rfl, rfl⟩
  · intro key hnone
    have hargs : key ∉ (digitArguments maxResults).entries.map (·.1) :=
      Dict.find?_eq_none_iff.1 hnone
    rw [digitArguments, Dict.mem_keys_ofList] at hargs
    exact Dict.find?_eq_none_iff.2 fun hmem => hargs (Dict.mem_keys_ofList.1 hmem)

/-- Both arguments are declared. -/
theorem declared_digitArguments (maxResults : Nat) :
    ∀ key v, (digitArguments maxResults).get? key = some v →
      ∃ parameter ∈ Searxng.searchImages.spec.parameters, parameter.name = key := by
  intro key v hv
  have hnames : ∀ name ∈ Searxng.searchImages.signature.names,
      ∃ parameter ∈ Searxng.searchImages.spec.parameters, parameter.name = name := fun name hname =>
    List.mem_map.1 ((Searxng.searchImages.mem_parameters_iff name).2 hname)
  rcases mem_of_digitArguments hv with ⟨rfl, -⟩ | ⟨rfl, -⟩
  · exact hnames _ (by decide)
  · exact hnames _ (by decide)

/-- The text `42` stays a text, and the largest integer of 64 bits with the sign is read. -/
theorem arguments_eq_digits :
    arguments Searxng.searchImages.spec (digitSpellings 0x7FFFFFFFFFFFFFFF) =
      digitArguments 0x7FFFFFFFFFFFFFFF := by
  have hlookup : Profile.searxng.registry.lookup "search_images" =
      some Searxng.searchImages.spec := rfl
  obtain ⟨plan, hplan⟩ : ∃ plan,
      Searxng.searchImages.spec.plan (digitArguments 0x7FFFFFFFFFFFFFFF) = .ok plan := ⟨_, rfl⟩
  refine (arguments_eq_iff hlookup hplan (declared_digitArguments _)
    (spells_digitArguments _)).2 ?_
  intro key n hn
  rcases mem_of_digitArguments hn with ⟨-, heq⟩ | ⟨-, heq⟩
  · cases heq
    decide
  · cases heq

/-- The integer behind it is accepted for the number of results, and its spelling stays a text. -/
theorem arguments_ne_beyond :
    Profile.searxng.registry.lookup "search_images" = some Searxng.searchImages.spec ∧
      (∃ plan, Searxng.searchImages.spec.plan (digitArguments 0x8000000000000000) = .ok plan) ∧
      (∀ key v, (digitArguments 0x8000000000000000).get? key = some v →
        ∃ parameter ∈ Searxng.searchImages.spec.parameters, parameter.name = key) ∧
      Argument.Spells (digitSpellings 0x8000000000000000) (digitArguments 0x8000000000000000) ∧
      (arguments Searxng.searchImages.spec (digitSpellings 0x8000000000000000)).get?
        "max_results" = some (.str "9223372036854775808") ∧
      arguments Searxng.searchImages.spec (digitSpellings 0x8000000000000000) ≠
        digitArguments 0x8000000000000000 := by
  have hop : Searxng.searchImages ∈ Profile.searxng.operations := by
    simp [Profile.operations, Searxng.operations]
  have hr : maxResultsRule ∈ Searxng.searchImages.signature.rules := by decide
  have htext : (arguments Searxng.searchImages.spec (digitSpellings 0x8000000000000000)).get?
      "max_results" = some (.str "9223372036854775808") := by
    rw [show "max_results" = maxResultsRule.name from rfl, get?_arguments hop hr]
    rfl
  refine ⟨rfl, ⟨_, rfl⟩, declared_digitArguments _, spells_digitArguments _, htext, fun heq => ?_⟩
  rw [heq] at htext
  cases htext

end Coercion
end ToolRelay
