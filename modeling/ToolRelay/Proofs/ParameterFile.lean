import ToolRelay.Application
import ToolRelay.Proofs.Dispatching
import ToolRelay.Proofs.FileArguments
import ToolRelay.Proofs.Operations
import ToolRelay.Proofs.Requests

/-!
# A parameter file beside a client

The same arguments can come from a client and from a file. A client's reach the operation as they
are, those of a file go through texts (`Coercion.relay`). Where a client's call makes a request, the
call with the file makes the same one exactly when every declared parameter has a text or an integer
of 64 bits. What a client may send beside those is `null`, a larger number of results, and a label
written as an object. A file carries none of them: `null` is taken for a word that the request then
tells (`Operation.effectiveText_eq_of_request_eq`), and the others are refused.
-/

set_option autoImplicit false

namespace ToolRelay

/-! ## What a file comes to -/

/-- The arguments that the members of a file come to. -/
def Coercion.relayed (spec : Spec) (args : Dict Json) : Dict Json :=
  Coercion.arguments spec (args.map fun _ v => Argument.fileText v)

/-- A declared parameter has what its value in the file comes to. -/
theorem Coercion.get?_relayed {p : Profile} {op : Operation} (hop : op ∈ p.operations)
    {r : ParameterRule} (hr : r ∈ op.signature.rules) (args : Dict Json) :
    (relayed op.spec args).get? r.name = (args.get? r.name).map (relay r.range) := by
  rw [relayed, get?_arguments hop hr, Dict.get?_map, Option.map_map]
  rfl

/-! ## The call with a file -/

/-- A call with a file makes the requests of the call with what the members of the file come to. -/
theorem Surroundings.requests_call_file {p : Profile} {op : Operation} (hop : op ∈ p.operations)
    (hlookup : p.registry.lookup op.name = some op.spec) {w : Surroundings} {timeout : Option Nat}
    {config : Config} (hconfig : w.config timeout = .ok config) {path : String}
    {args : Dict Json} {octets : List UInt8} (hfile : w.fileAt path = some octets)
    (hload : Argument.loadFile .empty path (some octets) =
      .ok (args.map fun _ v => Argument.fileText v)) (elapsed : Nat) (json : Bool) :
    (w.call timeout elapsed p ⟨op.name, [], some path⟩ json).requests =
      ((Dispatch.call p.registry op.name (some (Coercion.relayed op.spec args))).run
        (w.outside.answer config)).2 := by
  have hfind : p.registry.find? op.name = some op.spec := by rw [Registry.find?, hlookup]
  have hprovided : Invocation.provided ⟨op.name, [], some path⟩ w.fileAt =
      .ok (args.map fun _ v => Argument.fileText v) := by
    have hpairs : Argument.pairs [] = .ok .empty := rfl
    simp only [Invocation.provided, hpairs, hfile, hload]
  have hprepare : Invocation.prepare ⟨op.name, [], some path⟩ p.registry w.fileAt =
      .ok ⟨op.name, Coercion.relayed op.spec args⟩ := by
    rw [Invocation.prepare, hprovided]
    simp only [Except.map, Invocation.prepared, Profile.trimmed_name hop, hfind]
    rfl
  rw [call, hconfig]
  simp only [hprepare]
  rfl

/-! ## The same request -/

namespace Dispatch

variable {p : Profile} {op : Operation} {args : Dict Json} {plan : Plan}

/-- What a planned call has under a declared name, if it counts as supplied, lies in the range. -/
theorem holds_of_planned (h : Planned p.registry op.name (dropUnsupplied args) op.spec plan)
    {r : ParameterRule} (hr : r ∈ op.signature.rules) {v : Json} (hv : args.get? r.name = some v)
    (hsupplied : supplied v = true) : r.range.Holds v := by
  obtain ⟨x, hdecode, -⟩ := Operation.planObject_eq_ok_iff.1 h.accepted
  have hfits := (Signature.exists_decode_iff op.signature _).1 ⟨x, hdecode⟩ r hr
  refine hfits.2 v ?_
  rw [get?_dropUnsupplied, hv]
  simp [hsupplied]

/-- Values that survive the file come to the same arguments, as far as they count as supplied. -/
theorem get?_dropUnsupplied_relayed (hop : op ∈ p.operations)
    (h : Planned p.registry op.name (dropUnsupplied args) op.spec plan)
    {r : ParameterRule} (hr : r ∈ op.signature.rules)
    (hsurvives : ∀ v, args.get? r.name = some v → Coercion.Survives v) :
    (dropUnsupplied (Coercion.relayed op.spec args)).get? r.name =
      (dropUnsupplied args).get? r.name := by
  rw [get?_dropUnsupplied, get?_dropUnsupplied, Coercion.get?_relayed hop hr]
  cases hv : args.get? r.name with
  | none => rfl
  | some v =>
    exact Coercion.supplied_relay (hsurvives v hv) (holds_of_planned h hr hv)

/-- A required argument of a planned call is a text. -/
theorem survives_of_required (hop : op ∈ p.operations)
    (h : Planned p.registry op.name (dropUnsupplied args) op.spec plan)
    {key : String} (hkey : key ∈ op.signature.requiredNames) {v : Json}
    (hv : args.get? key = some v) : Coercion.Survives v := by
  obtain ⟨r, hr, hrequired, rfl⟩ := (op.signature.mem_requiredNames_iff key).1 hkey
  have hsupplied : supplied v = true := by
    have hcomplete := h.complete r.name hkey
    rw [Dict.contains, get?_dropUnsupplied, hv] at hcomplete
    by_cases hs : supplied v = true
    · exact hs
    · simp [Option.filter_some, hs] at hcomplete
  have hholds := holds_of_planned h hr hv hsupplied
  rw [Profile.range_of_required hop r hr hrequired] at hholds
  obtain ⟨s, rfl⟩ := hholds
  trivial

/-- Where all texts are admitted, `null` is taken for a text, and the request tells it. -/
theorem request_ne_of_null (hop : op ∈ p.operations) {plan' : Plan}
    (h : Planned p.registry op.name (dropUnsupplied args) op.spec plan)
    (h' : Planned p.registry op.name (dropUnsupplied (Coercion.relayed op.spec args)) op.spec plan')
    {r : ParameterRule} (hr : r ∈ op.signature.rules) (htextual : r.range.textual = true)
    (hv : args.get? r.name = some .null) : plan.request ≠ plan'.request := by
  have hoption : r ∈ textOptions op.name := by
    refine List.mem_filter.2 ⟨rules_eq_parameterRules hop ▸ hr, ?_⟩
    rw [htextual, Bool.and_true]
    cases hrequired : r.required with
    | false => rfl
    | true =>
      -- a required argument that is `null` would be missing, and nothing would be planned
      have hkey := (op.signature.mem_requiredNames_iff r.name).2 ⟨r, hr, hrequired, rfl⟩
      exact (survives_of_required hop h hkey hv).elim
  have hrequired : ∀ key ∈ op.signature.requiredNames,
      (dropUnsupplied args).get? key =
        (dropUnsupplied (Coercion.relayed op.spec args)).get? key := by
    intro key hkey
    obtain ⟨r', hr', -, rfl⟩ := (op.signature.mem_requiredNames_iff key).1 hkey
    have hsurvives : ∀ v, args.get? r'.name = some v → Coercion.Survives v :=
      fun v hv => survives_of_required hop h hkey hv
    exact (get?_dropUnsupplied_relayed hop h hr' hsurvives).symm
  have hrelayed : (Coercion.relayed op.spec args).get? r.name = some (.str "null") := by
    rw [Coercion.get?_relayed hop hr, hv, Option.map_some, Coercion.relay_null]
  have hclient : (dropUnsupplied args).text? r.name = none := by
    rw [Dict.text?, get?_dropUnsupplied, hv]
    rfl
  have hfile : (dropUnsupplied (Coercion.relayed op.spec args)).text? r.name = some "null" := by
    rw [Dict.text?, get?_dropUnsupplied, hrelayed]
    rfl
  intro heq
  have htold := Operation.effectiveText_eq_of_request_eq hop hoption h.accepted h'.accepted
    hrequired heq
  rw [Operation.effectiveText, Operation.effectiveText, hclient, hfile, Option.none_or,
    Option.some_or] at htold
  exact Operation.text?_defaults_ne_null hop hoption htold

/-- A value that does not survive the file keeps the call from making the same request. -/
theorem request_ne_of_not_survives (hop : op ∈ p.operations) {plan' : Plan}
    (h : Planned p.registry op.name (dropUnsupplied args) op.spec plan)
    (h' : Planned p.registry op.name (dropUnsupplied (Coercion.relayed op.spec args)) op.spec plan')
    {r : ParameterRule} (hr : r ∈ op.signature.rules) {v : Json} (hv : args.get? r.name = some v)
    (hnot : ¬Coercion.Survives v) : plan.request ≠ plan'.request := by
  have hholds := holds_of_planned h hr hv
  by_cases htext : v = .null ∧ r.range.textual = true
  · obtain ⟨rfl, htextual⟩ := htext
    exact request_ne_of_null hop h h' hr htextual hv
  · -- in every other case the call with the file is refused
    have hrange : v = .null → r.range.textual = false := by
      intro hnull
      simpa using fun htextual => htext ⟨hnull, htextual⟩
    have hrelayed : (Coercion.relayed op.spec args).get? r.name =
        some (Coercion.relay r.range v) := by
      rw [Coercion.get?_relayed hop hr, hv, Option.map_some]
    obtain ⟨hsupplied, hbad⟩ :=
      Coercion.not_holds_relay hnot hholds (Profile.labels_ne hop r hr) hrange
    exact absurd (holds_of_planned h' hr hrelayed hsupplied) hbad

end Dispatch

/-- **When a file says what a client says.** Where a client's call of an operation makes a request,
the call with a file that holds the same arguments in JSON makes the same request exactly when every
declared parameter that is given has a text or a signed integer of 64 bits. -/
theorem call_with_file_same_request_iff {p : Profile} {name : String} {spec : Spec}
    (hlookup : p.registry.lookup name = some spec) (args : Dict Json) (w : Surroundings)
    (timeout : Option Nat) (hconfig : (w.config timeout).isOk = true)
    (world : ExternalRequest → Outcome) (request : ExternalRequest)
    (hclient : ((Dispatch.call p.registry name (some args)).run world).2 = [request])
    (path : String) (hpath : ".json".toList <:+ path.toList) (octets : List UInt8)
    (hfile : w.fileAt path = some octets) (text : List Char)
    (hdecode : Text.Utf8.decode? octets = some text)
    (hread : Json.ofText? (String.ofList text) = some (.ofDict args))
    (elapsed : Nat) (json : Bool) :
    (w.call timeout elapsed p ⟨name, [], some path⟩ json).requests = [request] ↔
      ∀ parameter ∈ spec.parameters, ∀ v, args.get? parameter.name = some v →
        Coercion.Survives v := by
  obtain ⟨op, hop, rfl, rfl⟩ := p.exists_operation_of_lookup hlookup
  obtain ⟨spec, plan, hplanned, hrequest⟩ := Dispatch.requests_eq_singleton_iff.1 hclient
  cases hlookup.symm.trans hplanned.registered
  obtain ⟨config, hconfig⟩ : ∃ config, w.config timeout = .ok config := by
    cases hc : w.config timeout with
    | ok config => exact ⟨config, rfl⟩
    | error e =>
      rw [hc] at hconfig
      cases hconfig
  have hload := Argument.loadFile_json (Argument.isYamlPath_of_json hpath) hdecode hread
  rw [Surroundings.requests_call_file hop hlookup hconfig hfile hload elapsed json]
  constructor
  · -- a value that does not survive would make the requests differ
    intro hsame parameter hparameter v hv
    obtain ⟨_, plan', hplanned', hrequest'⟩ := Dispatch.requests_eq_singleton_iff.1 hsame
    cases hlookup.symm.trans hplanned'.registered
    obtain ⟨r, hr, hname⟩ := (op.mem_parameters_iff_exists_rule parameter.name).1
      (List.mem_map_of_mem hparameter)
    rw [← hname] at hv
    refine Classical.byContradiction fun hnot => ?_
    exact Dispatch.request_ne_of_not_survives hop hplanned hplanned' hr hv hnot
      (hrequest.trans hrequest'.symm)
  · -- all values survive, so the two calls agree on what they are planned by
    intro hsurvives
    have hnames : ∀ key ∈ op.signature.names,
        (Dispatch.dropUnsupplied (Coercion.relayed op.spec args)).get? key =
          (Dispatch.dropUnsupplied args).get? key := by
      intro key hkey
      have hdescribed := (op.mem_parameters_iff key).2 hkey
      obtain ⟨parameter, hparameter, hname⟩ := List.mem_map.1 hdescribed
      obtain ⟨r, hr, rfl⟩ := (op.mem_parameters_iff_exists_rule key).1 hdescribed
      refine Dispatch.get?_dropUnsupplied_relayed hop hplanned hr fun v hv => ?_
      exact hsurvives parameter hparameter v (hname ▸ hv)
    have hprepare : Dispatch.prepare p.registry op.name args = .ok (op.spec, plan) :=
      Dispatch.prepare_eq_ok_iff.2 hplanned
    rw [← Dispatch.prepare_congr hlookup hnames] at hprepare
    exact Dispatch.requests_eq_singleton_iff.2
      ⟨op.spec, plan, Dispatch.prepare_eq_ok_iff.1 hprepare, hrequest⟩

/-- An environment without variables, a file of arguments in JSON under every path, and nothing that
answers. -/
def Surroundings.ofFile (args : Dict Json) : Surroundings where
  env _ := none
  fileAt _ := some (Json.ofDict args).text.toUTF8.toList
  names := Url.plainNames
  outside := .nothing

/-- Arguments of a search for code in a language. -/
def codeArguments (language : Json) : Dict Json :=
  .ofList [("language", language), ("max_results", .int 5), ("query", .str "x")]

/-- A search for code with a language and a number of results is the same from a file. -/
theorem call_with_file_same_request_code :
    ((Surroundings.ofFile (codeArguments (.str "c"))).call none 0 .searxng
      ⟨"search_code", [], some "p.json"⟩ true).requests =
      [.search ⟨"/search", [("q", "c x"), ("format", "json"), ("categories", "it")]⟩] := by
  have hlookup : Profile.searxng.registry.lookup "search_code" = some Searxng.searchCode.spec := rfl
  refine (call_with_file_same_request_iff hlookup (codeArguments (.str "c")) _ none
    (by decide +kernel) (fun _ => .ok (.records [])) _ (by decide +kernel) "p.json"
    (by decide +kernel) _ rfl (Json.ofDict (codeArguments (.str "c"))).chars (by decide +kernel)
    (by cbv) 0 true).2 ?_
  intro parameter _ v hv
  rw [codeArguments, Dict.get?_ofList (by decide)] at hv
  have hmem := Dict.mem_of_find? hv
  simp only [List.mem_cons, Prod.mk.injEq, List.not_mem_nil, or_false] at hmem
  rcases hmem with ⟨-, rfl⟩ | ⟨-, rfl⟩ | ⟨-, rfl⟩
  · trivial
  · constructor <;> decide
  · trivial

/-- A language that is `null` is left out of a search that a client asks for, and searched for as a
word when it comes from a file. -/
theorem call_with_file_other_request_code :
    Json.ofText? (Json.ofDict (codeArguments .null)).text =
        some (.ofDict (codeArguments .null)) ∧
      ((Dispatch.call Profile.searxng.registry "search_code" (some (codeArguments .null))).run
          fun _ => .ok (.records [])).2 =
        [.search ⟨"/search", [("q", "x"), ("format", "json"), ("categories", "it")]⟩] ∧
      ((Surroundings.ofFile (codeArguments .null)).call none 0 .searxng
        ⟨"search_code", [], some "p.json"⟩ true).requests =
        [.search ⟨"/search", [("q", "null x"), ("format", "json"), ("categories", "it")]⟩] :=
  ⟨by cbv, by decide +kernel, by decide +kernel⟩

end ToolRelay
