import ToolRelay.Dispatch
import ToolRelay.Proofs.Description
import ToolRelay.Proofs.Planning

/-!
# What a call comes to

A call is `Planned` when its name is registered, no required argument is lacking and the operation
plans what is left of the arguments without those that count as not supplied; otherwise it is
`Refused` with a text that tells the reason. `prepare` decides between the two, and everything about
a call follows: a planned one makes exactly its request, a refused one makes none. The second result
is about two calls: arguments that agree on the declared parameters, as far as they are supplied at
all, cannot be told apart by the answer or by the request.
-/

set_option autoImplicit false

namespace ToolRelay

/-! ## Payloads that fit a template -/

/-- Whether a template renders what a program printed; the others render records. -/
def Template.readsOutput : Template → Bool
  | .commitSearch | .fileHistory | .scipIndex => true
  | _ => false

/-- Whether a payload is of the sort that a template renders. -/
def Payload.Fits (t : Template) : Payload → Prop
  | .output _ => t.readsOutput = true
  | .records _ => t.readsOutput = false

/-- A truncated payload fits the same templates. -/
theorem Payload.fits_truncate_iff (t : Template) (limit : Nat) (payload : Payload) :
    (payload.truncate limit).Fits t ↔ payload.Fits t := by
  cases payload <;> rfl

/-- A template renders exactly the payloads that fit it. -/
theorem Template.exists_render_iff (t : Template) (query : String) (payload : Payload) :
    (∃ text, t.render query payload = .ok text) ↔ payload.Fits t := by
  cases payload with
  | output o =>
    cases t <;> simp [render, renderOutput?, Payload.Fits, readsOutput]
  | records rs =>
    cases t with
    | gitHub scope => cases scope <;> simp [render, layout?, Payload.Fits, readsOutput]
    | _ => simp [render, layout?, Payload.Fits, readsOutput]

/-- Whether a request is of the sort whose outcome a template renders. -/
def ExternalRequest.Suits (t : Template) : ExternalRequest → Prop
  | .command _ => t.readsOutput = true
  | .search _ => t.readsOutput = false

/-- Every operation plans a request that suits the template it plans. -/
theorem Operation.suits_of_plan {p : Profile} {op : Operation} (hop : op ∈ p.operations)
    {x : op.Args} {plan : Plan} (h : op.plan x = .ok plan) : plan.request.Suits plan.template := by
  cases p, op, hop using Profile.operation_cases
  case search =>
    simp only [Searxng.search] at h
    split at h
    · cases h
    · cases h
      rfl
  all_goals
    cases h
    rfl

namespace Dispatch

/-- A planned request has a result exactly when it succeeds with a payload that fits. -/
theorem exists_finish_iff (label : String) (plan : Plan) (outcome : Outcome) :
    (∃ text, finish label plan outcome = .ok text) ↔
      ∃ payload, outcome = .ok payload ∧ payload.Fits plan.template := by
  cases outcome with
  | error failure => simp [finish]
  | ok payload =>
    -- what is rendered is the payload, cut if there is a limit
    obtain ⟨shown, hfits, hfinish⟩ : ∃ shown : Payload,
        (shown.Fits plan.template ↔ payload.Fits plan.template) ∧
          ((∃ text, finish label plan (.ok payload) = .ok text) ↔
            ∃ text, plan.template.render plan.query shown = .ok text) := by
      unfold finish
      cases plan.limit with
      | none =>
        refine ⟨payload, Iff.rfl, ?_⟩
        cases hrender : plan.template.render plan.query payload <;> simp [hrender]
      | some limit =>
        refine ⟨payload.truncate limit, payload.fits_truncate_iff plan.template limit, ?_⟩
        cases hrender : plan.template.render plan.query (payload.truncate limit) <;> simp [hrender]
    rw [hfinish, plan.template.exists_render_iff plan.query, hfits]
    simp

/-! ## Planned and refused calls -/

/-- A call that is planned: `args` are the arguments that count as supplied. -/
structure Planned (registry : Registry) (name : String) (args : Dict Json) (spec : Spec)
    (plan : Plan) : Prop where
  registered : registry.lookup name = some spec
  complete : ∀ field ∈ spec.required, args.contains field = true
  accepted : spec.plan args = .ok plan

/-- A call that is refused, with the text of the answer. -/
inductive Refused (registry : Registry) (name : String) (args : Dict Json) : String → Prop
  /-- No operation has the name. -/
  | unknown (h : name ∉ registry.names) : Refused registry name args ("Unknown tool: " ++ name)
  /-- Required arguments are absent, and are listed. -/
  | incomplete (spec : Spec) (registered : registry.lookup name = some spec)
      (lacking : ∃ field ∈ spec.required, args.contains field = false) :
      Refused registry name args ("Missing required argument(s) for '" ++ name ++ "': " ++
        ", ".intercalate (spec.required.filter fun field => !args.contains field))
  /-- The arguments do not decode, or the operation rejects them. -/
  | invalid (spec : Spec) (registered : registry.lookup name = some spec)
      (complete : ∀ field ∈ spec.required, args.contains field = true) (e : PlanError)
      (refused : spec.plan args = .error e) :
      Refused registry name args ("Invalid arguments for '" ++ name ++ "': " ++ e.message)

/-- Nothing is missing exactly if all that is required is there. -/
theorem missing_isEmpty_iff (spec : Spec) (args : Dict Json) :
    (spec.missing args).isEmpty = true ↔ ∀ field ∈ spec.required, args.contains field = true := by
  simp [Spec.missing, List.filter_eq_nil_iff]

/-- A call that has been looked into with success is a planned one. -/
theorem prepare_eq_ok_iff {registry : Registry} {name : String} {args : Dict Json} {spec : Spec}
    {plan : Plan} :
    prepare registry name args = .ok (spec, plan) ↔
      Planned registry name (dropUnsupplied args) spec plan := by
  constructor
  · intro h
    unfold prepare at h
    split at h
    · cases h
    · next spec' hlookup =>
      dsimp only at h
      split at h
      · next hmissing =>
        split at h
        · cases h
        · next plan' hplan =>
          cases h
          exact ⟨hlookup, (missing_isEmpty_iff spec _).1 hmissing, hplan⟩
      · cases h
  · rintro ⟨hlookup, hcomplete, hplan⟩
    have hmissing := (missing_isEmpty_iff spec _).2 hcomplete
    simp [prepare, hlookup, hmissing, hplan]

/-- A call that has been looked into without success is refused with the message. -/
theorem refused_of_prepare {registry : Registry} {name : String} {args : Dict Json}
    {e : DispatchError} (h : prepare registry name args = .error e) :
    Refused registry name (dropUnsupplied args) e.message := by
  unfold prepare at h
  split at h
  · next hlookup =>
    cases h
    exact .unknown (Registry.not_mem_names_of_lookup_eq_none hlookup)
  · next spec hlookup =>
    have hname : spec.name = name := by simpa using List.find?_some hlookup
    dsimp only at h
    split at h
    · next hmissing =>
      split at h
      · next e' hplan =>
        cases h
        rw [hname]
        exact .invalid spec hlookup ((missing_isEmpty_iff spec _).1 hmissing) e' hplan
      · cases h
    · next hmissing =>
      cases h
      rw [hname]
      refine .incomplete spec hlookup ?_
      rw [missing_isEmpty_iff] at hmissing
      simpa using hmissing

/-- Whether a call of a registered operation is planned is up to the operation alone: what it
accepts lacks no required argument. -/
theorem planned_iff_of_registered {registry : Registry} {op : Operation}
    (hlookup : registry.lookup op.name = some op.spec) {args : Dict Json} {spec : Spec}
    {plan : Plan} :
    Planned registry op.name args spec plan ↔ spec = op.spec ∧ op.planObject args = .ok plan := by
  constructor
  · intro h
    cases hlookup.symm.trans h.registered
    exact ⟨rfl, h.accepted⟩
  · rintro ⟨rfl, hplan⟩
    obtain ⟨x, hdecode, -⟩ := Operation.planObject_eq_ok_iff.1 hplan
    have hfits := (Signature.exists_decode_iff op.signature args).1 ⟨x, hdecode⟩
    refine ⟨hlookup, fun field hfield => ?_, hplan⟩
    obtain ⟨r, hr, hrequired, rfl⟩ := (op.signature.mem_requiredNames_iff field).1 hfield
    exact (hfits r hr).1 hrequired

/-- A planned call makes its request and no other, and is answered by what comes of it. -/
theorem run_of_planned {registry : Registry} {name : String} {args : Option (Dict Json)}
    {spec : Spec} {plan : Plan} (world : ExternalRequest → Outcome)
    (h : Planned registry name (dropUnsupplied (args.getD .empty)) spec plan) :
    (call registry name args).run world =
      (.of (finish spec.errorLabel plan (world plan.request)), [plan.request]) := by
  rw [call, prepare_eq_ok_iff.2 h]
  rfl

/-- A call that is not planned makes no request and is answered with the reason. -/
theorem run_of_not_planned {registry : Registry} {name : String} {args : Option (Dict Json)}
    (world : ExternalRequest → Outcome)
    (h : ∀ spec plan, ¬Planned registry name (dropUnsupplied (args.getD .empty)) spec plan) :
    ∃ text, (call registry name args).run world = (⟨text, true⟩, []) ∧
      Refused registry name (dropUnsupplied (args.getD .empty)) text := by
  cases hprepare : prepare registry name (args.getD .empty) with
  | ok planned => exact absurd (prepare_eq_ok_iff.1 hprepare) (h planned.1 planned.2)
  | error e =>
    refine ⟨e.message, ?_, refused_of_prepare hprepare⟩
    rw [call, hprepare]
    rfl

/-- The requests of a call: that of the plan if there is one, and otherwise none. -/
theorem requests_eq_singleton_iff {registry : Registry} {name : String}
    {args : Option (Dict Json)} {world : ExternalRequest → Outcome} {request : ExternalRequest} :
    ((call registry name args).run world).2 = [request] ↔
      ∃ spec plan, Planned registry name (dropUnsupplied (args.getD .empty)) spec plan ∧
        plan.request = request := by
  by_cases h : ∃ spec plan, Planned registry name (dropUnsupplied (args.getD .empty)) spec plan
  · obtain ⟨spec, plan, hplanned⟩ := h
    rw [run_of_planned world hplanned, List.cons.injEq]
    constructor
    · rintro ⟨hrequest, -⟩
      exact ⟨spec, plan, hplanned, hrequest⟩
    · -- spec and plan are settled by the registry and the arguments
      rintro ⟨spec', plan', hplanned', hrequest⟩
      cases hplanned.registered.symm.trans hplanned'.registered
      cases hplanned.accepted.symm.trans hplanned'.accepted
      exact ⟨hrequest, rfl⟩
  · have hnot : ∀ spec plan,
        ¬Planned registry name (dropUnsupplied (args.getD .empty)) spec plan :=
      fun spec plan hplanned => h ⟨spec, plan, hplanned⟩
    obtain ⟨text, hrun, -⟩ := run_of_not_planned world hnot
    rw [hrun]
    constructor
    · intro hnil
      cases hnil
    · rintro ⟨spec, plan, hplanned, -⟩
      exact absurd hplanned (hnot spec plan)

/-- **One request at most.** A call makes exactly the request of its plan if it is planned, which
takes a registered name, all required arguments and a plan for what counts as supplied. In every
other case it makes none and is answered with an error that tells the reason. A request that was
made is answered without an error exactly when it succeeds with a payload that fits, and a failure
is reported behind the label of the operation. What is required is what the schema lists. -/
theorem call_makes_planned_request (p : Profile) (name : String) (args : Option (Dict Json))
    (world : ExternalRequest → Outcome) :
    ((call p.registry name args).run world).2.length ≤ 1 ∧
    (∀ request, ((call p.registry name args).run world).2 = [request] ↔
      ∃ spec plan, Planned p.registry name (dropUnsupplied (args.getD .empty)) spec plan ∧
        plan.request = request) ∧
    (((call p.registry name args).run world).2 = [] →
      ((call p.registry name args).run world).1.isError = true ∧
      Refused p.registry name (dropUnsupplied (args.getD .empty))
        ((call p.registry name args).run world).1.text) ∧
    (∀ spec plan, Planned p.registry name (dropUnsupplied (args.getD .empty)) spec plan →
      (((call p.registry name args).run world).1.isError = false ↔
        ∃ payload, world plan.request = .ok payload ∧ payload.Fits plan.template) ∧
      ∀ failure, world plan.request = .error failure →
        ((call p.registry name args).run world).1 =
          ⟨spec.errorLabel ++ ": " ++ failure.message, true⟩) ∧
    ∀ spec, p.registry.lookup name = some spec →
      spec.required = Spec.requiredOf spec.inputSchema := by
  refine ⟨?_, fun request => requests_eq_singleton_iff, ?_, ?_, ?_⟩
  · cases call p.registry name args <;> simp [Call.run]
  · intro hnone
    have hnot : ∀ spec plan,
        ¬Planned p.registry name (dropUnsupplied (args.getD .empty)) spec plan := by
      intro spec plan hplanned
      rw [run_of_planned world hplanned] at hnone
      cases hnone
    obtain ⟨text, hrun, hrefused⟩ := run_of_not_planned world hnot
    rw [hrun]
    exact ⟨rfl, hrefused⟩
  · intro spec plan hplanned
    rw [run_of_planned world hplanned]
    constructor
    · rw [← exists_finish_iff spec.errorLabel plan]
      cases finish spec.errorLabel plan (world plan.request) <;> simp [Envelope.of]
    · intro failure hfailure
      rw [hfailure]
      rfl
  · intro spec hlookup
    obtain ⟨op, -, rfl, -⟩ := p.exists_operation_of_lookup hlookup
    exact op.required_spec

/-- A search for images makes its one request, and a `null` beside the query does not hinder it. -/
theorem call_makes_planned_request_images :
    ((call Profile.searxng.registry "search_images"
      (some (.ofList [("query", .str "cats"), ("max_results", .null)]))).run
        fun _ => .ok (.records [])).2 =
      [.search ⟨"/search", [("q", "cats"), ("format", "json"), ("categories", "images")]⟩] :=
  ((call_makes_planned_request .searxng "search_images" _ _).2.1 _).2
    ⟨Searxng.searchImages.spec, _, ⟨rfl, by decide, rfl⟩, rfl⟩

/-! ## Calls that cannot be told apart -/

/-- Of the arguments those stay that count as supplied. -/
theorem get?_dropUnsupplied (args : Dict Json) (name : String) :
    (dropUnsupplied args).get? name = (args.get? name).filter supplied :=
  Dict.get?_filter args _ name

/-- Looking into a call depends on the supplied arguments of the signature's names only. -/
theorem prepare_congr {registry : Registry} {op : Operation}
    (hlookup : registry.lookup op.name = some op.spec) {a b : Dict Json}
    (h : ∀ key ∈ op.signature.names, (dropUnsupplied a).get? key = (dropUnsupplied b).get? key) :
    prepare registry op.name a = prepare registry op.name b := by
  have hmissing : op.spec.missing (dropUnsupplied a) = op.spec.missing (dropUnsupplied b) := by
    refine List.filter_congr fun key hkey => ?_
    rw [Dict.contains, Dict.contains, h key (op.signature.requiredNames_subset hkey)]
  have hplan : op.spec.plan (dropUnsupplied a) = op.spec.plan (dropUnsupplied b) :=
    Operation.planObject_congr h
  simp only [prepare, hlookup, hmissing, hplan]

/-- **Only declared parameters count, and only when they are supplied.** Calls of an operation whose
arguments agree on the declared parameters, where `null` and the empty text count as nothing, have
the same answer and make the same request. It does not matter whether the arguments are valid: the
text of the error is the same as well. -/
theorem run_eq_of_declared_agree {p : Profile} {name : String} {spec : Spec}
    (h : p.registry.lookup name = some spec) (a b : Option (Dict Json))
    (world : ExternalRequest → Outcome)
    (agree : ∀ parameter ∈ spec.parameters,
      ((a.getD .empty).get? parameter.name).filter supplied =
        ((b.getD .empty).get? parameter.name).filter supplied) :
    (call p.registry name a).run world = (call p.registry name b).run world := by
  obtain ⟨op, -, rfl, rfl⟩ := p.exists_operation_of_lookup h
  have hnames : ∀ key ∈ op.signature.names,
      (dropUnsupplied (a.getD .empty)).get? key = (dropUnsupplied (b.getD .empty)).get? key := by
    intro key hkey
    obtain ⟨parameter, hparameter, rfl⟩ :=
      List.mem_map.1 ((op.mem_parameters_iff key).2 hkey)
    rw [get?_dropUnsupplied, get?_dropUnsupplied]
    exact agree parameter hparameter
  rw [call, call, prepare_congr h hnames]

/-- A language that is `null`, and a name that is not declared, leave a search for code as it is. -/
theorem run_eq_of_declared_agree_code :
    (call Profile.searxng.registry "search_code"
      (some (.ofList [("query", .str "x"), ("language", .null), ("lang", .str "c")]))).run
        (fun _ => .ok (.records [])) =
    (call Profile.searxng.registry "search_code" (some (.ofList [("query", .str "x")]))).run
        (fun _ => .ok (.records [])) := by
  have hlookup : Profile.searxng.registry.lookup "search_code" = some Searxng.searchCode.spec := rfl
  refine run_eq_of_declared_agree hlookup _ _ _ ?_
  intro parameter hparameter
  have hname := (Searxng.searchCode.mem_parameters_iff parameter.name).1
    (List.mem_map_of_mem hparameter)
  have hnames : parameter.name = "query" ∨ parameter.name = "language" ∨
      parameter.name = "max_results" := by
    simpa [Searxng.searchCode, Signature.required, Signature.withDefault, Signature.names,
      Searxng.withMaxResults] using hname
  rcases hnames with hname | hname | hname <;> rw [hname] <;> rfl

end Dispatch
end ToolRelay
