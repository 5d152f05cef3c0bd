import ToolRelay.Application
import ToolRelay.CommandLine.Reader
import ToolRelay.Proofs.Answers
import ToolRelay.Proofs.Invocations
import ToolRelay.Proofs.ProgramReports

/-!
# A whole call from the command line

A command that calls an operation asks the outside for one thing at most. It asks exactly when the
invocation is ready (`Invocation.Ready`), and it succeeds exactly when the outside then does what it
is asked for. So a command that succeeds made one request, and one that fails before that made none.
-/

set_option autoImplicit false

namespace ToolRelay

/-! ## What succeeds outside -/

/-- A request for a program succeeds exactly if the program does, in time. -/
theorem CommandRequest.exists_conclude_iff (r : CommandRequest) (limit : Nat)
    (run : Program.Run) :
    (∃ output, r.conclude limit run = .ok output) ↔
      ∃ course stdout stderr, run = .started course ∧
        course.EndsBy limit (.exit 0) stdout stderr := by
  simp only [conclude_eq_ok_iff]
  constructor
  · rintro ⟨-, course, stdout, stderr, hrun, hends, -⟩
    exact ⟨course, stdout, stderr, hrun, hends⟩
  · rintro ⟨course, stdout, stderr, hrun, hends⟩
    exact ⟨_, course, stdout, stderr, hrun, hends, rfl⟩

/-- A search succeeds exactly if it is answered with success and with results. -/
theorem SearchRequest.exists_conclude_iff (r : SearchRequest) (base : Url) (reply : Reply) :
    (∃ records, r.conclude base reply = .ok records) ↔
      ∃ status body, reply = .answered status body ∧ Reply.isSuccess status = true ∧
        (Reply.results? body).isSome = true := by
  cases reply with
  | unanswered => simp [conclude]
  | answered status body =>
    by_cases hsuccess : Reply.isSuccess status = true
    · cases hresults : Reply.results? body <;> simp [conclude, hsuccess, hresults]
    · simp [conclude, hsuccess]

namespace Outside

/-- Whether the outside does what it is asked for: the program starts, exits with the status zero and
comes to the end of its output in time, or the service is reached and answers with success and with
results. -/
def Succeeds (o : Outside) (c : Config) : ExternalRequest → Prop
  | .command r => ∃ course stdout stderr, o.run r = .started course ∧
      course.EndsBy c.limit (.exit 0) stdout stderr
  | .search r => (r.url c.searchUrl).isSendable = true ∧
      ∃ status body, o.fetch (r.url c.searchUrl) = .answered status body ∧
        Reply.isSuccess status = true ∧ (Reply.results? body).isSome = true

/-- The outside has a payload exactly if it does what it is asked for. -/
theorem exists_answer_iff (o : Outside) (c : Config) (request : ExternalRequest) :
    (∃ payload, o.answer c request = .ok payload) ↔ o.Succeeds c request := by
  have hmap : ∀ {α : Type} (x : Except Failure α) (f : α → Payload),
      (∃ payload, x.map f = .ok payload) ↔ ∃ a, x = .ok a := by
    intro α x f
    simp [map_eq_ok_iff]
  cases request with
  | command r =>
    rw [answer, hmap, r.exists_conclude_iff]
    rfl
  | search r =>
    rw [answer, hmap, r.exists_conclude_iff, reply, Succeeds]
    by_cases hsendable : (r.url c.searchUrl).isSendable = true <;> simp [hsendable]

end Outside

/-! ## The call that is put to the outside -/

/-- What comes of a call depends on the answers to its requests only. -/
theorem Call.run_congr (call : Call) {world world' : ExternalRequest → Outcome}
    (h : ∀ request ∈ (call.run world).2, world' request = world request) :
    call.run world' = call.run world := by
  cases call with
  | answered envelope => rfl
  | waiting request answer => rw [run, run, h request List.mem_cons_self]

/-- A planned call has a result exactly when the outside does what it is asked for. -/
theorem Dispatch.isError_run_iff {p : Profile} {name : String} {args : Dict Json} {spec : Spec}
    {plan : Plan} (h : Planned p.registry name (dropUnsupplied args) spec plan) (o : Outside)
    (c : Config) :
    ((call p.registry name (some args)).run (o.answer c)).1.isError = false ↔
      o.Succeeds c plan.request := by
  obtain ⟨op, hop, rfl, rfl⟩ := p.exists_operation_of_lookup h.registered
  have hrun : (call p.registry op.name (some args)).run (o.answer c) =
      (.of (finish op.spec.errorLabel plan (o.answer c plan.request)), [plan.request]) :=
    run_of_planned (o.answer c) h
  rw [hrun, ← Outside.exists_answer_iff]
  rcases answer_failed_or_finished hop h.accepted o c with
    ⟨failure, hfailure⟩ | ⟨payload, hpayload, -, text, htext⟩
  · rw [hfailure]
    simp [finish, Envelope.of]
  · rw [hpayload, show op.spec.errorLabel = op.errorLabel from rfl, htext]
    simp [Envelope.of]

namespace Surroundings

variable {w : Surroundings} {timeout : Option Nat} {config : Config} {p : Profile} {i : Invocation}

/-- A call that was made ready is reported with its answer and its requests. -/
theorem call_of_prepared (hconfig : w.config timeout = .ok config)
    {call : PreparedCall} (hprepare : i.prepare p.registry w.fileAt = .ok call) (elapsed : Nat)
    (json : Bool) :
    w.call timeout elapsed p i json =
      w.report ⟨p, call, elapsed, ((Dispatch.call p.registry call.name (some call.arguments)).run
          (w.outside.answer config)).1⟩ json
        ((Dispatch.call p.registry call.name (some call.arguments)).run
          (w.outside.answer config)).2 := by
  rw [Surroundings.call, hconfig]
  simp only [hprepare]

/-- A call that could not be made ready fails without a request. -/
theorem call_of_not_prepared (hconfig : w.config timeout = .ok config)
    {e : InvocationError} (hprepare : i.prepare p.registry w.fileAt = .error e) (elapsed : Nat)
    (json : Bool) : w.call timeout elapsed p i json = .failed (.arguments e) := by
  rw [Surroundings.call, hconfig]
  simp only [hprepare]

/-- A report is no failure exactly if the answer is no error. -/
theorem error_report_iff (r : CallReport) (json : Bool) (requests : List ExternalRequest) :
    (w.report r json requests).error = none ↔ r.envelope.isError = false := by
  rw [report]
  cases r.envelope.isError <;> simp

/-- An invocation that is ready makes its request, and succeeds if the outside does. -/
theorem call_of_ready (hconfig : w.config timeout = .ok config)
    (h : i.Ready p w.fileAt) (elapsed : Nat) (json : Bool) :
    ∃ request, (w.call timeout elapsed p i json).requests = [request] ∧
      ((w.call timeout elapsed p i json).error = none ↔ w.outside.Succeeds config request) := by
  obtain ⟨call, spec, plan, hprepare, hplanned⟩ := h
  rw [call_of_prepared hconfig hprepare]
  refine ⟨plan.request, ?_, ?_⟩
  · exact congrArg Prod.snd (Dispatch.run_of_planned (w.outside.answer config) hplanned)
  · rw [error_report_iff]
    exact Dispatch.isError_run_iff hplanned w.outside config

/-- An invocation that is not ready makes no request and fails. -/
theorem call_of_not_ready (hconfig : w.config timeout = .ok config)
    (h : ¬i.Ready p w.fileAt) (elapsed : Nat) (json : Bool) :
    (w.call timeout elapsed p i json).requests = [] ∧
      (w.call timeout elapsed p i json).error ≠ none := by
  cases hprepare : i.prepare p.registry w.fileAt with
  | error e =>
    rw [call_of_not_prepared hconfig hprepare]
    exact ⟨rfl, nofun⟩
  | ok call =>
    have hnot : ∀ spec plan, ¬Dispatch.Planned p.registry call.name
        (Dispatch.dropUnsupplied ((some call.arguments).getD .empty)) spec plan :=
      fun spec plan hplanned => h ⟨call, spec, plan, hprepare, hplanned⟩
    obtain ⟨text, hrun, -⟩ := Dispatch.run_of_not_planned (w.outside.answer config) hnot
    rw [call_of_prepared hconfig hprepare, hrun]
    refine ⟨rfl, ?_⟩
    rw [ne_eq, error_report_iff]
    simp

/-- A call depends on the outside by the answers to its requests only. -/
theorem call_congr (hconfig : w.config timeout = .ok config) (elapsed : Nat)
    (json : Bool) {outside : Outside}
    (h : ∀ request ∈ (w.call timeout elapsed p i json).requests,
      outside.answer config request = w.outside.answer config request) :
    Surroundings.call { w with outside } timeout elapsed p i json =
      w.call timeout elapsed p i json := by
  cases hprepare : i.prepare p.registry w.fileAt with
  | error e =>
    rw [call_of_not_prepared hconfig hprepare]
    exact call_of_not_prepared (w := { w with outside }) hconfig hprepare elapsed json
  | ok call =>
    rw [call_of_prepared hconfig hprepare] at h ⊢
    rw [call_of_prepared (w := { w with outside }) hconfig hprepare]
    have hrun := (Dispatch.call p.registry call.name (some call.arguments)).run_congr h
    rw [hrun]
    rfl

/-- **One action at most, and none for a faulty invocation.** A command that calls an operation
makes one request at most. It succeeds exactly when the call is answered without an error, which is
exactly when it made a request and the outside did what it was asked for. An invocation with a fault
makes it fail without a request, and nothing else does but a level of filtering that there is not.
What the outside would do with any other request does not matter. -/
theorem call_acts_once_or_fails {c : CommandLine} {json : Bool}
    (hcommand : c.command = .call p i json)
    (hconfig : w.config c.timeout = .ok config) (elapsed : Nat) :
    (w.run elapsed c).requests.length ≤ 1 ∧
    ((w.run elapsed c).error = none ↔
      ∃ call, i.prepare p.registry w.fileAt = .ok call ∧
        ((Dispatch.call p.registry call.name (some call.arguments)).run
          (w.outside.answer config)).1.isError = false) ∧
    ((w.run elapsed c).error = none ↔
      ∃ request, (w.run elapsed c).requests = [request] ∧ w.outside.Succeeds config request) ∧
    (i.Faulty p w.fileAt → (w.run elapsed c).error ≠ none ∧ (w.run elapsed c).requests = []) ∧
    ((w.run elapsed c).requests = [] → i.Faulty p w.fileAt ∨ i.FiltersTooMuch p w.fileAt) ∧
    ∀ outside : Outside,
      (∀ request ∈ (w.run elapsed c).requests,
        outside.answer config request = w.outside.answer config request) →
      Surroundings.run { w with outside } elapsed c = w.run elapsed c := by
  have hrun : ∀ w' : Surroundings, w'.run elapsed c = w'.call c.timeout elapsed p i json := by
    intro w'
    rw [run, hcommand]
  simp only [hrun]
  have hanswered : (w.call c.timeout elapsed p i json).error = none ↔
      ∃ call, i.prepare p.registry w.fileAt = .ok call ∧
        ((Dispatch.call p.registry call.name (some call.arguments)).run
          (w.outside.answer config)).1.isError = false := by
    cases hprepare : i.prepare p.registry w.fileAt with
    | error e =>
      rw [call_of_not_prepared hconfig hprepare]
      simp [CommandResult.failed]
    | ok call =>
      rw [call_of_prepared hconfig hprepare, error_report_iff]
      simp
  have hframe : ∀ outside : Outside,
      (∀ request ∈ (w.call c.timeout elapsed p i json).requests,
        outside.answer config request = w.outside.answer config request) →
      Surroundings.call { w with outside } c.timeout elapsed p i json =
        w.call c.timeout elapsed p i json := by
    intro outside hsame
    exact call_congr hconfig elapsed json hsame
  by_cases hready : i.Ready p w.fileAt
  · obtain ⟨request, hrequests, herror⟩ := call_of_ready hconfig hready elapsed json
    have hfaultless := (Invocation.ready_iff.1 hready).1
    refine ⟨by simp [hrequests], hanswered, ?_, ?_, ?_, hframe⟩
    · rw [herror, hrequests]
      simp
    · intro hfaulty
      exact absurd hfaulty hfaultless
    · rw [hrequests]
      intro hnil
      cases hnil
  · obtain ⟨hrequests, herror⟩ := call_of_not_ready hconfig hready elapsed json
    refine ⟨by simp [hrequests], hanswered, ?_, fun _ => ⟨herror, hrequests⟩, fun _ => ?_, hframe⟩
    · simp [herror, hrequests]
    · rw [Invocation.ready_iff, not_and_or, not_not, not_not] at hready
      exact hready

/-- Surroundings without variables and files, where every program succeeds. -/
def silent : Surroundings where
  env _ := none
  fileAt _ := none
  names := Url.plainNames
  outside := .silent

/-- A command line to index a project in Python, with one argument. -/
def indexLine (argument : String) : CommandLine where
  level := .info
  timeout := none
  command := .call .scip ⟨"index_python", [argument], none⟩ true

/-- A project is indexed by one program; an argument without an equals sign is refused before. -/
theorem call_acts_once_or_fails_index :
    CommandLine.ofWords ["call", "scip", "index_python", "--param", "projectPath=/p", "--json"]
      none = .ok (indexLine "projectPath=/p") ∧
    (silent.run 0 (indexLine "projectPath=/p")).error = none ∧
    (silent.run 0 (indexLine "projectPath=/p")).requests =
      [.command ⟨"scip-python", ["index", "--project-name", "my-project", "--output",
        "/p/index.scip", "/p"], none⟩] ∧
    (silent.run 0 (indexLine "projectPath")).error ≠ none ∧
    (silent.run 0 (indexLine "projectPath")).requests = [] := by
  have hconfig : silent.config none = .ok Config.usual := by cbv
  have hrequests : (silent.run 0 (indexLine "projectPath=/p")).requests =
      [.command ⟨"scip-python", ["index", "--project-name", "my-project", "--output",
        "/p/index.scip", "/p"], none⟩] := by
    decide +kernel
  have hgood := call_acts_once_or_fails (c := indexLine "projectPath=/p") rfl hconfig 0
  have hfaulty := call_acts_once_or_fails (c := indexLine "projectPath") rfl hconfig 0
  refine ⟨by cbv, ?_, hrequests, ?_⟩
  · exact hgood.2.2.1.2 ⟨_, hrequests, _, [], [], rfl, Program.Course.endsBy_prompt _ _ _ _⟩
  · exact hfaulty.2.2.2.1 (.parameter "projectPath" List.mem_cons_self (.inl (by decide)))

end Surroundings
end ToolRelay
