import ToolRelay.Outside
import ToolRelay.Proofs.Dispatching

/-!
# Every answer of the outside can be rendered

A request for a program is answered with the output of a program, and a search with records; an
operation plans a template for the one or for the other as it plans the request. So whatever the
outside does, a planned call fails with the message of a failure or has a result: the answer that a
result cannot be rendered is never given (`answer_renders`).
-/

set_option autoImplicit false

namespace ToolRelay

/-! ## Failures -/

/-- The words for a result that cannot be rendered, behind the label of the operation. -/
def unrenderableText : String :=
  "unable to render result"

/-- A message that does not begin like the words for a result that cannot be rendered is none of
them. -/
theorem Failure.message_ne {α : Type} {message : String} {failure : Failure}
    (h : (.error (.of message) : Except Failure α) = .error failure)
    (hhead : message.toList.head? ≠ some 'u') : failure.message ≠ unrenderableText := by
  rw [← Except.error.inj h, Failure.of]
  dsimp only
  split
  · decide
  · rintro rfl
    exact hhead rfl

/-- No run of a program is reported in the words for a result that cannot be rendered. -/
theorem CommandRequest.message_ne {r : CommandRequest} {limit : Nat} {run : Program.Run}
    {failure : Failure} (h : r.conclude limit run = .error failure) :
    failure.message ≠ unrenderableText := by
  cases run with
  | unstarted reason => exact Failure.message_ne h (by simp)
  | started course =>
    simp only [conclude] at h
    split at h
    · exact Failure.message_ne h (by simp)
    · exact Failure.message_ne h (by simp)
    · simp only [report] at h
      split at h
      · cases h
      · exact Failure.message_ne h (by simp)

/-- No reply of the search service is reported in those words. -/
theorem SearchRequest.message_ne {r : SearchRequest} {base : Url} {reply : Reply}
    {failure : Failure} (h : r.conclude base reply = .error failure) :
    failure.message ≠ unrenderableText := by
  cases reply with
  | unanswered => exact Failure.message_ne h (by simp)
  | answered status body =>
    simp only [conclude] at h
    split at h
    · split at h
      · cases h
      · exact Failure.message_ne h (by simp)
    · exact Failure.message_ne h (by simp)

/-! ## What the outside answers -/

namespace Outside

variable {o : Outside} {c : Config} {request : ExternalRequest}

/-- A payload is of the sort that the request asks for. -/
theorem fits_of_answer {t : Template} (hsuits : request.Suits t) {payload : Payload}
    (h : o.answer c request = .ok payload) : payload.Fits t := by
  cases request with
  | command r =>
    obtain ⟨output, -, rfl⟩ := map_eq_ok_iff.1 h
    exact hsuits
  | search r =>
    obtain ⟨records, -, rfl⟩ := map_eq_ok_iff.1 h
    exact hsuits

/-- No failure of the outside is told in those words. -/
theorem message_ne {failure : Failure} (h : o.answer c request = .error failure) :
    failure.message ≠ unrenderableText := by
  cases request with
  | command r => exact CommandRequest.message_ne (map_eq_error_iff.1 h)
  | search r => exact SearchRequest.message_ne (map_eq_error_iff.1 h)

end Outside

namespace Dispatch

/-! ## Planned calls -/

/-- The answer to a planned request is a failure, or it has a result. -/
theorem answer_failed_or_finished {p : Profile} {op : Operation} (hop : op ∈ p.operations)
    {args : Dict Json} {plan : Plan} (h : op.planObject args = .ok plan) (o : Outside) (c : Config) :
    (∃ failure, o.answer c plan.request = .error failure) ∨
      ∃ payload, o.answer c plan.request = .ok payload ∧ payload.Fits plan.template ∧
        ∃ text, finish op.errorLabel plan (.ok payload) = .ok text := by
  obtain ⟨x, -, hx⟩ := Operation.planObject_eq_ok_iff.1 h
  have hsuits := Operation.suits_of_plan hop hx
  cases hanswer : o.answer c plan.request with
  | error failure => exact .inl ⟨failure, rfl⟩
  | ok payload =>
    have hfits := Outside.fits_of_answer hsuits hanswer
    have hfinish : ∃ text, finish op.errorLabel plan (.ok payload) = .ok text :=
      (exists_finish_iff op.errorLabel plan (.ok payload)).2 ⟨payload, rfl, hfits⟩
    exact .inr ⟨payload, rfl, hfits, hfinish⟩

/-- The text for a result that cannot be rendered is told from the text for a failure by what stands
behind the label. -/
theorem failure_ne_unrenderable {label : String} {failure : Failure}
    (h : failure.message ≠ unrenderableText) :
    Envelope.of (.error (.external label failure)) ≠ .of (.error (.unrenderable label)) := by
  intro heq
  have hmessage : label ++ ": " ++ failure.message = label ++ ": unable to render result" :=
    congrArg Envelope.text heq
  have hwords : ": unable to render result" = ": " ++ unrenderableText := by decide
  rw [hwords, ← String.append_assoc, String.append_right_inj] at hmessage
  exact h hmessage

/-- A refusal does not begin like the label of an operation. -/
theorem refused_ne_unrenderable {p : Profile} {op : Operation} (hop : op ∈ p.operations)
    {registry : Registry} {name : String} {args : Dict Json} {text : String}
    (h : Refused registry name args text) :
    ⟨text, true⟩ ≠ Envelope.of (.error (.unrenderable op.errorLabel)) := by
  have hlabel : op.errorLabel.toList.head? = some 'G' ∨ op.errorLabel.toList.head? = some 'E' := by
    cases p, op, hop using Profile.operation_cases <;> decide
  intro heq
  have htext : text = op.errorLabel ++ ": unable to render result" := congrArg Envelope.text heq
  have hhead : text.toList.head? = some 'G' ∨ text.toList.head? = some 'E' := by
    rw [htext, String.toList_append, List.head?_append]
    rcases hlabel with h | h <;> simp [h]
  cases h <;> simp at hhead

/-- **A result can always be rendered.** Whatever the outside does with the request of a plan, it
fails, or it answers with a payload that fits the template and has a text. So no call is answered
with the words for a result that cannot be rendered. -/
theorem answer_renders {p : Profile} {name : String} {spec : Spec}
    (hlookup : p.registry.lookup name = some spec) (o : Outside) (c : Config) :
    (∀ args plan, spec.plan args = .ok plan →
      (∃ failure, o.answer c plan.request = .error failure) ∨
        ∃ payload, o.answer c plan.request = .ok payload ∧ payload.Fits plan.template ∧
          ∃ text, finish spec.errorLabel plan (.ok payload) = .ok text) ∧
    ∀ args, ((call p.registry name args).run (o.answer c)).1 ≠
      .of (.error (.unrenderable spec.errorLabel)) := by
  obtain ⟨op, hop, rfl, rfl⟩ := p.exists_operation_of_lookup hlookup
  refine ⟨fun args plan hplan => answer_failed_or_finished hop hplan o c, fun args => ?_⟩
  by_cases h : ∃ spec plan,
      Planned p.registry op.name (dropUnsupplied (args.getD .empty)) spec plan
  · obtain ⟨spec, plan, hplanned⟩ := h
    cases hlookup.symm.trans hplanned.registered
    rw [run_of_planned (o.answer c) hplanned]
    rcases answer_failed_or_finished hop hplanned.accepted o c with
      ⟨failure, hfailure⟩ | ⟨payload, hpayload, -, text, htext⟩
    · rw [hfailure]
      exact failure_ne_unrenderable (Outside.message_ne hfailure)
    · rw [hpayload, show op.spec.errorLabel = op.errorLabel from rfl, htext]
      intro heq
      cases congrArg Envelope.isError heq
  · -- no request is made, and a refusal does not look like the answer of an operation
    have hnot : ∀ spec plan,
        ¬Planned p.registry op.name (dropUnsupplied (args.getD .empty)) spec plan :=
      fun spec plan hplanned => h ⟨spec, plan, hplanned⟩
    obtain ⟨text, hrun, hrefused⟩ := run_of_not_planned (o.answer c) hnot
    rw [hrun]
    exact refused_ne_unrenderable hop hrefused

end Dispatch

/-- The configuration where the environment says nothing. -/
def Config.usual : Config where
  timeout := usualTimeout
  searchUrl :=
    { scheme := "http".toList, username := [], password := []
      host := some (.domain "localhost".toList), port := some 8080, guarded := false
      location := .path [[]], query := none, fragment := none }

/-- The outside where every program succeeds and prints nothing, and no search is answered. -/
def Outside.silent : Outside :=
  ⟨fun _ => .started (.prompt (.exit 0) [] []), fun _ => .unanswered⟩

/-- An indexer that has nothing to say has succeeded, and there is a text for that. -/
theorem Dispatch.answer_renders_index :
    Config.ofEnvironment Url.plainNames (fun _ => none) none = .ok Config.usual ∧
      ∃ plan text, Scip.indexPython.spec.plan (.ofList [("projectPath", .str "/w")]) = .ok plan ∧
        finish "Error indexing Python" plan (Outside.silent.answer Config.usual plan.request) =
          .ok text := by
  have hlookup : Profile.scip.registry.lookup "index_python" = some Scip.indexPython.spec := rfl
  obtain ⟨plan, hplan, hrequest⟩ : ∃ plan,
      Scip.indexPython.spec.plan (.ofList [("projectPath", .str "/w")]) = .ok plan ∧
        Outside.silent.answer Config.usual plan.request = .ok (.output ⟨"", ""⟩) := ⟨_, rfl, rfl⟩
  refine ⟨by cbv, plan, ?_⟩
  rcases (answer_renders hlookup Outside.silent Config.usual).1 _ plan hplan with
    ⟨failure, hfailure⟩ | ⟨payload, hpayload, -, text, htext⟩
  · cases hrequest.symm.trans hfailure
  · exact ⟨text, hplan, by rw [hpayload]; exact htext⟩

end ToolRelay
