import Mathlib
import ToolRelay.Proofs.Description
import ToolRelay.Proofs.Dispatching
import ToolRelay.Session

/-!
# Calls in a session

A client may have several calls under way at a time, and the outside may come to an end with their
requests in any order. `Course` is a session with the requests that are still pending and with what
has been written, and `Course.run` takes it through any such events. Every call is in one of two
places, settled or waiting (`Course.Ledger`), and each event keeps that account; so every call is
answered once, with what it has when it is the only one. The one thing that can come between is an
id that is used again while a call under it is under way (`Course.Reuses`), because the session then
takes the one answer for both calls and cancels the other.
-/

set_option autoImplicit false

namespace ToolRelay.Session

/-! ## Calls and what happens to them -/

/-- A call as a client sends it. -/
structure Asked where
  id : RequestId
  name : String
  arguments : Option (Dict Json)

namespace Asked

/-- The message with the call. -/
def message (call : Asked) : Message :=
  .request call.id (.callTool call.name call.arguments)

/-- The answer to the call when it is the only one. -/
def alone (p : Profile) (world : ExternalRequest → Outcome) (call : Asked) : Answer :=
  .result (resultOf ((Dispatch.call p.registry call.name call.arguments).run world).1)

/-- The answer to the call when it is cancelled. -/
def cancelled (call : Asked) : Answer :=
  .error internalError ("call to '" ++ call.name ++ "' cancelled")

end Asked

/-- What happens in a session while calls are made. -/
inductive Event
  | asked (call : Asked)
  /-- The outside comes to an end with the request for the call with the ticket. -/
  | ended (ticket : Nat)

/-- The call of an event, if it is one. -/
def Event.asked? : Event → Option Asked
  | .asked call => some call
  | .ended _ => none

/-- The answer of an effect, under its id, if it is one. -/
def Effect.written? : Effect → Option (RequestId × Answer)
  | .write id answer => some (id, answer)
  | .perform _ _ => none

/-- The request of an effect, under its ticket, if it is one. -/
def Effect.performed? : Effect → Option (Nat × ExternalRequest)
  | .write _ _ => none
  | .perform ticket request => some (ticket, request)

/-- A session on its way. -/
structure Course where
  session : Session
  /-- The requests that the outside has not come to an end with, under the tickets of the calls. -/
  pending : List (Nat × ExternalRequest)
  written : List (RequestId × Answer)

namespace Course

/-- The course after a step of its session. -/
def after (c : Course) (r : Session × List Effect) : Course where
  session := r.1
  pending := c.pending ++ r.2.filterMap Effect.performed?
  written := c.written ++ r.2.filterMap Effect.written?

/-- A step without effects changes the session only. -/
theorem after_nil (c : Course) (s : Session) : c.after (s, []) = { c with session := s } := by
  simp [after]

/-- An answer is written behind the others. -/
theorem after_write (c : Course) (s : Session) (id : RequestId) (answer : Answer)
    (effects : List Effect) : c.after (s, .write id answer :: effects) =
      { c with written := c.written ++ [(id, answer)] }.after (s, effects) := by
  simp [after, List.filterMap_cons, Effect.written?, Effect.performed?]

/-- A request is pending behind the others. -/
theorem after_perform (c : Course) (s : Session) (ticket : Nat) (r : ExternalRequest)
    (effects : List Effect) : c.after (s, .perform ticket r :: effects) =
      { c with pending := c.pending ++ [(ticket, r)] }.after (s, effects) := by
  simp [after, List.filterMap_cons, Effect.written?, Effect.performed?]

/-- The course without the request under a ticket. -/
def drop (c : Course) (ticket : Nat) : Course :=
  { c with pending := c.pending.filter fun e => e.1 ≠ ticket }

/-- What an event does: a call is received, or the outside comes to an end with a request that is
pending. -/
def step (world : ExternalRequest → Outcome) (c : Course) : Event → Course
  | .asked call => c.after (c.session.receive call.message)
  | .ended ticket =>
    match c.pending.find? fun e => e.1 = ticket with
    | none => c
    | some e => (c.after (c.session.conclude ticket (world e.2))).drop ticket

/-- The course after events. -/
def run (world : ExternalRequest → Outcome) (c : Course) (events : List Event) : Course :=
  events.foldl (step world) c

/-- The outside comes to an end with everything that is pending. -/
def endings (c : Course) : List Event :=
  c.pending.map fun e => .ended e.1

/-- The course of a session that the client has just opened. -/
def opened (p : Profile) (opening : RequestId) (version : String) : Course where
  session := (((fresh p).receive (.request opening (.greet version))).1.receive
    (.notification .initialized)).1
  pending := []
  written := []

/-- Whether a call comes in under an id while another call under that id is under way. -/
def Reuses (world : ExternalRequest → Outcome) (start : Course) (events : List Event)
    (id : RequestId) : Prop :=
  ∃ before call rest, events = before ++ .asked call :: rest ∧ call.id = id ∧
    ∃ o ∈ (start.run world before).session.calls, o.id = id

end Course

/-! ## Taking a call out of those under way -/

/-- No call is taken exactly if none passes the test. -/
theorem takeCall_eq_none_iff {test : OpenCall → Bool} {calls : List OpenCall} :
    takeCall test calls = none ↔ ∀ o ∈ calls, test o = false := by
  induction calls with
  | nil => simp [takeCall]
  | cons o rest ih =>
    by_cases ho : test o = true
    · simp [takeCall, ho]
    · simp [takeCall, ho, ih]

/-- A call that is taken passes the test, and the others stay in order. -/
theorem of_takeCall_eq_some {test : OpenCall → Bool} {calls rest : List OpenCall} {o : OpenCall}
    (h : takeCall test calls = some (o, rest)) :
    test o = true ∧ ∃ front back, calls = front ++ o :: back ∧ rest = front ++ back := by
  induction calls generalizing rest with
  | nil => cases h
  | cons first others ih =>
    by_cases hfirst : test first = true
    · rw [takeCall, if_pos hfirst] at h
      cases h
      exact ⟨hfirst, [], others, rfl, rfl⟩
    · rw [takeCall, if_neg hfirst, Option.map_eq_some_iff] at h
      obtain ⟨⟨found, others'⟩, htake, heq⟩ := h
      cases heq
      obtain ⟨htest, front, back, hcalls, hrest⟩ := ih htake
      exact ⟨htest, first :: front, back, by rw [hcalls]; rfl, by rw [hrest]; rfl⟩

/-- A call that an id no longer stands for. -/
def OpenCall.unmeant (id : RequestId) (o : OpenCall) : OpenCall :=
  if o.id = id then { o with meant := false } else o

/-- An id that is used again takes the meaning from the calls under it. -/
theorem calls_reuse (s : Session) (id : RequestId) :
    (s.reuse id).calls = s.calls.map (OpenCall.unmeant id) := rfl

namespace OpenCall

variable (id : RequestId) (o : OpenCall)

/-- A call that is not meant any more keeps its ticket. -/
@[simp] theorem ticket_unmeant : (o.unmeant id).ticket = o.ticket := by
  unfold unmeant
  split <;> rfl

/-- A call that is not meant any more keeps its id. -/
@[simp] theorem id_unmeant : (o.unmeant id).id = o.id := by
  unfold unmeant
  split <;> rfl

/-- A call that is not meant any more keeps its name. -/
@[simp] theorem name_unmeant : (o.unmeant id).name = o.name := by
  unfold unmeant
  split <;> rfl

/-- A call that is not meant any more keeps its way to answer. -/
@[simp] theorem answer_unmeant : (o.unmeant id).answer = o.answer := by
  unfold unmeant
  split <;> rfl

end OpenCall

/-! ## The account of the calls -/

namespace Course

/-- A call that is under way and the call of the client that it is: it waits for the request under
its ticket. -/
structure Waits (p : Profile) (pending : List (Nat × ExternalRequest)) (o : OpenCall)
    (call : Asked) : Prop where
  id : o.id = call.id
  name : o.name = call.name
  request : ∃ r, (o.ticket, r) ∈ pending ∧
    Dispatch.call p.registry call.name call.arguments = .waiting r o.answer

/-- The account of the calls that were asked for: each is settled, with the answer that was written,
or it is waiting. Only a call under an id that was used again can be settled by a cancellation. -/
structure Ledger (p : Profile) (world : ExternalRequest → Outcome) (asked : List Asked)
    (reused : RequestId → Prop) (c : Course) (settled : List (Asked × Answer))
    (waiting : List (OpenCall × Asked)) : Prop where
  phase : c.session.phase = .ready
  profile : c.session.profile = p
  complete : (settled.map Prod.fst ++ waiting.map Prod.snd).Perm asked
  written : c.written = settled.map fun e => (e.1.id, e.2)
  answered : ∀ e ∈ settled, e.2 = e.1.alone p world ∨ e.2 = e.1.cancelled ∧ reused e.1.id
  calls : c.session.calls = waiting.map Prod.fst
  waits : ∀ w ∈ waiting, Waits p c.pending w.1 w.2
  shared : waiting.Pairwise fun v w => v.2.id = w.2.id → reused v.2.id
  distinct : (waiting.map fun w => w.1.ticket).Nodup
  tickets : (c.pending.map Prod.fst).Nodup
  next : ∀ e ∈ c.pending, e.1 < c.session.next

namespace Ledger

variable {p : Profile} {world : ExternalRequest → Outcome} {asked : List Asked}
  {reused reused' : RequestId → Prop} {c : Course} {settled : List (Asked × Answer)}
  {waiting : List (OpenCall × Asked)}

/-- A ledger holds with more ids counted as used again. -/
theorem mono (h : Ledger p world asked reused c settled waiting)
    (hreused : ∀ id, reused id → reused' id) : Ledger p world asked reused' c settled waiting where
  __ := h
  answered := by
    intro e he
    rcases h.answered e he with halone | ⟨hcancelled, hid⟩
    · exact .inl halone
    · exact .inr ⟨hcancelled, hreused _ hid⟩
  shared := h.shared.imp fun hid heq => hreused _ (hid heq)

/-- One more answer is written for one more call that is settled. -/
theorem written_append {written : List (RequestId × Answer)}
    (h : written = settled.map fun e => (e.1.id, e.2)) (e : Asked × Answer) :
    written ++ [(e.1.id, e.2)] = (settled ++ [e]).map fun e => (e.1.id, e.2) := by
  rw [h, List.map_append]
  rfl

/-- One more call is settled with its own answer, or was cancelled under an id that was used again.
-/
theorem answered_append
    (h : ∀ e ∈ settled, e.2 = e.1.alone p world ∨ e.2 = e.1.cancelled ∧ reused e.1.id)
    {call : Asked} {answer : Answer}
    (hanswer : answer = call.alone p world ∨ answer = call.cancelled ∧ reused call.id) :
    ∀ e ∈ settled ++ [(call, answer)],
      e.2 = e.1.alone p world ∨ e.2 = e.1.cancelled ∧ reused e.1.id := by
  intro e he
  rcases List.mem_append.1 he with he | he
  · exact h e he
  · rw [List.mem_singleton.1 he]
    exact hanswer

/-- A call that waits is settled with an answer. -/
theorem settle (h : Ledger p world asked reused c settled waiting)
    {front back : List (OpenCall × Asked)} {o : OpenCall} {call : Asked}
    (hwaiting : waiting = front ++ (o, call) :: back) {answer : Answer}
    (hanswer : answer = call.alone p world ∨ answer = call.cancelled ∧ reused call.id) :
    Ledger p world asked reused
      { c with
        session := { c.session with calls := (front ++ back).map Prod.fst }
        written := c.written ++ [(call.id, answer)] }
      (settled ++ [(call, answer)]) (front ++ back) := by
  have hperm : waiting.Perm ((o, call) :: (front ++ back)) := hwaiting ▸ List.perm_middle
  have hsub : List.Sublist (front ++ back) waiting := by
    rw [hwaiting]
    exact (List.Sublist.refl front).append (List.sublist_cons_self _ back)
  refine ⟨h.phase, h.profile, ?_, ?_, ?_, rfl, ?_, h.shared.sublist hsub, ?_, h.tickets, h.next⟩
  · have hcalls := (hperm.map Prod.snd).symm
    rw [List.map_cons] at hcalls
    refine List.Perm.trans ?_ h.complete
    rw [List.map_append, List.append_assoc]
    exact List.Perm.append_left _ hcalls
  · exact written_append h.written (call, answer)
  · exact answered_append h.answered hanswer
  · intro w hw
    exact h.waits w (hsub.subset hw)
  · exact h.distinct.sublist (hsub.map _)

/-- A request that no call waits for may come to its end. -/
theorem drop (h : Ledger p world asked reused c settled waiting) {ticket : Nat}
    (hticket : ∀ w ∈ waiting, w.1.ticket ≠ ticket) :
    Ledger p world asked reused (c.drop ticket) settled waiting where
  __ := h
  waits := by
    intro w hw
    obtain ⟨r, hr, hcall⟩ := (h.waits w hw).request
    refine ⟨(h.waits w hw).id, (h.waits w hw).name, r, ?_, hcall⟩
    exact List.mem_filter.2 ⟨hr, by simpa using hticket w hw⟩
  tickets := h.tickets.sublist (List.filter_sublist.map _)
  next := fun e he => h.next e (List.mem_of_mem_filter he)

/-- A call that is answered at once is settled. -/
theorem answer (h : Ledger p world asked reused c settled waiting) {call : Asked} {answer : Answer}
    (hanswer : answer = call.alone p world) :
    Ledger p world (asked ++ [call]) reused
      { c with written := c.written ++ [(call.id, answer)] } (settled ++ [(call, answer)]) waiting
    where
  __ := h
  complete := by
    rw [List.map_append, List.map_singleton, List.append_assoc]
    have hswap : ([call] ++ waiting.map Prod.snd).Perm (waiting.map Prod.snd ++ [call]) :=
      List.perm_append_comm
    refine (List.Perm.append_left _ hswap).trans ?_
    rw [← List.append_assoc]
    exact h.complete.append_right _
  written := written_append h.written (call, answer)
  answered := answered_append h.answered (.inl hanswer)

/-- A call that is not answered at once waits. -/
theorem wait (h : Ledger p world asked reused c settled waiting) {call : Asked}
    {request : ExternalRequest} {answer : Outcome → Envelope}
    (hcall : Dispatch.call p.registry call.name call.arguments = .waiting request answer)
    (hreused : ∀ w ∈ waiting, w.2.id = call.id → reused call.id) :
    Ledger p world (asked ++ [call]) reused
      { session :=
          { c.session with
            calls := c.session.calls ++ [⟨c.session.next, call.id, true, call.name, answer⟩]
            next := c.session.next + 1 }
        pending := c.pending ++ [(c.session.next, request)]
        written := c.written }
      settled (waiting ++ [(⟨c.session.next, call.id, true, call.name, answer⟩, call)]) := by
  have hold : ∀ w ∈ waiting, w.1.ticket < c.session.next := by
    intro w hw
    obtain ⟨r, hr, -⟩ := (h.waits w hw).request
    exact h.next _ hr
  refine ⟨h.phase, h.profile, ?_, h.written, h.answered, ?_, ?_, ?_, ?_, ?_, ?_⟩
  · rw [List.map_append, ← List.append_assoc]
    exact h.complete.append_right _
  · rw [List.map_append, ← h.calls]
    rfl
  · intro w hw
    rcases List.mem_append.1 hw with hw | hw
    · obtain ⟨r, hr, hwaits⟩ := (h.waits w hw).request
      exact ⟨(h.waits w hw).id, (h.waits w hw).name, r, List.mem_append_left _ hr, hwaits⟩
    · rw [List.mem_singleton.1 hw]
      exact ⟨rfl, rfl, request, List.mem_append_right _ (List.mem_singleton.2 rfl), hcall⟩
  · rw [List.pairwise_append]
    refine ⟨h.shared, List.pairwise_singleton _ _, ?_⟩
    intro v hv w hw
    rw [List.mem_singleton.1 hw]
    intro hid
    rw [hid]
    exact hreused v hv hid
  · rw [List.map_append, List.map_singleton, ← List.concat_eq_append, List.nodup_concat]
    refine ⟨?_, h.distinct⟩
    intro hmem
    obtain ⟨w, hw, heq⟩ := List.mem_map.1 hmem
    exact absurd heq (Nat.ne_of_lt (hold w hw))
  · rw [List.map_append, List.map_singleton, ← List.concat_eq_append, List.nodup_concat]
    refine ⟨?_, h.tickets⟩
    intro hmem
    obtain ⟨e, he, heq⟩ := List.mem_map.1 hmem
    exact absurd heq (Nat.ne_of_lt (h.next e he))
  · intro e he
    rcases List.mem_append.1 he with he | he
    · have hlt := h.next e he
      exact Nat.lt_succ_of_lt hlt
    · rw [List.mem_singleton.1 he]
      exact Nat.lt_succ_self _

/-- An id that comes in again changes no account. -/
theorem reuse (h : Ledger p world asked reused c settled waiting) (id : RequestId) :
    Ledger p world asked reused { c with session := c.session.reuse id } settled
      (waiting.map fun w => (w.1.unmeant id, w.2)) where
  __ := h
  complete := by simpa [Function.comp_def] using h.complete
  calls := by
    have hcalls : (c.session.reuse id).calls =
        (waiting.map Prod.fst).map (OpenCall.unmeant id) := by
      rw [calls_reuse, h.calls]
    simpa [Function.comp_def] using hcalls
  waits := by
    intro w hw
    obtain ⟨v, hv, rfl⟩ := List.mem_map.1 hw
    have hwaits := h.waits v hv
    exact ⟨by simpa using hwaits.id, by simpa using hwaits.name, by simpa using hwaits.request⟩
  shared := List.pairwise_map.2 h.shared
  distinct := by simpa [Function.comp_def] using h.distinct

/-- A call that comes in is settled, or it waits. -/
theorem ask (h : Ledger p world asked reused c settled waiting) {call : Asked}
    (hreused : ∀ o ∈ c.session.calls, o.id = call.id → reused call.id) :
    ∃ settled' waiting', Ledger p world (asked ++ [call]) reused (c.step world (.asked call))
      settled' waiting' := by
  have hreceive : c.session.receive call.message =
      (c.session.reuse call.id).begin call.id call.name call.arguments := by
    simp only [receive, Asked.message, h.phase, request]
  have hprofile : (c.session.reuse call.id).profile.registry = p.registry :=
    congrArg Profile.registry h.profile
  have hledger := h.reuse call.id
  rw [step, hreceive, begin, hprofile]
  cases hcall : Dispatch.call p.registry call.name call.arguments with
  | answered envelope =>
    have halone : Answer.result (resultOf envelope) = call.alone p world := by
      rw [Asked.alone, hcall]
      rfl
    simp only [after_write, after_nil]
    exact ⟨_, _, hledger.answer halone⟩
  | waiting request answer =>
    have hshared : ∀ w ∈ waiting.map fun w => (w.1.unmeant call.id, w.2),
        w.2.id = call.id → reused call.id := by
      intro w hw hid
      obtain ⟨v, hv, rfl⟩ := List.mem_map.1 hw
      have hmem : v.1 ∈ c.session.calls := h.calls ▸ List.mem_map_of_mem hv
      exact hreused v.1 hmem ((h.waits v hv).id.trans hid)
    simp only [after_perform, after_nil]
    exact ⟨_, _, hledger.wait hcall hshared⟩

/-- A call that is taken out of the session was waiting. -/
theorem exists_of_takeCall (h : Ledger p world asked reused c settled waiting)
    {test : OpenCall → Bool} {o : OpenCall} {rest : List OpenCall}
    (htake : takeCall test c.session.calls = some (o, rest)) :
    test o = true ∧ ∃ front back call,
      waiting = front ++ (o, call) :: back ∧ rest = (front ++ back).map Prod.fst := by
  obtain ⟨htest, front, back, hcalls, hrest⟩ := of_takeCall_eq_some htake
  rw [h.calls, List.map_eq_append_iff] at hcalls
  obtain ⟨front', tail, hwaiting, hfront, htail⟩ := hcalls
  obtain ⟨⟨o', call⟩, back', rfl, ho, hback⟩ := List.map_eq_cons_iff.1 htail
  obtain rfl : o' = o := ho
  refine ⟨htest, front', back', call, hwaiting, ?_⟩
  rw [hrest, List.map_append, hfront, hback]

/-- What an id stands for is cancelled where another call had the id as well. -/
theorem cancel (h : Ledger p world asked reused c settled waiting) {id : RequestId}
    (hreused : ∀ w ∈ waiting, w.2.id = id → reused id) :
    ∃ settled' waiting', waiting' ⊆ waiting ∧
      Ledger p world asked reused (c.after (c.session.cancel id)) settled' waiting' := by
  rw [Session.cancel]
  cases htake : takeCall (fun o => o.meant && o.id == id) c.session.calls with
  | none =>
    simp only [after_nil]
    exact ⟨settled, waiting, List.Subset.refl waiting, h⟩
  | some taken =>
    obtain ⟨o, rest⟩ := taken
    obtain ⟨htest, front, back, call, hwaiting, hrest⟩ := h.exists_of_takeCall htake
    have hmem : (o, call) ∈ waiting := by
      rw [hwaiting]
      exact List.mem_append_right _ List.mem_cons_self
    have hid : call.id = id := by
      have ho : o.id = id := by
        simp only [Bool.and_eq_true, beq_iff_eq] at htest
        exact htest.2
      exact (h.waits _ hmem).id.symm.trans ho
    have hcancelled : Answer.error internalError ("call to '" ++ o.name ++ "' cancelled") =
        call.cancelled := by
      rw [Asked.cancelled, (h.waits _ hmem).name]
    have hsub : front ++ back ⊆ waiting := by
      rw [hwaiting]
      exact List.append_subset.2 ⟨List.subset_append_left _ _,
        fun w hw => List.mem_append_right _ (List.mem_cons_of_mem _ hw)⟩
    have hsettle := h.settle hwaiting
      (.inr ⟨hcancelled, by rw [hid]; exact hreused _ hmem hid⟩)
    rw [hid, ← hrest] at hsettle
    simp only [after_write, after_nil]
    exact ⟨_, _, hsub, hsettle⟩

/-- The request of a call comes to its end: the call is settled, and so is another one if its id
stands for that. -/
theorem finish (h : Ledger p world asked reused c settled waiting) (ticket : Nat) :
    ∃ settled' waiting',
      Ledger p world asked reused (c.step world (.ended ticket)) settled' waiting' := by
  rw [step]
  cases hfind : c.pending.find? fun e => e.1 = ticket with
  | none => exact ⟨settled, waiting, h⟩
  | some e =>
    obtain ⟨ticket', r⟩ := e
    obtain rfl : ticket' = ticket := by simpa using List.find?_some hfind
    have hpending : (ticket', r) ∈ c.pending := List.mem_of_find?_eq_some hfind
    simp only [conclude]
    cases htake : takeCall (fun o => o.ticket == ticket') c.session.calls with
    | none =>
      -- the call was cancelled, and nobody waits for the request
      rw [takeCall_eq_none_iff] at htake
      have hother : ∀ w ∈ waiting, w.1.ticket ≠ ticket' := by
        intro w hw
        simpa using htake w.1 (h.calls ▸ List.mem_map_of_mem hw)
      simp only [after_nil]
      exact ⟨settled, waiting, h.drop hother⟩
    | some taken =>
      obtain ⟨o, rest⟩ := taken
      obtain ⟨htest, front, back, call, hwaiting, hrest⟩ := h.exists_of_takeCall htake
      obtain rfl : o.ticket = ticket' := by simpa using htest
      have hperm : waiting.Perm ((o, call) :: (front ++ back)) := hwaiting ▸ List.perm_middle
      have hwaits := h.waits (o, call) (hperm.mem_iff.2 List.mem_cons_self)
      -- the request that ended is the one that the call waits for
      obtain ⟨r', hr', hcall⟩ := hwaits.request
      have hsame := List.inj_on_of_nodup_map h.tickets hr' hpending rfl
      obtain rfl : r' = r := congrArg Prod.snd hsame
      have halone : Answer.result (resultOf (o.answer (world r'))) = call.alone p world := by
        rw [Asked.alone, hcall]
        rfl
      have hsettle := h.settle hwaiting (.inl halone)
      have hshared : ∀ w ∈ front ++ back, w.2.id = call.id → reused call.id := by
        have hpairs := (hperm.pairwise_iff fun hid heq => heq ▸ hid heq.symm).1 h.shared
        intro w hw hid
        exact (List.pairwise_cons.1 hpairs).1 w hw hid.symm
      obtain ⟨settled', waiting', hsub, hcancel⟩ := hsettle.cancel hshared
      have hother : ∀ w ∈ waiting', w.1.ticket ≠ o.ticket := by
        intro w hw heq
        have hdistinct := (hperm.map fun w => w.1.ticket).nodup_iff.1 h.distinct
        rw [List.map_cons, List.nodup_cons] at hdistinct
        exact hdistinct.1 (heq ▸ List.mem_map_of_mem (hsub hw))
      refine ⟨settled', waiting', ?_⟩
      simp only [after_write]
      rw [hwaits.id, hrest]
      exact hcancel.drop hother

end Ledger

/-! ## Whole courses -/

variable (p : Profile) (opening : RequestId) (version : String)
  (world : ExternalRequest → Outcome)

/-- Events are run one after the other. -/
theorem run_append (c : Course) (events more : List Event) :
    c.run world (events ++ more) = (c.run world events).run world more :=
  List.foldl_append

/-- An id that was used again has been so after one more event. -/
theorem Reuses.append {start : Course} {events : List Event} {id : RequestId}
    (h : start.Reuses world events id) (e : Event) : start.Reuses world (events ++ [e]) id := by
  obtain ⟨before, call, rest, rfl, hid, hopen⟩ := h
  exact ⟨before, call, rest ++ [e], by simp, hid, hopen⟩

/-- The account is kept through any course of a session. -/
theorem exists_ledger (events : List Event) :
    ∃ settled waiting, Ledger p world (events.filterMap Event.asked?)
      ((opened p opening version).Reuses world events)
      ((opened p opening version).run world events) settled waiting := by
  induction events using List.reverseRecOn with
  | nil =>
    exact ⟨[], [], rfl, rfl, List.Perm.refl _, rfl, nofun, rfl, nofun, .nil, .nil, .nil, nofun⟩
  | append_singleton events e ih =>
    obtain ⟨settled, waiting, hledger⟩ := ih
    have hmono := hledger.mono fun id hid => Reuses.append world hid e
    rw [run_append, List.filterMap_append]
    cases e with
    | asked call =>
      refine hmono.ask fun o ho hid => ?_
      exact ⟨events, call, [], rfl, rfl, o, ho, hid⟩
    | ended ticket =>
      rw [show [Event.ended ticket].filterMap Event.asked? = [] from rfl, List.append_nil]
      exact hmono.finish ticket

/-- A client that uses no id twice uses none while a call under it is under way. -/
theorem not_reuses_of_nodup {events : List Event}
    (h : ((events.filterMap Event.asked?).map Asked.id).Nodup) (id : RequestId) :
    ¬(opened p opening version).Reuses world events id := by
  rintro ⟨before, call, rest, rfl, rfl, o, ho, hid⟩
  obtain ⟨settled, waiting, hledger⟩ := exists_ledger p opening version world before
  -- the call under way is one of those that came in before
  rw [hledger.calls] at ho
  obtain ⟨w, hw, rfl⟩ := List.mem_map.1 ho
  have hbefore : w.2 ∈ before.filterMap Event.asked? :=
    hledger.complete.mem_iff.1 (List.mem_append_right _ (List.mem_map_of_mem hw))
  have hcall : w.2.id = call.id := (hledger.waits w hw).id.symm.trans hid
  have hsplit : (Event.asked call :: rest).filterMap Event.asked? =
      call :: rest.filterMap Event.asked? := rfl
  rw [List.filterMap_append, hsplit, List.map_append, List.map_cons] at h
  have hapart := (List.nodup_append.1 h).2.2
  exact hapart _ (List.mem_map_of_mem hbefore) _ List.mem_cons_self hcall

/-- The end of a request makes no other request. -/
theorem performed_conclude (s : Session) (ticket : Nat) (o : Outcome) :
    (s.conclude ticket o).2.filterMap Effect.performed? = [] := by
  have hcancel : ∀ (s : Session) (id : RequestId),
      (s.cancel id).2.filterMap Effect.performed? = [] := by
    intro s id
    unfold Session.cancel
    split <;> rfl
  unfold conclude
  split
  · rfl
  · exact hcancel _ _

/-- A request that has come to its end is not pending. -/
theorem pending_ended (c : Course) (ticket : Nat) :
    (c.step world (.ended ticket)).pending = c.pending.filter fun e => e.1 ≠ ticket := by
  rw [step]
  cases hfind : c.pending.find? fun e => e.1 = ticket with
  | none =>
    have hall := List.find?_eq_none.1 hfind
    exact (List.filter_eq_self.2 fun e he => by simpa using hall e he).symm
  | some e =>
    show (c.after (c.session.conclude ticket (world e.2))).pending.filter _ = _
    rw [after, performed_conclude, List.append_nil]

/-- When every pending request has come to its end, none is pending. -/
theorem pending_run_endings (c : Course) :
    (c.run world c.endings).pending = [] := by
  have hrun : ∀ (tickets : List Nat) (c : Course),
      (c.run world (tickets.map .ended)).pending = c.pending.filter fun e => e.1 ∉ tickets := by
    intro tickets
    induction tickets with
    | nil =>
      intro c
      simp [run]
    | cons ticket rest ih =>
      intro c
      have hstep := ih (c.step world (.ended ticket))
      rw [pending_ended, List.filter_filter] at hstep
      refine hstep.trans (List.filter_congr fun e _ => ?_)
      simp [Bool.and_comm]
  have hall := hrun (c.pending.map Prod.fst) c
  rw [List.map_map] at hall
  refine hall.trans (List.filter_eq_nil_iff.2 fun e he => ?_)
  simpa using ⟨e.2, he⟩

/-- What becomes of the calls that were asked for: each one is settled, with the answer that was
written under its id, or its request is pending. The answer is the one that the call has alone,
unless its id came in again while it was under way. -/
structure Account (p : Profile) (world : ExternalRequest → Outcome) (asked : List Asked)
    (reused : RequestId → Prop) (c : Course) (settled : List (Asked × Answer))
    (waiting : List Asked) : Prop where
  complete : (settled.map Prod.fst ++ waiting).Perm asked
  written : c.written = settled.map fun e => (e.1.id, e.2)
  answered : ∀ e ∈ settled, e.2 = e.1.alone p world ∨ e.2 = e.1.cancelled ∧ reused e.1.id
  waits : ∀ call ∈ waiting, ∃ e ∈ c.pending,
    ((Dispatch.call p.registry call.name call.arguments).run world).2 = [e.2]

/-- After any events every call is settled or waits for its request. -/
theorem exists_account (events : List Event) :
    ∃ settled waiting, Account p world (events.filterMap Event.asked?)
      ((opened p opening version).Reuses world events)
      ((opened p opening version).run world events) settled waiting := by
  obtain ⟨settled, waiting, hledger⟩ := exists_ledger p opening version world events
  refine ⟨settled, waiting.map Prod.snd, hledger.complete, hledger.written, hledger.answered, ?_⟩
  intro call hcall
  obtain ⟨w, hw, rfl⟩ := List.mem_map.1 hcall
  obtain ⟨r, hr, hwaits⟩ := (hledger.waits w hw).request
  refine ⟨_, hr, ?_⟩
  rw [hwaits]
  rfl

/-- Ends of requests are no calls. -/
theorem asked_append_endings (events : List Event) (c : Course) :
    (events ++ c.endings).filterMap Event.asked? = events.filterMap Event.asked? := by
  have hnone : c.endings.filterMap Event.asked? = [] := by
    rw [endings, List.filterMap_map, List.filterMap_eq_nil_iff]
    intro e _
    rfl
  rw [List.filterMap_append, hnone, List.append_nil]

/-- When the ids differ, every call is answered once, and with its own answer, as soon as the
requests under way have come to their ends. -/
theorem written_perm (events : List Event)
    (h : ((events.filterMap Event.asked?).map Asked.id).Nodup) {c : Course}
    (hc : c = (opened p opening version).run world events) :
    (c.run world c.endings).written.Perm
      ((events.filterMap Event.asked?).map fun call => (call.id, call.alone p world)) := by
  have hnone := pending_run_endings world c
  have hasked := asked_append_endings events c
  obtain ⟨settled, waiting, haccount⟩ := exists_account p opening version world
    (events ++ c.endings)
  have hfresh := not_reuses_of_nodup p opening version world (hasked.symm ▸ h)
  rw [run_append, ← hc, hasked] at haccount
  have hwaiting : waiting = [] := by
    rw [List.eq_nil_iff_forall_not_mem]
    intro call hcall
    obtain ⟨e, he, -⟩ := haccount.waits call hcall
    rw [hnone] at he
    cases he
  have hanswers : settled.map (fun e => (e.1.id, e.2)) =
      (settled.map Prod.fst).map fun call => (call.id, call.alone p world) := by
    rw [List.map_map]
    refine List.map_congr_left fun e he => ?_
    rcases haccount.answered e he with halone | ⟨-, hreused⟩
    · rw [halone]
      rfl
    · exact absurd hreused (hfresh _)
  have hcomplete := haccount.complete
  rw [hwaiting, List.append_nil] at hcomplete
  rw [haccount.written, hanswers]
  exact hcomplete.map _

end Course

/-! ## A client that waits for every answer -/

/-- A client that waits for every answer gets each call answered alone, one after the other. -/
theorem converse_asked (p : Profile) (world : ExternalRequest → Outcome) (calls : List Asked)
    (n : Nat) :
    ((⟨p, .ready, [], n⟩ : Session).converse world (calls.map Asked.message)).2 =
      (calls.map fun call => (call.id, call.alone p world),
        calls.flatMap fun call =>
          ((Dispatch.call p.registry call.name call.arguments).run world).2) := by
  induction calls generalizing n with
  | nil => rfl
  | cons call rest ih =>
    have hreceive : (⟨p, .ready, [], n⟩ : Session).receive call.message =
        (⟨p, .ready, [], n⟩ : Session).begin call.id call.name call.arguments := rfl
    rw [List.map_cons, converse, hreceive, begin]
    cases hcall : Dispatch.call p.registry call.name call.arguments with
    | answered envelope =>
      simp [carryOut, ih, hcall, Asked.alone, Call.run]
    | waiting request answer =>
      simp [carryOut, conclude, takeCall, Session.cancel, ih, hcall, Asked.alone, Call.run]

/-! ## Answers to calls -/

/-- Whether an answer is a result with an envelope in it: one item, its text, and its error flag. -/
def Answer.Carries (e : Envelope) : Answer → Prop
  | .error _ _ => False
  | .result v => v.get? "isError" = some (.bool e.isError) ∧
    ∃ item, v.get? "content" = some (.arr [item]) ∧
      item.get? "type" = some (.str "text") ∧ item.get? "text" = some (.str e.text)

/-- The result made of an envelope carries it. -/
theorem carries_resultOf (e : Envelope) : (Answer.result (resultOf e)).Carries e := by
  refine ⟨?_, .record [("type", .str "text"), ("text", .str e.text)], ?_, ?_, ?_⟩
  · rw [resultOf, Json.get?_record (by simp)]
    rfl
  · rw [resultOf, Json.get?_record (by simp)]
    rfl
  · rw [Json.get?_record (by simp)]
    rfl
  · rw [Json.get?_record (by simp)]
    rfl

/-- Every call of a session is answered by a result that carries the envelope of its dispatch, and
no other call of the session has a part in it: for a client that waits for every answer, and for one
that has several calls under way, in whatever order their requests come to an end. -/
theorem calls_answered_alone (p : Profile) (opening : RequestId) (version : String)
    (world : ExternalRequest → Outcome) :
    (∀ call : Asked, (call.alone p world).Carries
      ((Dispatch.call p.registry call.name call.arguments).run world).1) ∧
    (∀ calls : List Asked,
      ((fresh p).converse world (.request opening (.greet version) :: .notification .initialized ::
          calls.map Asked.message)).2.1 =
        (opening, .result (greeting p (agreedVersion version))) ::
          calls.map fun call => (call.id, call.alone p world)) ∧
    ∀ (events : List Event) (c : Course), c = (Course.opened p opening version).run world events →
      (((events.filterMap Event.asked?).map Asked.id).Nodup →
        (c.run world c.endings).written.Perm
          ((events.filterMap Event.asked?).map fun call => (call.id, call.alone p world))) ∧
      ∃ settled waiting, Course.Account p world (events.filterMap Event.asked?)
        ((Course.opened p opening version).Reuses world events) c settled waiting := by
  refine ⟨?_, ?_, ?_⟩
  · intro call
    exact carries_resultOf _
  · intro calls
    have hready := congrArg Prod.fst (converse_asked p world calls 0)
    simpa [converse, receive, fresh, carryOut] using hready
  · rintro events c rfl
    refine ⟨?_, Course.exists_account p opening version world events⟩
    intro hids
    exact Course.written_perm p opening version world events hids rfl

/-- A call to index a project. -/
def indexing (id : Int) (path : String) : Asked :=
  ⟨.number id, "index_python", some (.ofList [("projectPath", .str path)])⟩

/-- A second call comes while the first one is under way, and its request ends before. -/
def overlapping : List Event :=
  [.asked (indexing 1 "/p"), .asked (indexing 2 "/q"), .ended 1]

/-- The outside where every program succeeds and the path says what it prints. -/
def echo : ExternalRequest → Outcome
  | .command r => .ok (.output ⟨" ".intercalate r.arguments, ""⟩)
  | .search _ => .ok (.records [])

/-- The session with these calls. -/
def overlappingCourse : Course :=
  (Course.opened .scip (.number 0) "2025-06-18").run echo overlapping

/-- Of two calls under way at a time each gets its own answer, though the second one is answered
first. -/
theorem calls_answered_alone_overlapping :
    overlappingCourse.pending.map Prod.fst = [0] ∧
      overlappingCourse.written.map Prod.fst = [.number 2] ∧
      (overlappingCourse.run echo overlappingCourse.endings).written.Perm
        [(.number 1, (indexing 1 "/p").alone .scip echo),
          (.number 2, (indexing 2 "/q").alone .scip echo)] := by
  have hids : ((overlapping.filterMap Event.asked?).map Asked.id).Nodup := by decide
  obtain ⟨-, -, hcourses⟩ := calls_answered_alone .scip (.number 0) "2025-06-18" echo
  obtain ⟨hanswers, -⟩ := hcourses overlapping overlappingCourse rfl
  exact ⟨rfl, rfl, hanswers hids⟩

end ToolRelay.Session
