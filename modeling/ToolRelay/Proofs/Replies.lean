import ToolRelay.Json.Shape
import ToolRelay.Proofs.Answers
import ToolRelay.Proofs.SearchAnswers

/-!
# Which replies are results of a search

The search service is asked for an object with an array under `results`. `Reply.Holds` says that a
body is one, and what is in the array; `Reply.Lists` says that a body is an array that stands in
place of the object, which the service does not send and which is taken for the object nevertheless.
Apart from that a search succeeds exactly with a reply that is one
(`SearchRequest.conclude_answered`), and no other reply is worded as a search without results.
-/

set_option autoImplicit false

namespace ToolRelay

open Json (Raw)

namespace Reply

/-- Whether a body is an object with the given members. Their names have to be texts; of their values
no more is asked than that they have the shape of JSON. -/
structure IsObject (body : List UInt8) (members : List (List Json.Mark × Raw)) : Prop where
  shape : Raw.ofMarks? (Text.Utf8.chunks body) = some (.object members)
  named : ∀ m ∈ members, ∃ name, Raw.text? m.1 = some name

/-- The items that a reply to a search holds: those of the array that is given once under `results`,
and none where nothing is given. -/
inductive Holds (body : List UInt8) : List Json → Prop
  | missing {members : List (List Json.Mark × Raw)} (object : IsObject body members)
      (absent : Raw.membersNamed "results" members = []) : Holds body []
  | given {members : List (List Json.Mark × Raw)} {v : Raw} {items : List Json}
      (object : IsObject body members) (once : Raw.membersNamed "results" members = [v])
      (array : v.toJson? (Json.maxDepth - 1) = some (.arr items)) : Holds body items

/-- The items in a body that is an array of the values of the object in their order. There is but
one such value, and it may be left out. -/
inductive Lists (body : List UInt8) : List Json → Prop
  | nothing (shape : Raw.ofMarks? (Text.Utf8.chunks body) = some (.array [])) : Lists body []
  | results {v : Raw} {items : List Json}
      (shape : Raw.ofMarks? (Text.Utf8.chunks body) = some (.array [v]))
      (array : v.toJson? (Json.maxDepth - 1) = some (.arr items)) : Lists body items

/-! ## Reading a body -/

/-- The items of a part are those of the array that it is read as. -/
theorem items?_eq_some_iff {v : Raw} {items : List Json} :
    items? v = some items ↔ v.toJson? (Json.maxDepth - 1) = some (.arr items) := by
  unfold items?
  cases v.toJson? (Json.maxDepth - 1) with
  | none => simp
  | some w => cases w <;> simp [Json.arr?]

/-- All of a list is mapped exactly if each of its elements is. -/
theorem exists_mapM_eq_some_iff {α β : Type} {f : α → Option β} {l : List α} :
    (∃ m, l.mapM f = some m) ↔ ∀ a ∈ l, ∃ b, f a = some b := by
  induction l with
  | nil => simp
  | cons a r ih =>
    rw [List.mapM_cons, List.forall_mem_cons, ← ih]
    cases f a with
    | none => simp
    | some b => cases r.mapM f <;> simp

/-- The members of a name are found when the names are read. -/
theorem membersNamed_of_mapM {members : List (List Json.Mark × Raw)} {named : List (String × Raw)}
    (h : (members.mapM fun (name, v) => (Raw.text? name).map fun name => (name, v)) = some named)
    (key : String) :
    Raw.membersNamed key members = (named.filter fun (name, _) => name == key).map (·.2) := by
  induction members generalizing named with
  | nil =>
    cases h
    rfl
  | cons m rest ih =>
    obtain ⟨body, v⟩ := m
    rw [List.mapM_cons] at h
    cases hname : Raw.text? body with
    | none => simp [hname] at h
    | some name =>
      cases hrest : rest.mapM fun (name, v) => (Raw.text? name).map fun name => (name, v) with
      | none => simp [hname, hrest] at h
      | some others =>
        simp only [hname, hrest, Option.map_some, Option.pure_def, Option.bind_eq_bind,
          Option.bind_some, Option.some.injEq] at h
        subst h
        have hsame := ih hrest
        unfold Raw.membersNamed at hsame ⊢
        by_cases hkey : name = key <;> simp [hname, hkey, hsame]

/-- An object has the items of its one member for results, or none if there is no such member; all
names must be texts. -/
theorem memberItems?_eq_some_iff {members : List (List Json.Mark × Raw)} {items : List Json} :
    memberItems? members = some items ↔
      (∀ m ∈ members, ∃ name, Raw.text? m.1 = some name) ∧
        (Raw.membersNamed "results" members = [] ∧ items = [] ∨
          ∃ v, Raw.membersNamed "results" members = [v] ∧ items? v = some items) := by
  have hread : (∃ named, (members.mapM fun (name, v) =>
      (Raw.text? name).map fun name => (name, v)) = some named) ↔
      ∀ m ∈ members, ∃ name, Raw.text? m.1 = some name := by
    rw [exists_mapM_eq_some_iff]
    apply forall₂_congr
    intro m _
    dsimp only
    cases Raw.text? m.1 <;> simp
  rw [← hread]
  unfold memberItems?
  cases hnamed : members.mapM fun (name, v) => (Raw.text? name).map fun name => (name, v) with
  | none => simp
  | some named =>
    rw [membersNamed_of_mapM hnamed "results"]
    dsimp only
    -- no member has the name, or one, or more than one
    cases named.filter fun (name, _) => name == "results" with
    | nil => simp [eq_comm]
    | cons m rest => cases rest <;> simp

/-- The results that are read in a body are those it holds as an object, or lists as an array. -/
theorem results?_eq_some_iff {body : List UInt8} {items : List Json} :
    results? body = some items ↔ Holds body items ∨ Lists body items := by
  constructor
  · intro h
    unfold results? at h
    split at h
    · next members hshape =>
      left
      obtain ⟨hnamed, ⟨habsent, rfl⟩ | ⟨v, honce, harray⟩⟩ := memberItems?_eq_some_iff.1 h
      · exact .missing ⟨hshape, hnamed⟩ habsent
      · exact .given ⟨hshape, hnamed⟩ honce (items?_eq_some_iff.1 harray)
    · next hshape =>
      cases h
      exact .inr (.nothing hshape)
    · next v hshape => exact .inr (.results hshape (items?_eq_some_iff.1 h))
    · cases h
  · unfold results?
    rintro ((⟨object, habsent⟩ | ⟨object, honce, harray⟩) | (⟨hshape⟩ | ⟨hshape, harray⟩))
    · rw [object.shape]
      exact memberItems?_eq_some_iff.2 ⟨object.named, .inl ⟨habsent, rfl⟩⟩
    · rw [object.shape]
      exact memberItems?_eq_some_iff.2
        ⟨object.named, .inr ⟨_, honce, items?_eq_some_iff.2 harray⟩⟩
    · rw [hshape]
    · rw [hshape]
      exact items?_eq_some_iff.2 harray

/-- A body that holds hits in an object does not list any. -/
theorem not_lists_of_holds {body : List UInt8} {items other : List Json} (h : Holds body items) :
    ¬Lists body other := by
  have hobject : ∃ members, Raw.ofMarks? (Text.Utf8.chunks body) = some (.object members) := by
    cases h with
    | missing object _ => exact ⟨_, object.shape⟩
    | given object _ _ => exact ⟨_, object.shape⟩
  obtain ⟨members, hmembers⟩ := hobject
  rintro (⟨hshape⟩ | ⟨hshape, -⟩)
  · cases hmembers.symm.trans hshape
  · cases hmembers.symm.trans hshape

/-! ## Bodies that are read as JSON -/

/-- What is found under a key is the first of what stands under it. -/
theorem find?_eq_head? {α : Type} (key : String) (l : List (String × α)) :
    Dict.find? key l = ((l.filter fun (name, _) => name == key).map (·.2)).head? := by
  induction l with
  | nil => rfl
  | cons e rest ih =>
    obtain ⟨name, v⟩ := e
    by_cases hname : name = key <;> simp [Dict.find?, hname, ih]

/-- The members of a name are read in their order. -/
theorem forall₂_membersNamed {depth : Nat} {members : List (List Json.Mark × Raw)}
    {l : List (String × Json)} (h : Raw.toMembers? depth members = some l) (key : String) :
    List.Forall₂ (fun v w => Raw.toJson? depth v = some w) (Raw.membersNamed key members)
      ((l.filter fun (name, _) => name == key).map (·.2)) := by
  induction members generalizing l with
  | nil =>
    cases h
    exact .nil
  | cons m rest ih =>
    obtain ⟨body, v⟩ := m
    rw [Raw.toMembers?] at h
    split at h
    · next name w others hname hvalue hrest =>
      cases h
      have hothers := ih hrest
      unfold Raw.membersNamed at hothers ⊢
      by_cases hkey : name = key
      · simpa [hname, hkey, hvalue] using hothers
      · simpa [hname, hkey] using hothers
    · cases h

/-- Members that are read have texts for names. -/
theorem named_of_toMembers? {depth : Nat} {members : List (List Json.Mark × Raw)}
    {l : List (String × Json)} (h : Raw.toMembers? depth members = some l) :
    ∀ m ∈ members, ∃ name, Raw.text? m.1 = some name := by
  induction members generalizing l with
  | nil => nofun
  | cons m rest ih =>
    rw [Raw.toMembers?] at h
    split at h
    · next name w others hname hvalue hrest =>
      exact List.forall_mem_cons.2 ⟨⟨name, hname⟩, ih hrest⟩
    · cases h

/-- A body that is read as an object, with an array under `results` that is given once, holds the
items of the array. -/
theorem holds_of_toJson? {body : List UInt8} {members : List (List Json.Mark × Raw)}
    (hshape : Raw.ofMarks? (Text.Utf8.chunks body) = some (.object members)) {d : Dict Json}
    (hread : (Raw.object members).toJson? Json.maxDepth = some (.ofDict d)) {v : Raw}
    (honce : Raw.membersNamed "results" members = [v]) {hits : List Json}
    (harray : d.get? "results" = some (.arr hits)) : Holds body hits := by
  obtain ⟨l, hl, hobject⟩ := Option.map_eq_some_iff.1 hread
  obtain rfl : Dict.ofList l = d := Dict.ext (Json.obj.inj hobject)
  have hread := forall₂_membersNamed hl "results"
  rw [honce] at hread
  obtain ⟨w, hw, hlast⟩ : ∃ w, Raw.toJson? (Json.maxDepth - 1) v = some w ∧
      (l.filter fun (name, _) => name == "results").map (·.2) = [w] := by
    rcases List.forall₂_cons_left_iff.1 hread with ⟨w, rest, hw, hrest, heq⟩
    rw [List.forall₂_nil_left_iff.1 hrest] at heq
    exact ⟨w, hw, heq⟩
  -- the last member of the name is the only one
  have hfound : (Dict.ofList l).get? "results" = some w := by
    rw [Dict.get?_ofList_reverse, find?_eq_head?, List.filter_reverse, List.map_reverse, hlast]
    rfl
  rw [hfound] at harray
  obtain rfl := Option.some.inj harray
  exact .given ⟨hshape, named_of_toMembers? hl⟩ honce hw

end Reply

/-! ## What a reply comes to -/

namespace SearchRequest

variable (r : SearchRequest) (base : Url)

/-- A reply has records exactly if it is a success and its body has hits, of which they are. -/
theorem conclude_eq_ok_iff (status : Nat) (body : List UInt8) (records : List SearchRecord) :
    r.conclude base (.answered status body) = .ok records ↔
      Reply.isSuccess status = true ∧
        ∃ hits, (Reply.Holds body hits ∨ Reply.Lists body hits) ∧ records = Hit.records hits := by
  simp only [← Reply.results?_eq_some_iff]
  unfold conclude
  by_cases hsuccess : Reply.isSuccess status = true
  · cases hresults : Reply.results? body <;> simp [hsuccess, hresults, eq_comm]
  · simp [hsuccess]

variable {r base}

/-- No failure of a search has a blank message. -/
theorem blank_message {reply : Reply} {failure : Failure}
    (h : r.conclude base reply = .error failure) : Text.blank failure.message = false := by
  -- whatever went wrong, the message was checked when the failure was made
  obtain ⟨message, rfl⟩ : ∃ message, failure = .of message := by
    unfold conclude at h
    split at h
    · exact ⟨_, (Except.error.inj h).symm⟩
    · split at h
      · split at h
        · cases h
        · exact ⟨_, (Except.error.inj h).symm⟩
      · exact ⟨_, (Except.error.inj h).symm⟩
  exact Failure.blank_message_of message

/-- **A reply is taken for results only when it is one**, or an array in its place. A search
succeeds exactly with a status of success and a body that is an object, with an array or nothing
under `results`, or an array of what such an object holds; with nothing under `results` there are no
records. Every other reply is a failure with a message that is not blank. A planned search is
answered with the sentence for no results only where it succeeds without records. So what is taken
for results is just what is one, unless the status is one of success and the body is an array. -/
theorem conclude_answered (r : SearchRequest) (base : Url) (status : Nat) (body : List UInt8) :
    (∀ records, r.conclude base (.answered status body) = .ok records ↔
      Reply.isSuccess status = true ∧
        ∃ hits, (Reply.Holds body hits ∨ Reply.Lists body hits) ∧ records = Hit.records hits) ∧
    (∀ members, Reply.IsObject body members → Raw.membersNamed "results" members = [] →
      ∀ records, r.conclude base (.answered status body) = .ok records → records = []) ∧
    (∀ failure, r.conclude base (.answered status body) = .error failure →
      Text.blank failure.message = false) ∧
    (∀ name args spec plan (o : Outside) (c : Config),
      Dispatch.Planned Profile.searxng.registry name
        (Dispatch.dropUnsupplied (args.getD .empty)) spec plan →
      plan.request = .search r → c.searchUrl = base → o.reply (r.url base) = .answered status body →
      (plan.template.noResults? plan.query =
          some ((Dispatch.call Profile.searxng.registry name args).run (o.answer c)).1.text ↔
        r.conclude base (.answered status body) = .ok [])) ∧
    (((∃ records, r.conclude base (.answered status body) = .ok records) ↔
        Reply.isSuccess status = true ∧ ∃ hits, Reply.Holds body hits) ↔
      ¬(Reply.isSuccess status = true ∧ ∃ hits, Reply.Lists body hits)) := by
  refine ⟨r.conclude_eq_ok_iff base status body, ?_, fun _ => blank_message, ?_, ?_⟩
  · intro members object habsent records h
    have hsuccess := ((r.conclude_eq_ok_iff base status body records).1 h).1
    have hnone : r.conclude base (.answered status body) = .ok (Hit.records []) :=
      (r.conclude_eq_ok_iff base status body _).2
        ⟨hsuccess, [], .inl (.missing object habsent), rfl⟩
    exact Except.ok.inj (h.symm.trans hnone)
  · intro name args spec plan o c hplanned hrequest hbase hreply
    obtain ⟨r', l, query, hshows, hlabel⟩ := Searxng.exists_shows_of_planned hplanned
    obtain rfl : r' = r := ExternalRequest.search.inj (hshows.request.symm.trans hrequest)
    have hanswer : o.answer c (.search r') =
        (r'.conclude base (.answered status body)).map .records := by
      rw [Outside.answer, hbase, hreply]
    exact Searxng.noResults_iff hplanned hshows hlabel hanswer
  · simp only [r.conclude_eq_ok_iff base status body]
    constructor
    · -- a body that is an array would have to be an object as well
      rintro hiff ⟨hsuccess, hits, hlists⟩
      obtain ⟨-, other, hholds⟩ := hiff.1 ⟨_, hsuccess, hits, .inr hlists, rfl⟩
      exact Reply.not_lists_of_holds hholds hlists
    · intro hnot
      constructor
      · rintro ⟨records, hsuccess, hits, hholds | hlists, -⟩
        · exact ⟨hsuccess, hits, hholds⟩
        · exact absurd ⟨hsuccess, hits, hlists⟩ hnot
      · rintro ⟨hsuccess, hits, hholds⟩
        exact ⟨_, hsuccess, hits, .inl hholds, rfl⟩

/-- A reply that says nothing of results is a search without any, whatever else stands in it. -/
theorem conclude_answered_missing :
    (⟨"/search", []⟩ : SearchRequest).conclude Config.usual.searchUrl
      (.answered 203 "\x7b\"n\":1e999\x7d".toUTF8.toList) = .ok [] := by
  have object : Reply.IsObject "\x7b\"n\":1e999\x7d".toUTF8.toList
      [([some 'n'], .number ⟨false, ['1'], none, some (false, ['9', '9', '9'])⟩)] :=
    ⟨by cbv, by simp [Raw.text?, Raw.unescape]⟩
  have hholds : Reply.Holds _ [] := .missing object (by cbv)
  exact ((conclude_answered _ _ 203 _).1 []).2 ⟨rfl, [], .inl hholds, rfl⟩

/-- A body with an array in place of the object. -/
def rowOctets : List UInt8 :=
  "[[\x7b\"url\":\"https://a.example\"\x7d]]".toUTF8.toList

/-- The array lists one hit. -/
theorem lists_rowOctets : Reply.Lists rowOctets [.obj [("url", .str "https://a.example")]] := by
  have hshape : Raw.ofMarks? (Text.Utf8.chunks rowOctets) = some (.array [.array [.object
      [("url".toList.map some, .string ("https://a.example".toList.map some))]]]) := by cbv
  exact .results hshape (by cbv)

/-- An array with nothing in it, and an array in which an array with a hit is, are taken for results
although they are no objects. -/
theorem conclude_array :
    ¬((∃ records, (⟨"/search", []⟩ : SearchRequest).conclude Config.usual.searchUrl
          (.answered 200 [0x5B, 0x5D]) = .ok records) ↔
        Reply.isSuccess 200 = true ∧ ∃ hits, Reply.Holds [0x5B, 0x5D] hits) ∧
      (⟨"/search", []⟩ : SearchRequest).conclude Config.usual.searchUrl
        (.answered 200 [0x5B, 0x5D]) = .ok [] ∧
      (⟨"/search", []⟩ : SearchRequest).conclude Config.usual.searchUrl
        (.answered 200 rowOctets) =
          .ok [⟨none, "https://a.example", none, none, none, none, none⟩] ∧
      ¬∃ hits, Reply.Holds rowOctets hits := by
  have hempty : Reply.Lists [0x5B, 0x5D] [] := .nothing rfl
  refine ⟨?_, rfl, ?_, ?_⟩
  · intro hiff
    obtain ⟨-, hits, hholds⟩ := hiff.1 ⟨[], rfl⟩
    exact Reply.not_lists_of_holds hholds hempty
  · rw [conclude_eq_ok_iff]
    exact ⟨rfl, _, .inr lists_rowOctets, rfl⟩
  · rintro ⟨hits, hholds⟩
    exact Reply.not_lists_of_holds hholds lists_rowOctets

end SearchRequest
end ToolRelay
