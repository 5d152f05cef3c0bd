import ToolRelay.Proofs.Requests
import ToolRelay.Proofs.ResultCount

/-!
# Logs of commits

Both operations over the history list what `git log` prints, a commit on each line. The output is
split into lines, cut to the limit, put together and split once more before it is worded, with other
rules for the end of a line each time. Of all that the answer shows nothing: it has an entry for each
of the first lines that is not blank, in order and numbered without gaps
(`GitHistory.log_lists_entries`).
-/

set_option autoImplicit false

namespace ToolRelay

/-! ## The text of a log -/

/-- Lines are numbered one by one. -/
theorem Template.numbered_eq_join (index : Nat) (ls : List (List Char)) :
    numbered index ls = String.join (((ls.map Text.trimEnd).zipIdx index).map fun (entry, i) =>
      number i ++ ". " ++ String.ofList entry ++ "\n") := by
  induction ls generalizing index with
  | nil => rfl
  | cons l ls ih => rw [numbered, ih, List.map_cons, List.zipIdx_cons, List.map_cons, String.join_cons]

namespace GitHistory

/-- What an operation says about the log that it lists. -/
structure Wording where
  /-- The start of the sentence that stands for no commits at all. -/
  nothing : String
  heading : String
  /-- The argument that the text repeats. -/
  subject : String
  /-- How many commits are listed where no number or zero is asked for. -/
  fallback : Nat

/-- The wording of a search of commits. -/
def Wording.commitSearch : Wording where
  nothing := "No matches found for"
  heading := "Commits matching"
  subject := "query"
  fallback := 10

/-- The wording of the history of a file. -/
def Wording.fileHistory : Wording where
  nothing := "No history found for file"
  heading := "History of"
  subject := "filePath"
  fallback := 5

/-- The wording of an operation. -/
def wording? : String → Option Wording
  | "search_commits" => some .commitSearch
  | "get_file_history" => some .fileHistory
  | _ => none

namespace Wording

/-- How many commits the arguments ask for. -/
def limit (w : Wording) (args : Dict Json) : Nat :=
  match args.get? "limit" with
  | some (.int n) => if n = 0 then w.fallback else n.toNat
  | _ => w.fallback

/-- The text for some lines of a log. -/
def text (w : Wording) (subject : String) (lines : List (List Char)) : String :=
  if lines.all fun l => l.all Text.isBlank then w.nothing ++ ": " ++ Template.inQuotes subject
  else "## " ++ w.heading ++ ": " ++ Template.inQuotes subject ++ "\n\n" ++
    String.join (((Text.entries lines).zipIdx 1).map fun (entry, index) =>
      Template.number index ++ ". " ++ String.ofList entry ++ "\n")

/-- A log that was cut is worded by the first lines of what was printed. -/
theorem renderLog_leading (w : Wording) (subject stdout : String) (n : Nat) :
    Template.renderLog w.nothing w.heading subject (Text.leading n stdout) =
      w.text subject ((Text.lines stdout.toList).take n) := by
  rw [Template.renderLog_eq_listing, Text.entries_lines_leading, Template.listing, text]
  -- both texts are about the lines that are not blank
  have hempty : (Text.entries ((Text.lines stdout.toList).take n)).isEmpty =
      ((Text.lines stdout.toList).take n).all fun l => l.all Text.isBlank := by
    rw [Bool.eq_iff_iff, Text.entries, List.isEmpty_map, List.isEmpty_iff, List.filter_eq_nil_iff,
      List.all_eq_true]
    simp
  have hnumbered : Template.numbered 1 (Text.entries ((Text.lines stdout.toList).take n)) =
      String.join (((Text.entries ((Text.lines stdout.toList).take n)).zipIdx 1).map
        fun (entry, index) =>
          Template.number index ++ ". " ++ String.ofList entry ++ "\n") := by
    rw [Text.entries, Template.numbered_map_trimEnd, Template.numbered_eq_join]
  rw [hempty, hnumbered]

/-- The number that is read for a limit, or the default in place of zero, is what is asked for. -/
theorem limit_eq_of_read {w : Wording} {p : Parameter Nat} (hname : p.name = "limit")
    (hkind : p.kind = .natural .bits32) (hfallback : p.fallback = some w.fallback)
    {args : Dict Json} {n : Nat} (h : p.read args = .ok n) :
    w.limit args = limitOr w.fallback n := by
  have hcount := Parameter.countOr_of_read hkind hfallback h
  rw [hname] at hcount
  exact hcount

/-- Arguments that do not count as supplied ask for no number. -/
theorem limit_dropUnsupplied (w : Wording) (args : Dict Json) :
    w.limit (Dispatch.dropUnsupplied args) = w.limit args :=
  args.countOr_dropUnsupplied "limit" w.fallback

/-- What a plan does that lists a log in some words: it asks for so many commits as the arguments
do, and shows no more of what is printed. -/
structure Lists (w : Wording) (args : Dict Json) (subject : String) (plan : Plan) : Prop where
  given : args.get? w.subject = some (.str subject)
  asks : ∃ c, plan.request = .command c ∧
    ["-n", Template.number (w.limit args)] <:+: c.arguments
  shows : plan.limit = some (w.limit args)
  query : plan.query = subject
  worded : ∀ o, plan.template.render subject (.output o) =
    .ok (Template.renderLog w.nothing w.heading subject o.stdout)

end Wording

/-- Every operation over the history lists a log in its words. -/
theorem exists_lists_of_planObject {op : Operation} (hop : op ∈ Profile.gitHistory.operations)
    {args : Dict Json} {plan : Plan} (h : op.planObject args = .ok plan) :
    ∃ w subject, wording? op.name = some w ∧ w.Lists args subject plan := by
  obtain ⟨x, hdecode, hplan⟩ := Operation.planObject_eq_ok_iff.1 h
  have hread := Signature.read_of_decode hdecode
  rcases List.mem_cons.1 hop with rfl | hop
  · obtain ⟨repo, query, mode, limit, ⟨⟩⟩ := x
    obtain ⟨-, hread⟩ := Signature.text_of_read hread
    obtain ⟨hquery, hread⟩ := Signature.text_of_read hread
    obtain ⟨-, hread⟩ := (Signature.read_cons_eq_ok_iff _ _ _ _ _).1 hread
    obtain ⟨hlimit, -⟩ := (Signature.read_cons_eq_ok_iff _ _ _ _ _).1 hread
    cases hplan
    have hcount := Wording.limit_eq_of_read (w := .commitSearch) rfl rfl rfl hlimit
    refine ⟨.commitSearch, query, rfl, ⟨hquery, ⟨_, rfl, ?_⟩, ?_, rfl, fun o => rfl⟩⟩
    · rw [hcount]
      exact ⟨["log", mode.filter query], [prettyFormat, "--date=iso"], rfl⟩
    · rw [hcount]
      rfl
  · obtain rfl := List.mem_singleton.1 hop
    obtain ⟨repo, path, limit, ⟨⟩⟩ := x
    obtain ⟨-, hread⟩ := Signature.text_of_read hread
    obtain ⟨hpath, hread⟩ := Signature.text_of_read hread
    obtain ⟨hlimit, -⟩ := (Signature.read_cons_eq_ok_iff _ _ _ _ _).1 hread
    cases hplan
    have hcount := Wording.limit_eq_of_read (w := .fileHistory) rfl rfl rfl hlimit
    refine ⟨.fileHistory, path, rfl, ⟨hpath, ⟨_, rfl, ?_⟩, ?_, rfl, fun o => rfl⟩⟩
    · rw [hcount]
      exact ⟨["log"], [prettyFormat, "--date=iso", "--", path], rfl⟩
    · rw [hcount]
      rfl

/-- What is shown of a log that a plan asked for are its first lines, in the words of the plan. -/
theorem Wording.Lists.finish {w : Wording} {args : Dict Json} {subject : String} {plan : Plan}
    (h : w.Lists args subject plan) (label : String) (o : CommandOutput) :
    Dispatch.finish label plan (.ok (.output o)) =
      .ok (w.text subject ((Text.lines o.stdout.toList).take (w.limit args))) := by
  have hrender : plan.template.render plan.query (Payload.truncate (w.limit args) (.output o)) =
      .ok (w.text subject ((Text.lines o.stdout.toList).take (w.limit args))) := by
    rw [h.query, Payload.truncate, h.worded, renderLog_leading]
  rw [Dispatch.finish, h.shows]
  dsimp only
  rw [hrender]

/-- **The answer lists the entries of the log.** A call of an operation over the history that makes
a request asks for as many commits as the arguments say, or for the default in place of nothing and
of zero. The text for what is printed tells that there is nothing where the first lines, as many as
were asked for, are all blank. Otherwise it has an entry for each of these lines that is not blank,
in order, without the white space at its end and numbered from one on. Cutting the output and
putting it together again leaves no trace in it. -/
theorem log_lists_entries {name : String} (args : Dict Json) (world : ExternalRequest → Outcome)
    {request : ExternalRequest}
    (hrequest : ((Dispatch.call Profile.gitHistory.registry name (some args)).run world).2 =
      [request])
    {o : CommandOutput} (hworld : world request = .ok (.output o)) :
    ∃ w subject, wording? name = some w ∧ args.get? w.subject = some (.str subject) ∧
      (∃ c, request = .command c ∧
        ["-n", Template.number (w.limit args)] <:+: c.arguments) ∧
      ((Dispatch.call Profile.gitHistory.registry name (some args)).run world).1 =
        ⟨w.text subject ((Text.lines o.stdout.toList).take (w.limit args)), false⟩ ∧
      Text.entries (Text.lines (Text.leading (w.limit args) o.stdout).toList) =
        Text.entries ((Text.lines o.stdout.toList).take (w.limit args)) := by
  obtain ⟨spec, plan, hplanned, rfl⟩ := Dispatch.requests_eq_singleton_iff.1 hrequest
  obtain ⟨op, hop, rfl, rfl⟩ := Profile.gitHistory.exists_operation_of_lookup hplanned.registered
  obtain ⟨w, subject, hw, hlists⟩ := exists_lists_of_planObject hop hplanned.accepted
  have hlimit : w.limit (Dispatch.dropUnsupplied args) = w.limit args :=
    w.limit_dropUnsupplied args
  have hgiven := hlists.given
  have hasks := hlists.asks
  have hfinish := hlists.finish op.spec.errorLabel o
  simp only [Option.getD_some, hlimit] at hgiven hasks hfinish
  refine ⟨w, subject, hw, ?_, hasks, ?_, Text.entries_lines_leading _ _⟩
  · rw [Dispatch.get?_dropUnsupplied, Option.filter_eq_some_iff] at hgiven
    exact hgiven.1
  · rw [Dispatch.run_of_planned world hplanned, hworld, hfinish]
    rfl

/-- Of three lines that are asked for one is blank, and one ends with two carriage returns. -/
theorem log_lists_entries_returns :
    ((Dispatch.call Profile.gitHistory.registry "search_commits" (some (.ofList
      [("repoPath", .str "/r"), ("query", .str "fix"), ("limit", .int 3)]))).run
        fun _ => .ok (.output ⟨"abc|x \r\r\n\n\tdef\nlast", ""⟩)).1 =
      ⟨"## Commits matching: \"fix\"\n\n1. abc|x\n2. \tdef\n", false⟩ := by
  have hlists := @log_lists_entries "search_commits"
    (.ofList [("repoPath", .str "/r"), ("query", .str "fix"), ("limit", .int 3)])
    (fun _ => .ok (.output ⟨"abc|x \r\r\n\n\tdef\nlast", ""⟩)) _ rfl _ rfl
  obtain ⟨w, subject, hw, hsubject, -, htext, -⟩ := hlists
  cases hw
  cases hsubject
  exact htext

end GitHistory
end ToolRelay
