import ToolRelay.Proofs.Requests

/-!
# Options on the command lines of programs

A program reads its arguments from left to right, and one that starts with a dash is an option to
it, unless it is the value of the option before or comes behind `--` (`Scan`). The texts of a caller
are kept away from there: they are glued to an option, are the value of one, or come behind `--`.
The path that the indexer for Python ends with is not, so that request has an option more when the
path starts with a dash; no other request depends on the arguments in this way
(`command_options_eq_iff`).
-/

set_option autoImplicit false

namespace ToolRelay

/-! ## Scanning a command line -/

/-- How far a program has read its arguments. -/
inductive Scan
  | free
  /-- The next argument is the value of an option. -/
  | value
  /-- Behind `--`. -/
  | operands

namespace Scan

/-- The options that take the next argument as their value. -/
def valued : List String := ["-n", "--cwd", "--output", "--project-name"]

/-- Whether an argument starts with a dash. -/
def dashed (argument : String) : Bool :=
  argument.toList.head? == some '-'

/-- Reads an argument. -/
def step : Scan → String → Scan
  | .free, argument =>
    if argument = "--" then .operands else if argument ∈ valued then .value else .free
  | .value, _ => .free
  | .operands, _ => .operands

/-- Whether an argument that is read now is taken for an option. -/
def takes : Scan → String → Bool
  | .free, argument => dashed argument
  | _, _ => false

/-- The arguments that are taken for options. -/
def options : Scan → List String → List String
  | _, [] => []
  | s, argument :: rest =>
    if s.takes argument then argument :: (s.step argument).options rest
    else (s.step argument).options rest

variable {argument : String} {rest : List String}

/-- Any other argument leaves the next one free. -/
theorem step_other (h : argument ∉ "--" :: valued) : free.step argument = .free := by
  rw [List.mem_cons, not_or] at h
  rw [step, if_neg h.1, if_neg h.2]

/-- Behind an option with a value the next argument is the value. -/
theorem step_valued (h : argument ∈ valued) : free.step argument = .value := by
  have hend : argument ≠ "--" := by
    rintro rfl
    exact absurd h (by decide)
  rw [step, if_neg hend, if_pos h]

/-- A free argument without a dash is no option. -/
theorem options_word (h : dashed argument = false) :
    free.options (argument :: rest) = free.options rest := by
  have hother : argument ∉ "--" :: valued := by
    intro hmem
    have hdashed : ∀ o ∈ "--" :: valued, dashed o = true := by decide
    rw [hdashed argument hmem] at h
    cases h
  rw [options, takes, h, step_other hother]
  rfl

/-- An option takes its value along, whatever that is. -/
theorem options_valued (value : String) (h : argument ∈ valued) :
    free.options (argument :: value :: rest) = argument :: free.options rest := by
  have hdashed : dashed argument = true := by
    have hall : ∀ o ∈ valued, dashed o = true := by decide
    exact hall argument h
  rw [options, takes, hdashed, step_valued h]
  rfl

/-- An option that takes no value stands for itself. -/
theorem options_flag (hdashed : dashed argument = true) (hother : argument ∉ "--" :: valued) :
    free.options (argument :: rest) = argument :: free.options rest := by
  rw [options, takes, hdashed, step_other hother]
  rfl

/-- What is glued together is no option with a value if the front is not the beginning of one. -/
theorem glued_not_mem {glue : String} (value : String)
    (happart : ∀ o ∈ "--" :: valued, ¬glue.toList <+: o.toList) :
    glue ++ value ∉ "--" :: valued := by
  intro hmem
  apply happart _ hmem
  rw [String.toList_append]
  exact List.prefix_append glue.toList value.toList

/-- An option keeps what is glued to it, if it is not the beginning of one that takes a value. -/
theorem options_glued {glue : String} (value : String) (hdashed : dashed glue = true)
    (happart : ∀ o ∈ "--" :: valued, ¬glue.toList <+: o.toList) :
    free.options ((glue ++ value) :: rest) = (glue ++ value) :: free.options rest := by
  have hhead : dashed (glue ++ value) = true := by
    rw [dashed, beq_iff_eq] at hdashed ⊢
    rw [String.toList_append, List.head?_append, hdashed]
    rfl
  exact options_flag hhead (glued_not_mem value happart)

/-- Behind `--` nothing is taken for an option. -/
theorem options_operands (rest : List String) : operands.options rest = [] := by
  induction rest with
  | nil => rfl
  | cons argument rest ih => exact ih

/-- Behind two dashes there are no options. -/
theorem options_end (rest : List String) : free.options ("--" :: rest) = ["--"] := by
  have hstep : free.options ("--" :: rest) = "--" :: operands.options rest := rfl
  rw [hstep, options_operands]

/-- An argument at the end is an option if it starts with a dash. -/
theorem options_singleton (argument : String) :
    free.options [argument] = [argument].filter dashed := by
  rw [options, takes, List.filter_singleton]
  cases dashed argument <;> rfl

end Scan

/-! ## The command lines of the operations -/

open Scan

namespace GitHistory

/-- The filter of a search of commits is one option, whatever is searched for. -/
theorem options_filter (mode : SearchMode) (query : String) (rest : List String) :
    free.options (mode.filter query :: rest) = mode.filter query :: free.options rest := by
  cases mode with
  | message => exact options_glued query (by decide) (by decide)
  | diff => exact options_glued query (by decide) (by decide)

/-- The options of a search for commits. -/
theorem options_searchCommits (mode : SearchMode) (query number : String) :
    free.options ["log", mode.filter query, "-n", number, prettyFormat, "--date=iso"] =
      [mode.filter query, "-n", prettyFormat, "--date=iso"] := by
  rw [options_word (by decide), options_filter, options_valued number (by decide)]
  rfl

/-- The options of the history of a file. -/
theorem options_getFileHistory (number path : String) :
    free.options ["log", "-n", number, prettyFormat, "--date=iso", "--", path] =
      ["-n", prettyFormat, "--date=iso", "--"] := by
  rw [options_word (by decide), options_valued number (by decide),
    options_flag (by decide) (by decide),
    options_flag (by decide) (by decide), options_end]

end GitHistory

namespace Scip

/-- The options of indexing a project in TypeScript. -/
theorem options_indexTypescript (path : String) :
    free.options ["index", "--cwd", path, "--output", indexPath path] = ["--cwd", "--output"] := by
  rw [options_word (by decide), options_valued path (by decide),
    options_valued (indexPath path) (by decide)]
  rfl

/-- The path at the end is the only text of the caller that can be taken for an option. -/
theorem options_indexPython (path name : String) :
    free.options ["index", "--project-name", name, "--output", indexPath path, path] =
      ["--project-name", "--output"] ++ [path].filter dashed := by
  rw [options_word (by decide), options_valued name (by decide),
    options_valued (indexPath path) (by decide), options_singleton]
  rfl

end Scip

/-- The arguments of a request that its program takes for options. -/
def CommandRequest.options (r : CommandRequest) : List String :=
  free.options r.arguments

/-- How many options an operation gives its program on its own account. -/
def ownOptions (name : String) : Nat :=
  if name ∈ ["search_commits", "get_file_history"] then 4 else 2

/-- The texts of the caller that an operation puts where an option could stand. -/
def exposed (name : String) (args : Dict Json) : List String :=
  if name = "index_python" then (args.text? "projectPath").toList else []

/-- A plan has the options of its operation and those among the texts that are exposed. -/
theorem Operation.exists_options_of_plan {p : Profile} {op : Operation} (hop : op ∈ p.operations)
    (hcommand : p ≠ .searxng) {args : Dict Json} {plan : Plan}
    (h : op.planObject args = .ok plan) :
    ∃ r, plan.request = .command r ∧
      r.options.length = ownOptions op.name + ((exposed op.name args).filter dashed).length := by
  cases p, op, hop using Profile.operation_cases
  case searchCommits =>
    obtain ⟨⟨repo, query, mode, limit, ⟨⟩⟩, -, hplan⟩ := planObject_eq_ok_iff.1 h
    cases hplan
    refine ⟨_, rfl, ?_⟩
    rw [CommandRequest.options, GitHistory.options_searchCommits]
    rfl
  case getFileHistory =>
    obtain ⟨⟨repo, path, limit, ⟨⟩⟩, -, hplan⟩ := planObject_eq_ok_iff.1 h
    cases hplan
    refine ⟨_, rfl, ?_⟩
    rw [CommandRequest.options, GitHistory.options_getFileHistory]
    rfl
  case indexTypescript =>
    obtain ⟨⟨path, ⟨⟩⟩, -, hplan⟩ := planObject_eq_ok_iff.1 h
    cases hplan
    refine ⟨_, rfl, ?_⟩
    rw [CommandRequest.options, Scip.options_indexTypescript]
    rfl
  case indexPython =>
    obtain ⟨path, name, hpath, -, hrequest⟩ := Scip.indexPython_request h
    refine ⟨_, hrequest, ?_⟩
    have hname : Scip.indexPython.name = "index_python" := rfl
    have hexposed : exposed Scip.indexPython.name args = [path] := by
      rw [exposed, if_pos hname, hpath]
      rfl
    rw [CommandRequest.options, Scip.options_indexPython, hexposed, List.length_append]
    rfl
  all_goals exact absurd rfl hcommand

/-- Whether the path of a project starts with a dash. -/
def dashedPath (args : Dict Json) : Bool :=
  (args.text? "projectPath").any dashed

/-- Whether the path of a project starts with a dash is all that can make a difference. -/
theorem length_exposed_eq_iff (name : String) (a b : Dict Json) :
    ((exposed name a).filter dashed).length = ((exposed name b).filter dashed).length ↔
      (name = "index_python" → dashedPath a = dashedPath b) := by
  -- the other operations expose nothing
  by_cases hname : name = "index_python"
  · have hlength : ∀ args : Dict Json,
        ((exposed name args).filter dashed).length = (dashedPath args).toNat := by
      intro args
      rw [exposed, if_pos hname, dashedPath]
      cases args.text? "projectPath" with
      | none => rfl
      | some path =>
        rw [Option.toList_some, List.filter_singleton, Option.any_some]
        cases dashed path <;> rfl
    have htoNat : ∀ x y : Bool, x.toNat = y.toNat ↔ x = y := by decide
    rw [hlength a, hlength b, htoNat]
    exact ⟨fun h _ => h, fun h => h hname⟩
  · have hnone : ∀ args : Dict Json, exposed name args = [] := fun args => if_neg hname
    rw [hnone a, hnone b]
    exact iff_of_true rfl fun h => absurd h hname

/-- **A caller adds no option to a command line, except by a path that nothing protects.** Two requests
that one operation plans to run a program have the same number of options; for an index of Python
they do exactly when both paths start with a dash or neither does. -/
theorem command_options_eq_iff {p : Profile} (hcommand : p ≠ .searxng) {name : String} {spec : Spec}
    (hlookup : p.registry.lookup name = some spec) {a b : Dict Json} {plan plan' : Plan}
    (ha : spec.plan a = .ok plan) (hb : spec.plan b = .ok plan') :
    ∃ r r', plan.request = .command r ∧ plan'.request = .command r' ∧
      (r.options.length = r'.options.length ↔
        (name = "index_python" → dashedPath a = dashedPath b)) := by
  obtain ⟨op, hop, rfl, rfl⟩ := p.exists_operation_of_lookup hlookup
  obtain ⟨r, hr, hlength⟩ := Operation.exists_options_of_plan hop hcommand ha
  obtain ⟨r', hr', hlength'⟩ := Operation.exists_options_of_plan hop hcommand hb
  refine ⟨r, r', hr, hr', ?_⟩
  rw [hlength, hlength', Nat.add_left_cancel_iff]
  exact length_exposed_eq_iff op.name a b

/-- The name of a project makes no option, not even `--output`. -/
theorem command_options_eq_name :
    ∃ plan plan' r r',
      Scip.indexPython.spec.plan (.ofList [("projectPath", .str "/v")]) = .ok plan ∧
      Scip.indexPython.spec.plan (.ofList [("projectPath", .str "/w"),
        ("projectName", .str "--output")]) = .ok plan' ∧
      plan.request = .command r ∧ plan'.request = .command r' ∧
      r.options.length = r'.options.length := by
  have hlookup : Profile.scip.registry.lookup "index_python" = some Scip.indexPython.spec := rfl
  obtain ⟨plan, hplan⟩ : ∃ plan,
      Scip.indexPython.spec.plan (.ofList [("projectPath", .str "/v")]) = .ok plan := ⟨_, rfl⟩
  obtain ⟨plan', hplan'⟩ : ∃ plan, Scip.indexPython.spec.plan (.ofList
      [("projectPath", .str "/w"), ("projectName", .str "--output")]) = .ok plan := ⟨_, rfl⟩
  obtain ⟨r, r', hr, hr', hiff⟩ := command_options_eq_iff (by decide) hlookup hplan hplan'
  exact ⟨plan, plan', r, r', hplan, hplan', hr, hr', hiff.2 fun _ => by decide⟩

/-- A path that starts with a dash is an option more. -/
theorem command_options_ne_path :
    ∃ plan plan' r r',
      Scip.indexPython.spec.plan (.ofList [("projectPath", .str "/w")]) = .ok plan ∧
      Scip.indexPython.spec.plan (.ofList [("projectPath", .str "-x")]) = .ok plan' ∧
      plan.request = .command r ∧ plan'.request = .command r' ∧
      r.options = ["--project-name", "--output"] ∧
      r'.options = ["--project-name", "--output", "-x"] :=
  ⟨_, _, _, _, rfl, rfl, rfl, rfl, by decide, by decide⟩

end ToolRelay
