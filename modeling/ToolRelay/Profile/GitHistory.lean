import ToolRelay.Operation

/-!
# The git history

Two operations over `git log`: a search of commits by message or by changed content, and the
commits that touch a file. Each commit is one line of output: short hash, date, subject.
-/

set_option autoImplicit false

namespace ToolRelay.GitHistory

/-- What stands before the message of a failed request. -/
def errorLabel : String := "Git Error"

/-- How `git log` writes a commit. -/
def prettyFormat : String := "--pretty=format:%h|%ad|%s"

/-- What a search of commits looks at. -/
inductive SearchMode
  | message
  | diff
  deriving DecidableEq, Repr

/-- The labels of the modes. -/
def SearchMode.labels : Labels SearchMode where
  name := "SearchMode"
  values := [.message, .diff]
  label
    | .message => "message"
    | .diff => "diff"
  note
    | .message => "Match commit messages (`git log --grep`)"
    | .diff => "Match added/removed content (`git log -S`, pickaxe)"

/-- A limit, or the default in place of zero. -/
def limitOr (default limit : Nat) : Nat :=
  if limit = 0 then default else limit

/-- The argument by which `git log` filters commits. -/
def SearchMode.filter (mode : SearchMode) (query : String) : String :=
  match mode with
  | .message => "--grep=" ++ query
  | .diff => "-S" ++ query

/-- Searches commit messages or changed content. -/
def searchCommits : Operation where
  name := "search_commits"
  description := "Search git commit messages and content for specific terms"
  errorLabel := errorLabel
  signature :=
    .required "repoPath" .text "Absolute path to the git repository" <|
    .required "query" .text "Term to search for (uses git log --grep or -S)" <|
    .withDefault "mode" (.label SearchMode.labels) .message
      "'message' (search commit msg) or 'diff' (search changed content)" <|
    .withDefault "limit" (.natural .bits32) 10 "Max number of commits to return" .nil
  plan := fun (repoPath, query, mode, limit, ()) =>
    let limit := limitOr 10 limit
    .ok
      { request := .command
          { program := "git"
            arguments := ["log", mode.filter query, "-n", Template.number limit, prettyFormat,
              "--date=iso"]
            workingDir := some repoPath }
        limit := some limit
        template := .commitSearch
        query }

/-- Lists the commits that touch a file. Behind `--` the path is never taken for an option or a
revision. -/
def getFileHistory : Operation where
  name := "get_file_history"
  description := "Get evolution of a specific file"
  errorLabel := errorLabel
  signature :=
    .required "repoPath" .text "Absolute path to the git repository" <|
    .required "filePath" .text "Relative path to file" <|
    .withDefault "limit" (.natural .bits32) 5 "Max number of commits to return" .nil
  plan := fun (repoPath, filePath, limit, ()) =>
    let limit := limitOr 5 limit
    .ok
      { request := .command
          { program := "git"
            arguments := ["log", "-n", Template.number limit, prettyFormat, "--date=iso", "--",
              filePath]
            workingDir := some repoPath }
        limit := some limit
        template := .fileHistory
        query := filePath }

/-- The operations in the order of their registration. -/
def operations : List Operation := [searchCommits, getFileHistory]

end ToolRelay.GitHistory
