import ToolRelay.Profile.GitHistory
import ToolRelay.Profile.Scip
import ToolRelay.Profile.Searxng
import ToolRelay.Registry

/-!
# Profiles

A profile is a set of operations that is served together, under a name of its own and with a word
of instruction for clients.
-/

set_option autoImplicit false

namespace ToolRelay

/-- The profiles. -/
inductive Profile
  | gitHistory
  | scip
  | searxng
  deriving DecidableEq, Repr

namespace Profile

/-- All profiles. -/
def all : List Profile := [.gitHistory, .scip, .searxng]

/-- The name of the profile on the command line. -/
def name : Profile → String
  | .gitHistory => "git-history"
  | .scip => "scip"
  | .searxng => "searxng"

/-- The profile of a name; on request, up to the case of ASCII letters. -/
def ofName? (name : String) (ignoreCase : Bool) : Option Profile :=
  all.find? fun p =>
    p.name == name || (ignoreCase && Registry.lower p.name == Registry.lower name)

/-- The name that the server gives of itself. -/
def serverName : Profile → String
  | .gitHistory => "mcp-git-history"
  | .scip => "mcp-scip"
  | .searxng => "searxng"

/-- What clients are told about the operations. -/
def instructions : Profile → String
  | .gitHistory => "Search commit messages or diffs with 'search_commits'; list recent commits touching a file with 'get_file_history'. Paths must point at a local git repository."
  | .scip => "Generate index.scip for a project with 'index_typescript' (needs scip-typescript on PATH) or 'index_python' (needs scip-python on PATH)."
  | .searxng => "Metasearch through SearXNG. Use 'search' for general queries and the search_* tools for images, news, code, Stack Overflow, docs, packages and GitHub."

/-- The operations of the profile. -/
def operations : Profile → List Operation
  | .gitHistory => GitHistory.operations
  | .scip => Scip.operations
  | .searxng => Searxng.operations

/-- The operations of a profile have different names. -/
theorem nodup_operationNames (p : Profile) : (p.operations.map (·.name)).Nodup := by
  cases p <;> decide

/-- The registry of the profile's operations. -/
def registry (p : Profile) : Registry where
  specs := p.operations.map Operation.spec
  distinct := by
    rw [List.map_map]
    exact p.nodup_operationNames

end Profile
end ToolRelay
