import ToolRelay.Operation

/-!
# Code indexes

Two operations that run an indexer over a project. The index is always written to `index.scip` in
the project's directory.
-/

set_option autoImplicit false

namespace ToolRelay.Scip

/-- The path of a file in a directory. -/
def inside (dir file : String) : String :=
  if dir = "" ∨ dir.toList.getLast? = some '/' then dir ++ file else dir ++ "/" ++ file

/-- Where the index of a project is written. -/
def indexPath (projectPath : String) : String :=
  inside projectPath "index.scip"

/-- The plan to run an indexer with some arguments. -/
def indexing (program : String) (arguments : List String) (projectPath : String) : Plan where
  request := .command { program, arguments, workingDir := none }
  limit := none
  template := .scipIndex
  query := projectPath

/-- Indexes a project in TypeScript or JavaScript. -/
def indexTypescript : Operation where
  name := "index_typescript"
  description := "Generate SCIP index for a TypeScript/JavaScript project"
  errorLabel := "Error indexing TypeScript"
  signature :=
    .required "projectPath" .text
      "Absolute path to the project root (containing package.json)" .nil
  plan := fun (projectPath, ()) =>
    .ok (indexing "scip-typescript"
      ["index", "--cwd", projectPath, "--output", indexPath projectPath] projectPath)

/-- Indexes a project in Python. -/
def indexPython : Operation where
  name := "index_python"
  description := "Generate SCIP index for a Python project"
  errorLabel := "Error indexing Python"
  signature :=
    .required "projectPath" .text "Absolute path to the project root" <|
    .withDefault "projectName" .text "my-project" "Project name recorded in the index" .nil
  plan := fun (projectPath, projectName, ()) =>
    .ok (indexing "scip-python"
      ["index", "--project-name", projectName, "--output", indexPath projectPath, projectPath]
      projectPath)

/-- The operations in the order of their registration. -/
def operations : List Operation := [indexTypescript, indexPython]

end ToolRelay.Scip
