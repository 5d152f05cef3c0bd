import ToolRelay.Json.Reader
import ToolRelay.Json.Text
import ToolRelay.Yaml

/-!
# Arguments from files

A file holds an object whose members are arguments, in YAML if its name says so and in JSON
otherwise. Arguments are texts here: items of an array are joined with commas, and what is no text
is written as JSON. An argument that is known already keeps its value.
-/

set_option autoImplicit false

namespace ToolRelay

/-- Why a file gives no arguments. -/
inductive FileError
  | unreadable (path : String)
  | malformedJson
  | malformedYaml
  /-- The value of a YAML file is none of JSON. -/
  | unconvertible
  | notObject
  deriving DecidableEq, Repr

/-- The text of the error. -/
def FileError.message : FileError → String
  | .unreadable path => "failed to read param file: " ++ path
  | .malformedJson => "failed to parse JSON param file"
  | .malformedYaml => "failed to parse YAML param file"
  | .unconvertible => "failed to convert YAML to JSON"
  | .notObject => "param file root must be an object"

namespace Argument

/-- The endings of the names of YAML files, up to the case of letters. -/
def yamlEndings : List String :=
  [".yaml", ".yml"]

/-- Whether a file is read as YAML. -/
def isYamlPath (path : String) : Bool :=
  let name := path.toList.map Char.toLower
  yamlEndings.any fun ending => ending.toList.isSuffixOf name

/-- The value that a file holds. -/
def fileValue (path text : String) : Except FileError Json :=
  if isYamlPath path then
    match Yaml.ofText? text with
    | none => .error .malformedYaml
    | some v => match v.toJson? with
      | some v => .ok v
      | none => .error .unconvertible
  else
    match Json.ofText? text with
    | some v => .ok v
    | none => .error .malformedJson

/-- The text of an argument with a value of a file. -/
def fileText : Json → String
  | .arr items => ",".intercalate (items.map Json.plain)
  | v => v.plain

/-- The arguments in a file of which the octets are given, if it can be read. -/
def fileArguments (path : String) (octets : Option (List UInt8)) :
    Except FileError (Dict String) :=
  match octets.bind Text.Utf8.decode? with
  | none => .error (.unreadable path)
  | some text =>
    match fileValue path (String.ofList text) with
    | .error e => .error e
    | .ok (.obj members) => .ok ((Dict.ofList members).map fun _ v => fileText v)
    | .ok _ => .error .notObject

/-- The arguments of both; those known already come first. -/
def withFile (known file : Dict String) : Dict String :=
  file.entries.foldl (fun d (k, v) => d.insertNew k v) known

/-- The known arguments with those of a file. -/
def loadFile (known : Dict String) (path : String) (octets : Option (List UInt8)) :
    Except FileError (Dict String) :=
  (fileArguments path octets).map (withFile known)

end Argument
end ToolRelay
