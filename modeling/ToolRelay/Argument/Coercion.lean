import ToolRelay.Argument.Described
import ToolRelay.Text.Blank
import ToolRelay.Text.Line

/-!
# Arguments from texts

On the command line every argument is a text, given as `KEY=VALUE`. The first equals sign separates
the two, and white space around either does not count; the key may not be blank. The value is turned
into one of the type that its parameter is described with; one that does not read as such a value
stays a text, so that it is refused where the types are checked and not here.
-/

set_option autoImplicit false

namespace ToolRelay

/-- Why a text is no argument. -/
inductive PairError
  | noEqualsSign (text : String)
  | emptyKey (text : String)
  deriving DecidableEq, Repr

/-- The text of the error. -/
def PairError.message : PairError → String
  | .noEqualsSign text => "invalid --param (expected KEY=VALUE): " ++ text
  | .emptyKey text => "invalid --param (empty key): " ++ text

namespace Argument

/-- The key and the value of an argument. -/
def pair (text : String) : Except PairError (String × String) :=
  match Text.cut '=' text.toList with
  | (_, none) => .error (.noEqualsSign text)
  | (key, some value) =>
    if Text.trim key = [] then .error (.emptyKey text)
    else .ok (String.ofList (Text.trim key), String.ofList (Text.trim value))

/-- The values of arguments that are given one after the other; the last value of a key counts. -/
def pairs (given : List String) : Except PairError (Dict String) :=
  (given.mapM pair).map Dict.ofList

end Argument

namespace Coercion

/-- The texts that stand for yes and no. -/
def boolean? (word : String) : Option Bool :=
  if word ∈ ["true", "1", "yes", "y"] then some true
  else if word ∈ ["false", "0", "no", "n"] then some false
  else none

/-- The text with the letters of ASCII in small. -/
def lowered (l : List Char) : String :=
  String.ofList (l.map Char.toLower)

/-- The value of a text for a type given in a word. -/
def coerce (raw type : String) : Json :=
  let trimmed := Text.trim raw.toList
  if type = "integer" then ((Decimal.int64? trimmed).map .int).getD (.str raw)
  else if type = "number" then ((Binary64.read? trimmed).map .float).getD (.str raw)
  else if type = "boolean" then ((boolean? (lowered trimmed)).map .bool).getD (.str raw)
  else if type = "array" then
    .arr ((Text.pieces ',' raw.toList).map fun item => .str (String.ofList (Text.trim item)))
  else .str raw

/-- The word for the type of a parameter; a text if there is no such parameter. -/
def typeOf (s : Spec) (name : String) : String :=
  ((s.parameters.find? fun p => p.name == name).map (·.type)).getD "string"

/-- The arguments of an operation from texts. -/
def arguments (s : Spec) (provided : Dict String) : Dict Json :=
  provided.map fun name raw => coerce raw (typeOf s name)

end Coercion
end ToolRelay
