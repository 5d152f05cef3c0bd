import ToolRelay.Decimal.Binary64
import ToolRelay.Dict

/-!
# JSON values

Numbers are integers of 64 bits or binary64 floats, kept apart as the text wrote them. Members of
an object are listed in the order of their names, each name once; `Json.ofDict` builds objects so,
and the reader does.
-/

set_option autoImplicit false

namespace ToolRelay

/-- A JSON value. -/
inductive Json
  | null
  | bool (value : Bool)
  | int (value : Int)
  | float (value : Binary64)
  | str (text : String)
  | arr (items : List Json)
  | obj (members : List (String × Json))
  deriving Repr, BEq, Inhabited

namespace Json

/-- The object with the entries of a dictionary as its members. -/
def ofDict (d : Dict Json) : Json :=
  .obj d.entries

/-- The object with the given members. -/
def record (members : List (String × Json)) : Json :=
  ofDict (Dict.ofList members)

/-- The array of some texts. -/
def texts (l : List String) : Json :=
  .arr (l.map .str)

/-- A natural number. -/
def nat (n : Nat) : Json :=
  .int n

/-- A value that may be missing, written as `null` when it is. -/
def ofOption (v : Option Json) : Json :=
  v.getD .null

/-- The member of an object under a name; other values have no members. -/
def get? : Json → String → Option Json
  | .obj members, name => Dict.find? name members
  | _, _ => none

/-- The text of a string. -/
def str? : Json → Option String
  | .str s => some s
  | _ => none

/-- The items of an array. -/
def arr? : Json → Option (List Json)
  | .arr items => some items
  | _ => none

/-- The members of an object. -/
def obj? : Json → Option (List (String × Json))
  | .obj members => some members
  | _ => none

/-- The members of an object as a dictionary. -/
def dict? : Json → Option (Dict Json)
  | .obj members => some (Dict.ofList members)
  | _ => none

/-- The string under a name of an object. -/
def getStr? (v : Json) (name : String) : Option String :=
  (v.get? name).bind str?

end Json
end ToolRelay
