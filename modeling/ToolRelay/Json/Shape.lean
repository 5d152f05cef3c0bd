import ToolRelay.Json.Reader

/-!
# Shapes of JSON

A shape says what a part of a JSON text has to look like. A record is an object with members of
certain names, or an array that lists the same values in the order of the names; then none may be
left out. A member of a record may not come twice, and members that the record does not name are let
through.

The shapes are tests of parts of a text whose strings and numerals have already been found right.
-/

set_option autoImplicit false

namespace ToolRelay.Json

/-- A test of a part of a text. -/
abbrev Shape := Raw → Bool

namespace Raw

/-- The parts of an object under a name, in the order of the text. -/
def membersNamed (name : String) (members : List (List Mark × Raw)) : List Raw :=
  (members.filter fun (k, _) => text? k == some name).map (·.2)

/-- The only part of an object under a name. -/
def member? (name : String) : Raw → Option Raw
  | .object members =>
    match membersNamed name members with
    | [v] => some v
    | _ => none
  | _ => none

/-- The text of a string. -/
def asText? : Raw → Option String
  | .string body => text? body
  | _ => none

/-- The text under a name of an object, if it stands there alone. -/
def textNamed? (name : String) (v : Raw) : Option String :=
  (v.member? name).bind asText?

/-- The value under a name of an object, if it stands there alone. -/
def valueNamed? (name : String) (v : Raw) : Option Json :=
  (v.member? name).bind (toJson? maxDepth)

end Raw

namespace Shape

/-- Anything at all. -/
def anything : Shape := fun _ => true

/-- A string. -/
def text : Shape
  | .string _ => true
  | _ => false

/-- True or false. -/
def boolean : Shape
  | .bool _ => true
  | _ => false

/-- A number. -/
def number : Shape
  | .number _ => true
  | _ => false

/-- An integer from `low` on and below `high`. -/
def integer (low high : Int) : Shape
  | .number n =>
    match n.value? with
    | some (.int k) => low ≤ k && k < high
    | _ => false
  | _ => false

/-- Any object. -/
def object : Shape
  | .object _ => true
  | _ => false

/-- An array of parts of a shape. -/
def list (s : Shape) : Shape
  | .array items => items.all s
  | _ => false

/-- An object whose members all have a shape. -/
def dictionary (s : Shape) : Shape
  | .object members => members.all fun (_, v) => s v
  | _ => false

/-- A part of a shape, or `null`. -/
def orNull (s : Shape) : Shape
  | .null => true
  | v => s v

/-- One of several words, or an object with the word as its only name and an empty value. -/
def word (words : List String) (isEmpty : Shape) : Shape
  | .string body => (Raw.text? body).any (· ∈ words)
  | .object [(name, v)] => (Raw.text? name).any (· ∈ words) && isEmpty v
  | _ => false

/-- No value. -/
def null : Shape
  | .null => true
  | _ => false

/-- No value, or an object without members. -/
def nothing : Shape
  | .null => true
  | .object members => members.isEmpty
  | _ => false

/-- A member of a record. -/
structure Member where
  name : String
  shape : Shape
  /-- Whether an object must have the member. -/
  required : Bool

/-- A member that an object must have. -/
def required (name : String) (s : Shape) : Member := ⟨name, s, true⟩

/-- A member that an object may leave out or have as `null`. -/
def optional (name : String) (s : Shape) : Member := ⟨name, orNull s, false⟩

/-- Whether the parts under the name of a member are right. -/
def Member.fits (m : Member) : List Raw → Bool
  | [] => !m.required
  | [v] => m.shape v
  | _ => false

/-- The values of a record, each for a member. -/
def row (members : List Member) (values : List Raw) : Bool :=
  members.length == values.length && (members.zip values).all fun (m, v) => m.shape v

/-- A record with the given members. -/
def record (l : List Member) : Shape
  | .object members => l.all fun m => m.fits (Raw.membersNamed m.name members)
  | .array values => row l values
  | _ => false

/-- A record of one of several kinds. The kind is told by a member, either by its name or by its
place among the kinds; in an array it comes before all else. -/
def oneOf (tag : String) (kinds : List (String × List Member)) : Shape
  | .object members =>
    match Raw.membersNamed tag members with
    | [t] => (membersOf? kinds t).any fun l => record l (.object members)
    | _ => false
  | .array (t :: values) => (membersOf? kinds t).any fun l => row l values
  | _ => false
where
  /-- The members of the kind that a part tells. -/
  membersOf? (kinds : List (String × List Member)) : Raw → Option (List Member)
    | .string body => (Raw.text? body).bind fun name => kinds.lookup name
    | .number n =>
      match n.value? with
      | some (.int k) => if 0 ≤ k then (kinds[k.toNat]?).map (·.2) else none
      | _ => none
    | _ => none

end Shape
end ToolRelay.Json
