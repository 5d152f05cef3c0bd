import ToolRelay.Argument.Kind
import ToolRelay.Payload

/-!
# Hits of a search

The search service answers with *hits*: objects whose known members are texts or `null`. A hit may
also come as an array of the same values in a fixed order. A hit becomes a record if it has an
address, and a value that is no hit, or has a member of another type, becomes none.
-/

set_option autoImplicit false

namespace ToolRelay

/-- What a hit says about itself; the address may be missing. -/
structure Hit where
  title : Option String
  url : Option String
  content : Option String
  engine : Option String
  publishedDate : Option String
  imageSource : Option String
  source : Option String
  deriving DecidableEq, Repr

namespace Hit

/-- The names of the members, in the order that an array lists them in. -/
def fields : List String :=
  ["title", "url", "content", "engine", "publishedDate", "img_src", "source"]

/-- A member: a text, or `null` for none. -/
def decodeField (v : Json) : Except DecodeError (Option String) :=
  (Kind.optional .text).decode v

/-- The text of a member that has already been found right. -/
def textOf (v : Option Json) : Option String :=
  v.bind Json.str?

/-- The hit with the given members. -/
def ofFields (field? : String → Option Json) : Hit where
  title := textOf (field? "title")
  url := textOf (field? "url")
  content := textOf (field? "content")
  engine := textOf (field? "engine")
  publishedDate := textOf (field? "publishedDate")
  imageSource := textOf (field? "img_src")
  source := textOf (field? "source")

/-- What is wrong with a value of a known member. -/
def fault? (v : Json) : Option DecodeError :=
  match decodeField v with
  | .ok _ => none
  | .error e => some e

/-- Reads a hit. -/
def decode : Json → Except DecodeError Hit
  | .obj members =>
    match members.findSome? fun (name, v) => if name ∈ fields then fault? v else none with
    | some e => .error e
    | none => .ok (ofFields fun name => Dict.find? name members)
  | .arr items =>
    match (items.take fields.length).findSome? fault? with
    | some e => .error e
    | none =>
      if fields.length < items.length then .error (.tooLong items.length)
      else .ok (ofFields fun name => (fields.zip items).lookup name)
  | v => .error (.wrongType v "struct RawRecord")

/-- The record of a hit whose address is not blank. -/
def toRecord? (h : Hit) : Option SearchRecord :=
  match h.url with
  | some url =>
    if Text.blank url then none
    else some ⟨h.title, url, h.content, h.engine, h.publishedDate, h.imageSource, h.source⟩
  | none => none

/-- The record of a value, if it is a hit with an address. -/
def record? (v : Json) : Option SearchRecord :=
  match decode v with
  | .ok h => h.toRecord?
  | .error _ => none

/-- The records of the hits among some values, in their order. -/
def records (values : List Json) : List SearchRecord :=
  values.filterMap record?

end Hit
end ToolRelay
