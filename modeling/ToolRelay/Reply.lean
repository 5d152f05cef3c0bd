import ToolRelay.Decimal.Digits
import ToolRelay.Request
import ToolRelay.Hit
import ToolRelay.Json.Reader
import ToolRelay.Reply.Status

/-!
# Replies of the search service

A request is answered with a status and a body, or not at all. It succeeds when the status says so
and the body is an object whose member `results`, if there is one, is an array; the records are
those of the hits in it. Other members of the object need only have the shape of JSON. The array may
also come alone in another array.
-/

set_option autoImplicit false

namespace ToolRelay

/-- What a search service has to say to a request. -/
inductive Reply
  | unanswered
  | answered (status : Nat) (body : List UInt8)
  deriving DecidableEq, Repr

namespace Reply

/-- What arrives when a service sends a status and a body, and nothing more. -/
def received (status : Nat) (body : List UInt8) : Reply :=
  if !isStatus status || isInterim status then .unanswered
  else .answered status (if isBodiless status then [] else body)

/-- The items of an array that stands inside of one other value. -/
def items? (v : Json.Raw) : Option (List Json) :=
  (v.toJson? (Json.maxDepth - 1)).bind Json.arr?

/-- The array under `results` in the members of an object, as items; no items if it is missing. It
may not come twice. -/
def memberItems? (members : List (List Json.Mark × Json.Raw)) : Option (List Json) :=
  match members.mapM fun (name, v) => (Json.Raw.text? name).map fun name => (name, v) with
  | none => none
  | some members =>
    match members.filter fun (name, _) => name == "results" with
    | [] => some []
    | [(_, v)] => items? v
    | _ => none

/-- The results in a body. -/
def results? (body : List UInt8) : Option (List Json) :=
  match Json.Raw.ofMarks? (Text.Utf8.chunks body) with
  | some (.object members) => memberItems? members
  | some (.array []) => some []
  | some (.array [v]) => items? v
  | _ => none

end Reply

/-- Why a request to an address has no answer. -/
def Url.noAnswer (u : Url) : String :=
  (if u.isSendable then "error sending request" else "builder error") ++ " for url (" ++
    u.withoutUser.text ++ ")"

/-- What a search at a base address comes to with this reply. -/
def SearchRequest.conclude (r : SearchRequest) (base : Url) :
    Reply → Except Failure (List SearchRecord)
  | .unanswered => .error (.of ("request to " ++ base.text ++ " failed: " ++ (r.url base).noAnswer))
  | .answered status body =>
    if Reply.isSuccess status then
      match Reply.results? body with
      | some results => .ok (Hit.records results)
      | none => .error (.of "malformed response body: error decoding response body")
    else .error (.of ("SearXNG returned status " ++ String.ofList (Decimal.ofNat status) ++ ": " ++
      Reply.reason status))

end ToolRelay
