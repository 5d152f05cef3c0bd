import ToolRelay.Url.Form
import ToolRelay.Url.Host
import ToolRelay.Url.Path

/-!
# URLs

The parts of a URL, in their encoded form, and how they are written down.
-/

set_option autoImplicit false

namespace ToolRelay

/-- The path of a URL. -/
inductive Url.Location
  | path (segments : List (List Char))
  /-- A text without a slash before it, as in an address for mail. -/
  | rootless (text : List Char)
  deriving DecidableEq, Repr

/-- A URL. -/
structure Url where
  scheme : List Char
  username : List Char
  password : List Char
  host : Option Url.Host
  /-- The port, unless it is the one that the scheme implies. -/
  port : Option Nat
  /-- Whether the path is written behind `/.`, lest its beginning be taken for an authority. -/
  guarded : Bool
  location : Url.Location
  query : Option (List Char)
  fragment : Option (List Char)
  deriving DecidableEq, Repr

namespace Url

/-- The kind of a scheme. -/
def kindOf (scheme : List Char) : SchemeKind :=
  if String.ofList scheme ∈ ["http", "https", "ws", "wss", "ftp"] then .web
  else if String.ofList scheme = "file" then .file
  else .other

/-- The port that a scheme implies. -/
def impliedPort? (scheme : List Char) : Option Nat :=
  [("http", 80), ("https", 443), ("ws", 80), ("wss", 443), ("ftp", 21)].lookup
    (String.ofList scheme)

/-- The kind of the URL's scheme. -/
def kind (u : Url) : SchemeKind :=
  kindOf u.scheme

/-- The port that the URL addresses. -/
def effectivePort? (u : Url) : Option Nat :=
  match u.port with
  | some p => some p
  | none => impliedPort? u.scheme

/-- The path as it is written. -/
def pathText (u : Url) : List Char :=
  match u.location with
  | .path segments => Path.text segments
  | .rootless text => text

/-- The user name and the password as they are written before the host. -/
def userinfoText (u : Url) : List Char :=
  if u.username.isEmpty && u.password.isEmpty then []
  else u.username ++ (if u.password.isEmpty then [] else ':' :: u.password) ++ ['@']

/-- What is written between the scheme and the path. -/
def authorityText (u : Url) : List Char :=
  match u.host with
  | some host =>
    ['/', '/'] ++ u.userinfoText ++ host.text ++
      (match u.port with
        | some p => ':' :: Decimal.ofNat p
        | none => [])
  | none => []

/-- What is written before a path that would otherwise be taken for an authority. -/
def pathGuard (u : Url) : List Char :=
  if u.guarded then ['/', '.'] else []

/-- A part behind the character that introduces it, if there is such a part. -/
def partText (mark : Char) : Option (List Char) → List Char
  | some l => mark :: l
  | none => []

/-- The characters of the URL. -/
def chars (u : Url) : List Char :=
  u.scheme ++ ':' :: u.authorityText ++ u.pathGuard ++ u.pathText ++ partText '?' u.query ++
    partText '#' u.fragment

/-- The URL as it is written. -/
def text (u : Url) : String :=
  String.ofList u.chars

/-- The URL with another path, which begins with a slash. Characters that would end a path are
encoded. Where there is no place for a slash it is encoded as well. What is written before the path
stays, even if the new path has no need of it or would need it. -/
def withPath (u : Url) (path : List Char) : Url :=
  { u with
    location := match u.location with
      | .path _ => .path (Path.read u.kind path).segments
      | .rootless _ =>
        let encoded := match path with
          | '/' :: r => '%' :: '2' :: 'F' :: r
          | l => l
        .rootless (encode controlSet (Path.seen encoded)) }

/-- The URL with a form query in place of its own. -/
def withForm (u : Url) (pairs : List (String × String)) : Url :=
  { u with query := some (Form.encode pairs) }

/-- The URL without the name and the password of a user. -/
def withoutUser (u : Url) : Url :=
  { u with username := [], password := [] }

end Url
end ToolRelay
