import ToolRelay.Url.Basic

/-!
# Reading URLs

A text is read as a URL that stands on its own: it must begin with a scheme. Controls and spaces
around it are left out, tabs and line ends everywhere. What cannot stand in a part is encoded, and
the host must be one.
-/

set_option autoImplicit false

namespace ToolRelay.Url

/-- Whether a character around a URL is left out. -/
def isOuter (c : Char) : Bool :=
  c.toNat ≤ 0x20

/-- The text without what is left out around it. -/
def inner (l : List Char) : List Char :=
  ((l.dropWhile isOuter).reverse.dropWhile isOuter).reverse

/-- Whether a character may stand in a scheme. -/
def isSchemeChar (c : Char) : Bool :=
  c.isAlphanum || c ∈ ['+', '-', '.']

/-- The scheme that a text begins with, in small letters, and the text behind its colon. -/
def scheme? (l : List Char) : Option (List Char × List Char) :=
  match l.head? with
  | none => none
  | some first =>
    if first.isAlpha then
      match l.dropWhile isSchemeChar with
      | ':' :: r => some ((l.takeWhile isSchemeChar).map Char.toLower, r)
      | _ => none
    else none

/-- The host that a text begins with, up to a colon outside brackets, and the text behind it. -/
def cutHost (inside : Bool) : List Char → List Char × List Char
  | [] => ([], [])
  | c :: r =>
    if c = ':' ∧ !inside then ([], c :: r)
    else
      let (host, rest) := cutHost (if c = '[' then true else if c = ']' then false else inside) r
      (c :: host, rest)

/-- The largest port. -/
def maxPort : Nat := 65535

/-- The port that digits denote, unless there are none or it is the one that the scheme implies. -/
def portOf (scheme : List Char) (digits : List Char) : Except UrlError (Option Nat) :=
  if digits.isEmpty then .ok none
  else
    let port := Decimal.valueFrom 0 digits
    if maxPort < port then .error .invalidPort
    else .ok (if impliedPort? scheme = some port then none else some port)

/-- The port behind a host, and the text behind it: a backslash ends a port, even where it does not
separate segments. -/
def cutPort (scheme : List Char) : List Char → Except UrlError (Option Nat × List Char)
  | ':' :: r =>
    let digits := r.takeWhile Decimal.isDigit
    match r.drop digits.length with
    | [] => (portOf scheme digits).map fun p => (p, [])
    | '\\' :: rest => (portOf scheme digits).map fun p => (p, '\\' :: rest)
    | _ => .error .invalidPort
  | l => .ok (none, l)

/-- Whether a host is an empty name. -/
def Host.isEmpty : Host → Bool
  | .domain name => name.isEmpty
  | _ => false

/-- The host of a text for a kind of scheme. -/
def hostOf (names : ToAscii) (k : SchemeKind) (l : List Char) : Except UrlError Host :=
  if k.special then if l.isEmpty then .error .emptyHost else Host.ofText names l
  else Host.verbatim l

/-- The URL of the text behind the two slashes of an authority, given whether anything follows that
text. -/
def ofAuthority (names : ToAscii) (scheme text : List Char) (followed : Bool) :
    Except UrlError Url := do
  let k := kindOf scheme
  let region := text.takeWhile fun c => !k.isSlash c
  let tail := text.drop region.length
  let (userinfo, place) := Text.cutLast '@' region
  if userinfo = some [] ∧ place.isEmpty ∧ (!tail.isEmpty || followed) then
    throw .emptyHost
  let (username, password) := Text.cut ':' (userinfo.getD [])
  let (hostText, rest) := cutHost false place
  let host ← hostOf names k hostText
  if host.isEmpty ∧ !rest.isEmpty then
    throw .emptyHost
  let (port, rest) ← cutPort scheme rest
  let username := encode userinfoSet username
  let password := encode userinfoSet (password.getD [])
  if host.isEmpty ∧ !(username.isEmpty && password.isEmpty) then
    throw .emptyHost
  let path := rest ++ tail
  return { scheme, username, password, host := some host, port, guarded := false
           location := .path (if path.isEmpty && !k.special then [] else (Path.read k path).segments)
           query := none, fragment := none }

/-- The URL of a file with a host and a path. The host of one's own machine is left out, and so is
any host before the letter of a drive. -/
def fileUrl (names : ToAscii) (host path : List Char) : Except UrlError Url := do
  let host ← if host.isEmpty then pure (.domain []) else Host.ofText names host
  let r := Path.read .file path
  let own := r.onDrive || host == .domain ['l', 'o', 'c', 'a', 'l', 'h', 'o', 's', 't']
  return { scheme := ['f', 'i', 'l', 'e'], username := [], password := []
           host := some (if own then .domain [] else host), port := none, guarded := false
           location := .path r.segments, query := none, fragment := none }

/-- The text behind the two slashes that it begins with, if it does. -/
def behindSlashes? (k : SchemeKind) (l : List Char) : Option (List Char) :=
  match l.dropWhile Path.isPassedOver with
  | c :: r =>
    match r.dropWhile Path.isPassedOver with
    | d :: r => if k.isSlash c && k.isSlash d then some r else none
    | [] => none
  | [] => none

/-- The URL of the text behind the scheme of a file. Behind two slashes stands a host, unless what
stands there is the letter of a drive. -/
def ofFile (names : ToAscii) (text : List Char) : Except UrlError Url :=
  match behindSlashes? .file text with
  | some r =>
    let host := r.takeWhile fun c => !SchemeKind.file.isSlash c
    if (Path.drive? (Path.seen host)).isSome then fileUrl names [] r
    else fileUrl names (Path.seen host) (r.drop host.length)
  | none => fileUrl names [] text

/-- The URL of the text behind a scheme that is none of the web's, without an authority. A path that
begins with two slashes is guarded. -/
def ofBare (scheme text : List Char) : Url :=
  let location := match text with
    | '/' :: r => Location.path (Path.read .other ('/' :: r)).segments
    | l => .rootless (encode controlSet l)
  { scheme, username := [], password := [], host := none, port := none
    guarded := match location with
      | .path ([] :: _ :: _) => true
      | _ => false
    location, query := none, fragment := none }

/-- The URL of the text behind a scheme, given whether anything follows that text. Any number of
slashes may stand before a host of the web. -/
def ofHierarchy (names : ToAscii) (scheme text : List Char) (followed : Bool) :
    Except UrlError Url :=
  let shown := Path.seen text
  match kindOf scheme with
  | .web => ofAuthority names scheme (shown.dropWhile SchemeKind.web.isSlash) followed
  | .file => ofFile names text
  | .other => match shown with
    | '/' :: '/' :: r => ofAuthority names scheme r followed
    | l => .ok (ofBare scheme l)

/-- Reads a URL. -/
def ofText (names : ToAscii) (s : String) : Except UrlError Url :=
  let l := inner s.toList
  match scheme? (Path.seen l) with
  | none => .error .relativeWithoutBase
  | some (scheme, _) =>
    let (rest, fragment) := Text.cut '#' ((l.dropWhile (· ≠ ':')).drop 1)
    let (text, query) := Text.cut '?' rest
    (ofHierarchy names scheme text (query.isSome || fragment.isSome)).map fun u =>
      { u with
        query := query.map fun q => encode (querySet u.kind.special) (Path.seen q)
        fragment := fragment.map fun f => encode fragmentSet (Path.seen f) }

end ToolRelay.Url
