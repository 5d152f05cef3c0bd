import ToolRelay.Url.Basic

/-!
# External requests

Every call comes down to one request to the outside: a program run with a vector of arguments, or
a GET of a search endpoint with query parameters.

A search goes to the path of the request below the path of the base address. The query of the base
address gives way to the parameters of the request; all else of it stays. The user of an address is
not named in the request line, and not every address fits into one.
-/

set_option autoImplicit false

namespace ToolRelay

/-- A program to run. The arguments are passed on one by one; no shell reads them. -/
structure CommandRequest where
  program : String
  arguments : List String
  workingDir : Option String
  deriving DecidableEq, Repr

/-- A GET of a path below the base address of the search service, with query parameters. -/
structure SearchRequest where
  path : String
  query : List (String × String)
  deriving DecidableEq, Repr

namespace SearchRequest

/-- The request for a path without parameters. -/
def ofPath (path : String) : SearchRequest :=
  ⟨path, []⟩

/-- The request with one more parameter; an empty value adds none. -/
def param (r : SearchRequest) (key value : String) : SearchRequest :=
  if value = "" then r else { r with query := r.query ++ [(key, value)] }

/-- The request with one more parameter if there is a value for it. -/
def paramOpt (r : SearchRequest) (key : String) : Option String → SearchRequest
  | some value => r.param key value
  | none => r

/-- The first value given for a key. -/
def get? (r : SearchRequest) (key : String) : Option String :=
  r.query.lookup key

end SearchRequest

/-- A request to the outside. -/
inductive ExternalRequest
  | command (request : CommandRequest)
  | search (request : SearchRequest)
  deriving DecidableEq, Repr

/-! ## The address of a search -/

/-- Whether a character is a slash. -/
def isSlash (c : Char) : Bool :=
  c == '/'

/-- The path of a request below the path of a base address, with one slash in between. -/
def joinPaths (base path : List Char) : List Char :=
  (base.reverse.dropWhile isSlash).reverse ++ '/' :: path.dropWhile isSlash

/-- The address that the request goes to. -/
def SearchRequest.url (r : SearchRequest) (base : Url) : Url :=
  (base.withPath (joinPaths base.pathText r.path.toList)).withForm r.query

/-- The longest address that a request can carry. -/
def Url.maxSent : Nat := 65534

/-- Whether a host can stand in a request: a URL lets a few characters into names that a request
does not. -/
def Url.Host.isSendable (h : Url.Host) : Bool :=
  h.text.all fun c => c ∉ ['"', '`', '{', '}']

/-- Whether a request can carry the address. -/
def Url.isSendable (u : Url) : Bool :=
  u.withoutUser.chars.length ≤ maxSent && u.host.all Url.Host.isSendable

/-- What a request line names of an address: the path and the query. -/
def Url.target (u : Url) : String :=
  String.ofList (u.pathText ++ partText '?' u.query)

/-- The name that the program goes by. -/
def programName : String := "mcp-relay"

/-- The version of the program. -/
def programVersion : String := "0.1.0"

/-- A search as it is sent: its request line, what it accepts, and who sends it. -/
structure SentSearch where
  method : String
  target : String
  accept : String
  userAgent : String
  deriving DecidableEq, Repr

/-- The request as it is sent to the service with a base address, unless its address is not sent. -/
def SearchRequest.sent? (r : SearchRequest) (base : Url) : Option SentSearch :=
  let url := r.url base
  if url.isSendable then
    some { method := "GET", target := url.target, accept := "application/json"
           userAgent := programName ++ "/" ++ programVersion }
  else none

end ToolRelay
