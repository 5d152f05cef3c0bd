import ToolRelay.Request
import ToolRelay.Text.Blank
import ToolRelay.Url.Reader

/-!
# Configuration

What the environment settles: where the search service is and how long an external call may take.
White space around a value does not count, and a blank value is the same as none.
-/

set_option autoImplicit false

namespace ToolRelay

/-- What is settled before anything is run. -/
structure Config where
  /-- How many seconds an external call may take. -/
  timeout : Nat
  searchUrl : Url
  deriving DecidableEq, Repr

/-- How many milliseconds an external call may take. -/
def Config.limit (c : Config) : Nat :=
  1000 * c.timeout

/-- Why there is no configuration. -/
inductive ConfigError
  | baseUrl (raw : String) (error : UrlError)
  | scheme (raw : String)
  | zeroTimeout
  deriving DecidableEq, Repr

/-- The text of the error. -/
def ConfigError.message : ConfigError → String
  | .baseUrl raw error => "invalid SearXNG base URL '" ++ raw ++ "': " ++ error.message
  | .scheme raw => "invalid SearXNG base URL '" ++ raw ++ "': only http and https are supported"
  | .zeroTimeout => "timeout must be at least one second"

/-- The variables of an environment. -/
abbrev Environment := String → Option String

/-- The value of a variable without white space around it, unless it is blank. -/
def Environment.value? (env : Environment) (name : String) : Option String :=
  ((env name).map Text.trimmed).filter (· ≠ "")

namespace Config

/-- The largest number of seconds. -/
def maxTimeout : Nat := 0xFFFFFFFFFFFFFFFF

/-- How many seconds an external call may take where nothing is said about it. -/
def usualTimeout : Nat := 60

/-- The host of the search service where none is named. -/
def usualHost : String := "http://localhost"

/-- The port of the search service where none is named. -/
def usualPort : String := "8080"

/-- A text without the slashes that it ends with. -/
def withoutSlashes (s : String) : String :=
  String.ofList ((s.toList.reverse.dropWhile isSlash).reverse)

/-- The text of the base address: in full, or put together of a host and a port. -/
def rawUrl (env : Environment) : String :=
  match env.value? "SEARXNG_URL" with
  | some full => full
  | none =>
    let host := (env.value? "SEARXNG_HOST").getD usualHost
    let port := (env.value? "SEARXNG_PORT").getD usualPort
    withoutSlashes host ++ ":" ++ port

/-- The seconds that the environment names. -/
def timeoutOf (env : Environment) : Option Nat :=
  (env.value? "MCP_RELAY_TIMEOUT_SECS").bind fun s => Decimal.natural? maxTimeout s.toList

/-- Whether the search service can be reached under a scheme. -/
def supports (scheme : List Char) : Bool :=
  String.ofList scheme ∈ ["http", "https"]

/-- The configuration for an environment; seconds given on the command line come first. -/
def ofEnvironment (names : Url.ToAscii) (env : Environment) (seconds : Option Nat) :
    Except ConfigError Config :=
  let raw := rawUrl env
  match Url.ofText names raw with
  | .error e => .error (.baseUrl raw e)
  | .ok url =>
    if supports url.scheme then
      match (seconds.orElse fun _ => timeoutOf env).getD usualTimeout with
      | 0 => .error .zeroTimeout
      | timeout => .ok { timeout, searchUrl := url }
    else .error (.scheme raw)

end Config
end ToolRelay
