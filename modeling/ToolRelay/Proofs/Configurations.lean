import ToolRelay.Proofs.BaseAddress
import ToolRelay.Proofs.Trimming

/-!
# Which variables a configuration depends on

Of the environment four variables are looked at, and of their values only what is left without the
white space around them; a blank one is taken for one that is not set. An address in full makes the
host and the port idle, and seconds on the command line make those of the environment idle
(`Config.Counts`). What a configuration then holds can be relied on: a host to be reached over HTTP,
and a second at least for every call (`Config.ofEnvironment_settled`).
-/

set_option autoImplicit false

namespace ToolRelay

/-! ## Hosts of the web are not empty -/

namespace Url

namespace Host

/-- An address between brackets is written with its brackets. -/
theorem text_ne_nil_of_bracketed {l : List Char} {host : Host} (h : bracketed l = .ok host) :
    host.text ≠ [] := by
  unfold bracketed at h
  split at h
  · split at h
    · cases h
      exact List.cons_ne_nil _ _
    · cases h
  · cases h

/-- No host of a name is empty. -/
theorem text_ne_nil_of_ofName {name : List Char} {host : Host} (h : ofName name = .ok host) :
    host.text ≠ [] := by
  unfold ofName at h
  split at h
  · cases h
  split at h
  · cases h
  next hne =>
  split at h
  · split at h
    · cases h
      simp [text, ipv4Text, Text.joinWith]
    · cases h
  · cases h
    simpa [text] using hne

/-- No host of the web is empty, whatever names are in ASCII. -/
theorem text_ne_nil_of_ofText {names : ToAscii} {l : List Char} {host : Host}
    (h : ofText names l = .ok host) : host.text ≠ [] := by
  unfold ofText at h
  split at h
  · exact text_ne_nil_of_bracketed h
  split at h
  · cases h
  split at h
  · exact text_ne_nil_of_ofName h
  · cases h

end Host

/-- An address of the web has a host, and it is not empty. -/
theorem exists_host_of_ofText {names : ToAscii} {s : String} {u : Url}
    (h : ofText names s = .ok u) (hweb : kindOf u.scheme = .web) :
    ∃ host, u.host = some host ∧ host.text ≠ [] := by
  obtain ⟨scheme, -, v, -, hkind, hauthority, rfl⟩ := exists_ofAuthority_of_ofText h hweb
  obtain ⟨host, -, hhost, hsome, -⟩ := exists_of_ofAuthority hauthority
  refine ⟨host, hsome, ?_⟩
  have hspecial : SchemeKind.web.special = true := rfl
  rw [hkind, hostOf, if_pos hspecial] at hhost
  split at hhost
  · cases hhost
  · exact Host.text_ne_nil_of_ofText hhost

end Url

/-! ## What counts of an environment -/

namespace Environment

/-- The text of a variable, which is empty if the variable is not set. -/
def text (env : Environment) (name : String) : List Char :=
  ((env name).getD "").toList

/-- Whether a variable is the same in two environments but for white space around it. -/
def Agrees (env env' : Environment) (name : String) : Prop :=
  Text.SameInside (env.text name) (env'.text name)

/-- The value of a variable is its trimmed text, unless that is empty. -/
theorem value?_eq (env : Environment) (name : String) :
    env.value? name = if Text.trim (env.text name) = [] then none
      else some (String.ofList (Text.trim (env.text name))) := by
  unfold value? text
  cases env name with
  | none => rfl
  | some s => by_cases h : Text.trim s.toList = [] <;> simp [h, Text.trimmed]

/-- Variables that agree have the same value. -/
theorem value?_congr {env env' : Environment} {name : String} (h : env.Agrees env' name) :
    env'.value? name = env.value? name := by
  rw [value?_eq, value?_eq, Text.sameInside_iff.1 h]

/-- A variable has no value exactly if it is blank. -/
theorem value?_eq_none_iff {env : Environment} {name : String} :
    env.value? name = none ↔ Text.IsSpace (env.text name) := by
  rw [value?_eq, ← Text.trim_eq_nil_iff_isSpace]
  split <;> simp [*]

end Environment

namespace Config

/-- The variables that count for a configuration, where the command line gives these seconds. -/
inductive Counts (env : Environment) (seconds : Option Nat) : String → Prop
  | url : Counts env seconds "SEARXNG_URL"
  | host (blank : Text.IsSpace (env.text "SEARXNG_URL")) : Counts env seconds "SEARXNG_HOST"
  | port (blank : Text.IsSpace (env.text "SEARXNG_URL")) : Counts env seconds "SEARXNG_PORT"
  | timeout (ungiven : seconds = none) : Counts env seconds "MCP_RELAY_TIMEOUT_SECS"

/-- Whether the environment names a number of seconds, of 64 bits. -/
def NamesSeconds (env : Environment) (n : Nat) : Prop :=
  Decimal.Denotes (Text.trim (env.text "MCP_RELAY_TIMEOUT_SECS")) n ∧ n ≤ 2 ^ 64 - 1

variable {names : Url.ToAscii} {env env' : Environment} {seconds : Option Nat} {config : Config}

/-- Environments that agree where it counts have the same text of the base address. -/
theorem rawUrl_congr (h : ∀ name, Counts env seconds name → env.Agrees env' name) :
    rawUrl env' = rawUrl env := by
  unfold rawUrl
  rw [Environment.value?_congr (h _ .url)]
  split
  · rfl
  · next hblank =>
    have hspace := Environment.value?_eq_none_iff.1 hblank
    rw [Environment.value?_congr (h _ (.host hspace)),
      Environment.value?_congr (h _ (.port hspace))]

/-- Environments that agree where it counts have the same seconds. -/
theorem timeout_congr (h : ∀ name, Counts env seconds name → env.Agrees env' name) :
    (seconds.orElse fun _ => timeoutOf env') = seconds.orElse fun _ => timeoutOf env := by
  cases seconds with
  | some n => rfl
  | none =>
    show timeoutOf env' = timeoutOf env
    rw [timeoutOf, timeoutOf, Environment.value?_congr (h _ (.timeout rfl))]

/-- Environments that agree where it counts have the same configuration or the same error. -/
theorem ofEnvironment_congr (h : ∀ name, Counts env seconds name → env.Agrees env' name) :
    ofEnvironment names env' seconds = ofEnvironment names env seconds := by
  unfold ofEnvironment
  rw [rawUrl_congr h, timeout_congr h]

/-- The seconds of an environment are those that it names. -/
theorem timeoutOf_eq_some_iff {n : Nat} : timeoutOf env = some n ↔ NamesSeconds env n := by
  unfold timeoutOf NamesSeconds
  rw [Environment.value?_eq]
  by_cases hblank : Text.trim (env.text "MCP_RELAY_TIMEOUT_SECS") = []
  · -- no number is empty
    rw [if_pos hblank, hblank]
    constructor
    · intro h
      cases h
    · rintro ⟨⟨digits, rfl | hdigits, hne, -⟩, -⟩
      · exact absurd rfl hne
      · cases hdigits
  · rw [if_neg hblank, Option.bind_some, String.toList_ofList]
    exact Decimal.natural?_eq_some_iff

/-- The schemes that are supported. -/
theorem supports_iff {scheme : List Char} :
    supports scheme = true ↔ String.ofList scheme = "http" ∨ String.ofList scheme = "https" := by
  simp [supports]

/-- **What a configuration depends on, and what it holds.** An environment that agrees with another
one on the variables that count gives the same configuration or the same error, whatever else is
different in it. A configuration has an address of HTTP or HTTPS with a host that is not empty, and
at least one second for a call: the seconds that were given, or else those that the environment
names, or else sixty. -/
theorem ofEnvironment_settled (names : Url.ToAscii) (env : Environment) (seconds : Option Nat) :
    (∀ env', (∀ name, Counts env seconds name → env.Agrees env' name) →
      ofEnvironment names env' seconds = ofEnvironment names env seconds) ∧
    ∀ config, ofEnvironment names env seconds = .ok config →
      (String.ofList config.searchUrl.scheme = "http" ∨
        String.ofList config.searchUrl.scheme = "https") ∧
      (∃ host, config.searchUrl.host = some host ∧ host.text ≠ []) ∧
      1 ≤ config.timeout ∧
      (∀ n, seconds = some n → config.timeout = n) ∧
      (seconds = none → ∀ n, NamesSeconds env n → config.timeout = n) ∧
      (seconds = none → (¬∃ n, NamesSeconds env n) → config.timeout = 60) := by
  refine ⟨fun env' => ofEnvironment_congr, fun config hconfig => ?_⟩
  obtain ⟨htext, hsupported, htimeout, hpositive⟩ := ofEnvironment_eq_ok_iff.1 hconfig
  have hweb := Url.kindOf_of_supports hsupported
  refine ⟨supports_iff.1 hsupported, Url.exists_host_of_ofText htext hweb,
    Nat.one_le_iff_ne_zero.2 hpositive, ?_, ?_, ?_⟩
  · rintro n rfl
    exact htimeout
  · rintro rfl n hnamed
    rw [htimeout, timeoutOf_eq_some_iff.2 hnamed]
    rfl
  · rintro rfl hunnamed
    have hnone : timeoutOf env = none := by
      rw [Option.eq_none_iff_forall_ne_some]
      intro n hn
      exact hunnamed ⟨n, timeoutOf_eq_some_iff.1 hn⟩
    rw [htimeout, hnone]
    rfl

/-- The names in ASCII, and the one of a shop with a letter that is not. -/
def shopNames : Url.ToAscii := fun octets =>
  if octets = "bücher.example".toUTF8.toList then some "xn--bcher-kva.example".toList
  else Url.plainNames octets

/-- The configuration for a search service at the shop. -/
def ofShop (timeout : Nat) : Config where
  timeout
  searchUrl := { scheme := "http".toList, username := [], password := []
                 host := some (.domain "xn--bcher-kva.example".toList), port := some 8080
                 guarded := false, location := .path [[]], query := none, fragment := none }

/-- An address with white space around it, beside a port and seconds that are no numbers. -/
def padded : Environment := fun name =>
  [("SEARXNG_URL", " http://bücher.example:8080\n"), ("SEARXNG_PORT", "none"),
    ("MCP_RELAY_TIMEOUT_SECS", "60s")].lookup name

/-- Neither the white space counts nor the port, nor the seconds of the environment where there are
others. -/
theorem ofEnvironment_settled_padded :
    ofEnvironment shopNames padded (some 9) = .ok (ofShop 9) ∧
      ofEnvironment shopNames
        (fun name => [("SEARXNG_URL", "http://bücher.example:8080")].lookup name) (some 9) =
          .ok (ofShop 9) ∧
      ∃ host, (ofShop 9).searchUrl.host = some host ∧ host.text ≠ [] := by
  have hconfig : ofEnvironment shopNames padded (some 9) = .ok (ofShop 9) := by cbv
  obtain ⟨hsame, hholds⟩ := ofEnvironment_settled shopNames padded (some 9)
  refine ⟨hconfig, ?_, (hholds _ hconfig).2.1⟩
  rw [← hconfig]
  apply hsame
  intro name hcounts
  cases hcounts with
  | url =>
    have hpadded : padded.text "SEARXNG_URL" =
        [' '] ++ "http://bücher.example:8080".toList ++ ['\n'] := by cbv
    refine ⟨"http://bücher.example:8080".toList, [' '], ['\n'], [], [], hpadded, by cbv,
      ?_, ?_, ?_, ?_⟩ <;>
      simp [Text.IsSpace, Text.isBlank]
  | host blank => exact absurd (blank 'h' (by decide)) (by decide)
  | port blank => exact absurd (blank 'h' (by decide)) (by decide)
  | timeout ungiven => cases ungiven

end Config

end ToolRelay
