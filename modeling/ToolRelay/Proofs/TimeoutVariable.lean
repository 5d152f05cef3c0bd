import ToolRelay.CommandLine.Reader
import ToolRelay.Application
import ToolRelay.Proofs.Calls
import ToolRelay.Proofs.Configurations
import ToolRelay.Proofs.Decimals
import ToolRelay.Proofs.Decoding

/-!
# The variable for the seconds

The variable is looked at in two places. A configuration takes a blank value for none, as it does
with every variable (`Surroundings.config_withTimeout`). The command line reads the variable
before, and stops the program at a value that is no number wherever seconds might still be missing:
in front of the command and behind it (`CommandLine.ofWords_heedless_or_heedful`). So a blank value
is passed over only with words that are refused for themselves, and with words that give the seconds
in both places (`Surroundings.start_blank_eq_iff`).
-/

set_option autoImplicit false

namespace ToolRelay

/-! ## A run of the program -/

namespace Surroundings

/-- Runs the program with the words of a command line: how much it logs and what it comes to, or why
it stops. -/
def start (w : Surroundings) (elapsed : Nat) (words : List String) :
    Except CommandLine.Stop (LogLevel × Execution) :=
  (CommandLine.ofWords words (w.env "MCP_RELAY_TIMEOUT_SECS")).map fun c =>
    (c.level, w.execute elapsed c)

/-- The surroundings with a text in the variable for the seconds, or without the variable. -/
def withTimeout (w : Surroundings) (text : Option String) : Surroundings :=
  { w with env := fun name => if name = "MCP_RELAY_TIMEOUT_SECS" then text else w.env name }

end Surroundings

/-! ## What a configuration makes of a blank value -/

variable {w : Surroundings} {blank : String}

/-- The variable for the seconds has the text. -/
theorem Surroundings.env_withTimeout_self (w : Surroundings) (text : Option String) :
    (w.withTimeout text).env "MCP_RELAY_TIMEOUT_SECS" = text := by
  simp only [withTimeout, if_true]

/-- No other variable is changed. -/
theorem Surroundings.env_withTimeout_of_ne (w : Surroundings) (text : Option String) {name : String}
    (h : name ≠ "MCP_RELAY_TIMEOUT_SECS") : (w.withTimeout text).env name = w.env name :=
  if_neg h

/-- A configuration takes a blank value for none. -/
theorem Surroundings.config_withTimeout (hblank : Text.IsSpace blank.toList)
    (seconds : Option Nat) :
    (w.withTimeout (some blank)).config seconds = (w.withTimeout none).config seconds := by
  apply Config.ofEnvironment_congr
  intro name _
  unfold Environment.Agrees Environment.text
  rw [Text.sameInside_iff]
  by_cases hname : name = "MCP_RELAY_TIMEOUT_SECS"
  · rw [hname, w.env_withTimeout_self, w.env_withTimeout_self]
    exact (Text.trim_eq_nil_iff_isSpace.2 hblank).symm
  · rw [w.env_withTimeout_of_ne _ hname, w.env_withTimeout_of_ne _ hname]

/-- A command line comes to the same with a blank value as without one. -/
theorem Surroundings.execute_withTimeout (hblank : Text.IsSpace blank.toList) (elapsed : Nat)
    (c : CommandLine) :
    (w.withTimeout (some blank)).execute elapsed c = (w.withTimeout none).execute elapsed c := by
  have hconfig := config_withTimeout (w := w) hblank
  have hrun : (w.withTimeout (some blank)).run elapsed c = (w.withTimeout none).run elapsed c := by
    unfold run
    cases c.command with
    | serve p =>
      show serveNobody _ _ _ = serveNobody _ _ _
      unfold serveNobody
      rw [hconfig]
    | list p json => rfl
    | get p name json => rfl
    | call p i json =>
      show call _ _ _ _ _ _ = call _ _ _ _ _ _
      unfold call
      rw [hconfig]
      rfl
  unfold execute
  rw [hconfig, hrun]

/-! ## What the command line makes of it -/

namespace CommandLine

/-- A blank text is no number of seconds. -/
theorem Given.seconds_blank (hblank : Text.IsSpace blank.toList) :
    seconds blank = .error .notNumber := by
  have hnone : Decimal.natural? Config.maxTimeout blank.toList = none := by
    rw [Option.eq_none_iff_forall_ne_some]
    intro n hn
    obtain ⟨⟨digits, hform, hne, hdigits, -⟩, -⟩ := Decimal.natural?_eq_some_iff.1 hn
    obtain ⟨d, rest, rfl⟩ := List.exists_cons_of_ne_nil hne
    have hdigit := Decimal.isBlank_of_isDigit (hdigits d List.mem_cons_self)
    have hmem : d ∈ blank.toList := by
      rcases hform with hform | hform <;> rw [hform] <;> simp
    rw [hblank d hmem] at hdigit
    cases hdigit
  rw [seconds, hnone]

/-- A text for seconds is refused for being no number, and for nothing else. -/
theorem Given.seconds_error {text : String} {stop : Stop} (h : seconds text = .error stop) :
    stop = .notNumber := by
  unfold seconds at h
  split at h
  · cases h
  · cases h
    rfl

/-- Without the variable the seconds are those that are given. -/
theorem Given.timeoutIn_none (g : Given) : g.timeoutIn none = .ok g.timeout := by
  unfold timeoutIn
  cases g.timeout <;> rfl

/-- Seconds that are given are taken without a look at the variable. -/
theorem Given.timeoutIn_of_some {g : Given} {n : Nat} (h : g.timeout = some n)
    (fromEnv : Option String) : g.timeoutIn fromEnv = .ok (some n) := by
  unfold timeoutIn
  rw [h]

/-- Without given seconds the variable is read. -/
theorem Given.timeoutIn_of_none {g : Given} (h : g.timeout = none) (text : String) :
    g.timeoutIn (some text) = (seconds text).map some := by
  unfold timeoutIn
  rw [h]

/-! ## Taking notice of the variable -/

/-- Whether a result is the same whatever is in the variable for the seconds. -/
def Heedless {α : Type} (f : Option String → Except Stop α) : Prop :=
  ∀ text, f (some text) = f none

/-- Whether a text that is no number makes a result that is refused for it, which it is not without
the variable. -/
def Heedful {α : Type} (f : Option String → Except Stop α) : Prop :=
  f none ≠ .error .notNumber ∧
    ∀ text, Given.seconds text = .error .notNumber → f (some text) = .error .notNumber

/-- What stops the program in any case pays no heed to the variable. -/
theorem Heedless.error {α : Type} (stop : Stop) :
    Heedless fun _ => (.error stop : Except Stop α) :=
  fun _ => rfl

/-- Where the seconds may come from the variable it is read, unless they were given. -/
theorem Given.heedless_or_heedful {α : Type} (g : Given) {next : Option Nat → Except Stop α}
    (hnext : next none ≠ .error .notNumber) :
    Heedless (fun fromEnv => (g.timeoutIn fromEnv).bind next) ∨
      Heedful fun fromEnv => (g.timeoutIn fromEnv).bind next := by
  cases hgiven : g.timeout with
  | some n =>
    left
    intro text
    simp only [timeoutIn_of_some hgiven]
  | none =>
    right
    constructor
    · simp only [timeoutIn_none, hgiven]
      exact hnext
    · intro text hbad
      simp only [timeoutIn_of_none hgiven, hbad]
      rfl

/-! ## The command line step by step -/

variable {words rest : List String} {scan inner : Scan} {verb : Verb}

/-- The words of a command. -/
theorem ofCommandWords_eq {behind : Option (Verb × List String)}
    (h : (Scan.start (some verb)).words (some verb) rest = .ok (inner, behind))
    (fromEnv : Option String) : ofCommandWords verb rest fromEnv =
      inner.settle.bind fun own => (own.given.timeoutIn fromEnv).bind fun _ =>
        (own.given.command verb).map fun command => (command, own.given) := by
  unfold ofCommandWords
  rw [h]
  rfl

/-- The command line without a command. -/
theorem ofWords_alone (h : (Scan.start none).words none words = .ok (scan, none))
    (fromEnv : Option String) : ofWords words fromEnv =
      scan.settle.bind fun shared => (shared.given.timeoutIn fromEnv).bind fun timeout =>
        .error (lacking shared.given timeout) := by
  unfold ofWords
  rw [h]
  rfl

/-- What a command line says whose words have all been read. -/
def said (found : Command × Given) (shared : Given) (timeout : Option Nat) : CommandLine where
  level := .of (if found.2.verbose = 0 then shared.verbose else found.2.verbose)
    (found.2.quiet || shared.quiet)
  timeout := found.2.timeout.orElse fun _ => timeout
  command := found.1

/-- The command line with a command: the words behind the command come first. -/
theorem ofWords_command (h : (Scan.start none).words none words = .ok (scan, some (verb, rest)))
    (fromEnv : Option String) : ofWords words fromEnv =
      (ofCommandWords verb rest fromEnv).bind fun found =>
        scan.settle.bind fun shared => (shared.given.timeoutIn fromEnv).bind fun timeout =>
          .ok (said found shared.given timeout) := by
  unfold ofWords
  rw [h]
  rfl

/-- Either a command takes no notice of the variable, or it is stopped where the variable is no
number and takes no other notice of it: what is given with the command is the same. -/
theorem ofCommandWords_heedless_or (verb : Verb) (rest : List String) :
    Heedless (ofCommandWords verb rest) ∨
      ∀ text, ofCommandWords verb rest (some text) =
        (Given.seconds text).bind fun _ => ofCommandWords verb rest none := by
  cases hwords : (Scan.start (some verb)).words (some verb) rest with
  | error stop =>
    left
    intro text
    unfold ofCommandWords
    rw [hwords]
    rfl
  | ok read =>
    obtain ⟨inner, behind⟩ := read
    rw [funext (ofCommandWords_eq hwords)]
    cases inner.settle with
    | error stop => exact .inl (.error stop)
    | ok own =>
      cases hgiven : own.given.timeout with
      | some n =>
        left
        intro text
        simp only [Except.bind, Given.timeoutIn_of_some hgiven]
      | none =>
        right
        intro text
        simp only [Except.bind, Given.timeoutIn_none, Given.timeoutIn_of_none hgiven]
        cases Given.seconds text <;> rfl

/-- Where the command takes no notice of the variable, it is left to the words in front of it. -/
theorem ofWords_of_heedless
    (h : (Scan.start none).words none words = .ok (scan, some (verb, rest)))
    (hsame : Heedless (ofCommandWords verb rest)) :
    Heedless (ofWords words) ∨ Heedful (ofWords words) := by
  have hcommand : ofCommandWords verb rest = fun _ => ofCommandWords verb rest none := by
    funext fromEnv
    cases fromEnv with
    | none => rfl
    | some text => exact hsame text
  rw [funext (ofWords_command h), hcommand]
  cases ofCommandWords verb rest none with
  | error stop => exact .inl (.error stop)
  | ok found =>
    cases scan.settle with
    | error stop => exact .inl (.error stop)
    | ok shared => exact shared.given.heedless_or_heedful (by simp)

/-- Where the command is stopped for the variable, so is the command line, unless it is stopped for
its own seconds with any number in the variable. -/
theorem ofWords_of_asked (h : (Scan.start none).words none words = .ok (scan, some (verb, rest)))
    (hread : ∀ text, ofCommandWords verb rest (some text) =
      (Given.seconds text).bind fun _ => ofCommandWords verb rest none) :
    Heedless (ofWords words) ∨ Heedful (ofWords words) := by
  by_cases hown : ofWords words none = .error .notNumber
  · left
    intro text
    rw [hown, ofWords_command h, hread]
    rw [ofWords_command h] at hown
    cases hseconds : Given.seconds text with
    | error stop =>
      rw [Given.seconds_error hseconds]
      rfl
    | ok n =>
      cases hcommand : ofCommandWords verb rest none with
      | error stop =>
        rw [hcommand] at hown
        exact hown
      | ok found =>
        rw [hcommand] at hown
        cases hsettle : scan.settle with
        | error stop =>
          rw [hsettle] at hown
          exact hown
        | ok shared =>
          -- what was read in front of the command is no reason to stop
          rw [hsettle] at hown
          simp only [Except.bind, Given.timeoutIn_none] at hown
          cases hown
  · right
    refine ⟨hown, ?_⟩
    intro text hbad
    rw [ofWords_command h, hread, hbad]
    rfl

/-- A command line takes no notice of the variable, or is stopped for what is no number in it. -/
theorem ofWords_heedless_or_heedful (words : List String) :
    Heedless (ofWords words) ∨ Heedful (ofWords words) := by
  cases hwords : (Scan.start none).words none words with
  | error stop =>
    left
    intro text
    unfold ofWords
    rw [hwords]
    rfl
  | ok read =>
    obtain ⟨scan, _ | ⟨verb, rest⟩⟩ := read
    · rw [funext (ofWords_alone hwords)]
      cases scan.settle with
      | error stop => exact .inl (.error stop)
      | ok shared =>
        apply shared.given.heedless_or_heedful
        unfold lacking
        split <;> simp
    · rcases ofCommandWords_heedless_or verb rest with hsame | hread
      · exact ofWords_of_heedless hwords hsame
      · exact ofWords_of_asked hwords hread

/-! ## Seconds in both places -/

/-- Whether seconds are among what was read. -/
def Scan.GivesSeconds (s : Scan) : Prop :=
  ∃ settled n, s.settle = .ok settled ∧ settled.given.timeout = some n

/-- Whether a command line gives the seconds in front of its command and behind it as well. -/
def GivesSecondsTwice (words : List String) : Prop :=
  ∃ scan verb rest inner behind,
    (Scan.start none).words none words = .ok (scan, some (verb, rest)) ∧ scan.GivesSeconds ∧
      (Scan.start (some verb)).words (some verb) rest = .ok (inner, behind) ∧ inner.GivesSeconds

/-- Words that give the seconds in both places pay no heed to the variable. -/
theorem heedless_of_givesSecondsTwice (h : GivesSecondsTwice words) : Heedless (ofWords words) := by
  obtain ⟨scan, verb, rest, inner, behind, hscan, ⟨shared, n, hshared, hn⟩, hinner,
    own, m, hown, hm⟩ := h
  intro text
  simp only [ofWords_command hscan, ofCommandWords_eq hinner, hown, hshared, Except.bind,
    Given.timeoutIn_of_some hn, Given.timeoutIn_of_some hm]

/-- A command line that is not stopped for a variable that is no number has all its seconds. -/
theorem givesSecondsTwice_of_ok {text : String} (hbad : Given.seconds text = .error .notNumber)
    {c : CommandLine} (h : ofWords words (some text) = .ok c) : GivesSecondsTwice words := by
  have hgiven : ∀ (g : Given) timeout, g.timeoutIn (some text) = .ok timeout →
      ∃ n, g.timeout = some n := by
    intro g timeout htimeout
    cases hnone : g.timeout with
    | some n => exact ⟨n, rfl⟩
    | none =>
      rw [Given.timeoutIn_of_none hnone, hbad] at htimeout
      cases htimeout
  cases hwords : (Scan.start none).words none words with
  | error stop =>
    unfold ofWords at h
    rw [hwords] at h
    cases h
  | ok read =>
    obtain ⟨scan, _ | ⟨verb, rest⟩⟩ := read
    · rw [ofWords_alone hwords] at h
      obtain ⟨shared, -, h⟩ := bind_eq_ok_iff.1 h
      obtain ⟨timeout, -, h⟩ := bind_eq_ok_iff.1 h
      cases h
    · rw [ofWords_command hwords] at h
      obtain ⟨found, hfound, h⟩ := bind_eq_ok_iff.1 h
      obtain ⟨shared, hshared, h⟩ := bind_eq_ok_iff.1 h
      obtain ⟨timeout, htimeout, -⟩ := bind_eq_ok_iff.1 h
      obtain ⟨n, hn⟩ := hgiven _ _ htimeout
      cases hinner : (Scan.start (some verb)).words (some verb) rest with
      | error stop =>
        unfold ofCommandWords at hfound
        rw [hinner] at hfound
        cases hfound
      | ok read =>
        obtain ⟨inner, behind⟩ := read
        rw [ofCommandWords_eq hinner] at hfound
        obtain ⟨own, hown, hfound⟩ := bind_eq_ok_iff.1 hfound
        obtain ⟨own', hown', -⟩ := bind_eq_ok_iff.1 hfound
        obtain ⟨m, hm⟩ := hgiven _ _ hown'
        exact ⟨scan, verb, rest, inner, behind, hwords, ⟨shared, n, hshared, hn⟩, hinner, own, m,
          hown, hm⟩

/-- Whether words are refused for the same reason whatever is in the variable for the seconds. -/
def Refused (words : List String) : Prop :=
  ∃ stop, ∀ fromEnv, ofWords words fromEnv = .error stop

/-- Words pay no heed to the variable exactly if they are refused for themselves or give the seconds
in both places. -/
theorem heedless_iff : Heedless (ofWords words) ↔ Refused words ∨ GivesSecondsTwice words := by
  constructor
  · intro hheedless
    cases hnone : ofWords words none with
    | error stop =>
      left
      refine ⟨stop, ?_⟩
      intro fromEnv
      cases fromEnv with
      | none => exact hnone
      | some text => rw [hheedless text, hnone]
    | ok c =>
      right
      have hempty : Given.seconds "" = .error .notNumber := by
        apply Given.seconds_blank
        simp [Text.IsSpace]
      apply givesSecondsTwice_of_ok hempty
      rw [hheedless, hnone]
  · rintro (⟨stop, hstop⟩ | htwice)
    · intro text
      rw [hstop, hstop]
    · exact heedless_of_givesSecondsTwice htwice

end CommandLine

/-! ## A blank variable -/

open CommandLine

/-- **Where a blank variable is passed over.** With a blank value in the variable for the seconds
the program comes to the same as without the variable exactly where the words are refused whatever
the value is, or give the seconds both in front of the command and behind it. Everywhere else it
stops, because the value is no number. -/
theorem Surroundings.start_blank_eq_iff (w : Surroundings) (elapsed : Nat) (words : List String)
    {blank : String} (hblank : Text.IsSpace blank.toList) :
    ((w.withTimeout (some blank)).start elapsed words = (w.withTimeout none).start elapsed words ↔
      Refused words ∨ GivesSecondsTwice words) ∧
      ((w.withTimeout (some blank)).start elapsed words ≠
          (w.withTimeout none).start elapsed words →
        (w.withTimeout (some blank)).start elapsed words = .error .notNumber) := by
  have hexecute :
      (fun c : CommandLine => (c.level, (w.withTimeout (some blank)).execute elapsed c)) =
        fun c => (c.level, (w.withTimeout none).execute elapsed c) := by
    funext c
    rw [execute_withTimeout hblank]
  rw [← heedless_iff]
  unfold start
  rw [hexecute, w.env_withTimeout_self, w.env_withTimeout_self]
  rcases ofWords_heedless_or_heedful words with hheedless | ⟨hnone, hblanks⟩
  · rw [hheedless blank]
    exact ⟨iff_of_true rfl hheedless, fun hne => absurd rfl hne⟩
  · have hstopped := hblanks blank (Given.seconds_blank hblank)
    rw [hstopped]
    refine ⟨iff_of_false ?_ ?_, fun _ => rfl⟩
    · intro hsame
      exact hnone (map_eq_error_iff.1 hsame.symm)
    · intro hheedless
      rw [← hheedless blank] at hnone
      exact hnone hstopped

/-- A command line with seconds in front of the command and behind it. -/
def inBothPlaces : List String :=
  ["--timeout-secs", "5", "list", "scip", "--timeout-secs", "6"]

/-- Seconds in both places make the variable idle, an empty one too. -/
theorem Surroundings.start_blank_eq_iff_twice :
    GivesSecondsTwice inBothPlaces ∧
      (silent.withTimeout (some "")).start 0 inBothPlaces =
        (silent.withTimeout none).start 0 inBothPlaces := by
  have hspace : Text.IsSpace "".toList := by simp [Text.IsSpace]
  have hline : ofWords inBothPlaces (some "") = .ok ⟨.info, some 6, .list .scip false⟩ := by cbv
  have htwice := givesSecondsTwice_of_ok (Given.seconds_blank hspace) hline
  exact ⟨htwice, (silent.start_blank_eq_iff 0 _ hspace).1.2 (.inr htwice)⟩

/-- To list the operations of a profile no seconds are needed, and still an empty variable stops the
program. -/
theorem Surroundings.start_blank_ne_list :
    (silent.withTimeout (some "")).start 0 ["list", "scip"] = .error .notNumber ∧
      (silent.withTimeout (some "")).start 0 ["list", "scip"] ≠
        (silent.withTimeout none).start 0 ["list", "scip"] := by
  have hstop : ofWords ["list", "scip"] (some "") = .error .notNumber := by cbv
  have hline : ofWords ["list", "scip"] none = .ok ⟨.info, none, .list .scip false⟩ := by cbv
  have hset : (silent.withTimeout (some "")).start 0 ["list", "scip"] = .error .notNumber := by
    rw [start, env_withTimeout_self, hstop]
    rfl
  have hunset : (silent.withTimeout none).start 0 ["list", "scip"] =
      .ok (.info, (silent.withTimeout none).execute 0 ⟨.info, none, .list .scip false⟩) := by
    rw [start, env_withTimeout_self, hline]
    rfl
  refine ⟨hset, ?_⟩
  rw [hset, hunset]
  intro h
  cases h

end ToolRelay
