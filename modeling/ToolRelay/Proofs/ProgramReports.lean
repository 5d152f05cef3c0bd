import Mathlib
import ToolRelay.Program
import ToolRelay.Proofs.ShellWords
import ToolRelay.Proofs.Trimming

/-!
# What is reported of a program

A program is reported as a success exactly when it exited with the status zero and both its streams
came to their end, all of it in time (`Program.Course.EndsBy`), and then all that it printed is
passed on. Of every other exit the report names the command line, which a shell reads as the words of the
request, and the status, and it passes on what the program had to say about it (`Program.Told`). A
program that exits in time and leaves a stream open is not done, and is reported like one that goes
on (`CommandRequest.exit_not_reported`). No report of a failure is blank.
-/

set_option autoImplicit false

namespace ToolRelay

/-! ## What the program had to say -/

namespace Program

/-- What is told of a program behind its status, given what it printed: the core of its errors on a
line of its own; if there are none but white space, the core of the rest; and otherwise nothing. -/
inductive Told (stdout stderr : List Char) : List Char → Prop
  | errors {core : List Char} (shown : Text.IsCore stderr core) (some : core ≠ []) :
      Told stdout stderr ('\n' :: core)
  | rest {core : List Char} (silent : Text.IsSpace stderr) (shown : Text.IsCore stdout core)
      (some : core ≠ []) : Told stdout stderr ('\n' :: core)
  | nothing (silent : Text.IsSpace stderr) (idle : Text.IsSpace stdout) : Told stdout stderr []

variable {stdout stderr l : List Char}

/-- A complaint stands on a line of its own. -/
theorem complaintLine_of_ne_nil {core : List Char} (h : complaint stdout stderr = core)
    (hne : core ≠ []) : complaintLine stdout stderr = '\n' :: core := by
  unfold complaintLine
  rw [h]
  cases core with
  | nil => exact absurd rfl hne
  | cons c r => rfl

/-- The line of the complaint is what is told. -/
theorem told_complaintLine (stdout stderr : List Char) :
    Told stdout stderr (complaintLine stdout stderr) := by
  by_cases herrors : Text.trim stderr = []
  · have hrest : complaint stdout stderr = Text.trim stdout := if_pos herrors
    have hsilent := Text.trim_eq_nil_iff_isSpace.1 herrors
    by_cases houtput : Text.trim stdout = []
    · have hline : complaintLine stdout stderr = [] := by
        rw [complaintLine, hrest, houtput]
      rw [hline]
      exact .nothing hsilent (Text.trim_eq_nil_iff_isSpace.1 houtput)
    · rw [complaintLine_of_ne_nil hrest houtput]
      exact .rest hsilent (Text.trim_eq_iff.1 rfl) houtput
  · have hfirst : complaint stdout stderr = Text.trim stderr := if_neg herrors
    rw [complaintLine_of_ne_nil hfirst herrors]
    exact .errors (Text.trim_eq_iff.1 rfl) herrors

/-- Just one thing is told. -/
theorem told_iff : Told stdout stderr l ↔ l = complaintLine stdout stderr := by
  constructor
  · intro h
    cases h with
    | errors shown some =>
      have htrim := Text.trim_eq_iff.2 shown
      have hfirst : complaint stdout stderr = Text.trim stderr := if_neg (htrim ▸ some)
      rw [complaintLine_of_ne_nil (hfirst.trans htrim) some]
    | rest silent shown some =>
      have hrest : complaint stdout stderr = Text.trim stdout :=
        if_pos (Text.trim_eq_nil_iff_isSpace.2 silent)
      rw [complaintLine_of_ne_nil (hrest.trans (Text.trim_eq_iff.2 shown)) some]
    | nothing silent idle =>
      rw [complaintLine, complaint, if_pos (Text.trim_eq_nil_iff_isSpace.2 silent),
        Text.trim_eq_nil_iff_isSpace.2 idle]
  · rintro rfl
    exact told_complaintLine stdout stderr

/-- Success is the exit status zero and nothing else. -/
theorem Status.succeeded_iff {status : Status} : status.succeeded = true ↔ status = .exit 0 := by
  rw [succeeded, beq_iff_eq]

/-! ## Waiting up to a limit -/

namespace Awaited

variable {α β : Type} {limit : Nat} {x : Awaited α} {y : Awaited β}

/-- Something comes by a limit. -/
def ComesBy (limit : Nat) (a : α) (x : Awaited α) : Prop :=
  ∃ m, x = .comes m a ∧ m ≤ limit

/-- By a limit it turns out that something cannot be had. -/
def FailsBy (limit : Nat) (x : Awaited α) : Prop :=
  ∃ m reason, x = .fails m reason ∧ m ≤ limit

/-- What never comes has come by no limit. -/
@[simp] theorem not_comesBy_never {a : α} : ¬(never : Awaited α).ComesBy limit a := by
  simp [ComesBy]

/-- What comes has come by a limit if its moment is not behind it. -/
@[simp] theorem comesBy_comes {m : Nat} {a b : α} :
    (comes m b).ComesBy limit a ↔ b = a ∧ m ≤ limit := by
  simp [ComesBy, and_assoc]

/-- What fails has come by no limit. -/
@[simp] theorem not_comesBy_fails {m : Nat} {reason : String} {a : α} :
    ¬(fails m reason : Awaited α).ComesBy limit a := by
  simp [ComesBy]

/-- What never comes does not fail either. -/
@[simp] theorem not_failsBy_never : ¬(never : Awaited α).FailsBy limit := by
  simp [FailsBy]

/-- What comes does not fail. -/
@[simp] theorem not_failsBy_comes {m : Nat} {a : α} : ¬(comes m a).FailsBy limit := by
  simp [FailsBy]

/-- What fails has failed by a limit if its moment is not behind it. -/
@[simp] theorem failsBy_fails {m : Nat} {reason : String} :
    (fails m reason : Awaited α).FailsBy limit ↔ m ≤ limit := by
  simp [FailsBy]

/-- What is there within a limit has come by it. -/
theorem within_eq_ok_iff {a : α} : x.within limit = some (.ok a) ↔ x.ComesBy limit a := by
  cases x with
  | never => simp [within]
  | comes m b => by_cases hm : m ≤ limit <;> simp [within, hm]
  | fails m reason => by_cases hm : m ≤ limit <;> simp [within, hm]

/-- A reason is there within a limit for what has failed by it. -/
theorem exists_within_eq_error_iff :
    (∃ reason, x.within limit = some (.error reason)) ↔ x.FailsBy limit := by
  cases x with
  | never => simp [within]
  | comes m b => by_cases hm : m ≤ limit <;> simp [within, hm]
  | fails m reason => by_cases hm : m ≤ limit <;> simp [within, hm]

/-- Both have come when the later one has. -/
theorem comesBy_both {a : α} {b : β} :
    (x.both y).ComesBy limit (a, b) ↔ x.ComesBy limit a ∧ y.ComesBy limit b := by
  cases x with
  | never => cases y <;> simp [both]
  | fails m reason =>
    cases y with
    | never => simp [both]
    | comes n b' => simp [both]
    | fails n reason' => by_cases hfirst : m ≤ n <;> simp [both, hfirst]
  | comes m a' =>
    cases y with
    | never => simp [both]
    | fails n reason' => simp [both]
    | comes n b' =>
      simp only [both, comesBy_comes, Prod.mk.injEq, Nat.max_le]
      tauto

/-- Both fail with the one that fails first, whenever the other one comes. -/
theorem failsBy_both : (x.both y).FailsBy limit ↔ x.FailsBy limit ∨ y.FailsBy limit := by
  cases x with
  | never => cases y <;> simp [both]
  | comes m a' => cases y <;> simp [both]
  | fails m reason =>
    cases y with
    | never => simp [both]
    | comes n b' => simp [both]
    | fails n reason' =>
      by_cases hfirst : m ≤ n
      · simp only [both, hfirst, if_true, failsBy_fails]
        omega
      · simp only [both, hfirst, if_false, failsBy_fails]
        omega

end Awaited

namespace Course

variable {c : Course} {limit : Nat} {status : Status} {out err : List UInt8}

/-- By a limit a program exited with a status, and its streams ended with these octets. -/
structure EndsBy (c : Course) (limit : Nat) (status : Status) (out err : List UInt8) : Prop where
  exits : c.exit.ComesBy limit status
  prints : c.stdout.ComesBy limit out
  complains : c.stderr.ComesBy limit err

/-- By a limit the exit of a program or the end of a stream turned out not to be had. -/
def FailsBy (c : Course) (limit : Nat) : Prop :=
  c.exit.FailsBy limit ∨ c.stdout.FailsBy limit ∨ c.stderr.FailsBy limit

/-- Only what has ended in all three respects is there within the limit. -/
theorem within_whole_eq_ok_iff :
    c.whole.within limit = some (.ok ((status, out), err)) ↔ c.EndsBy limit status out err := by
  rw [whole, Awaited.within_eq_ok_iff, Awaited.comesBy_both, Awaited.comesBy_both]
  constructor
  · rintro ⟨⟨hexit, hout⟩, herr⟩
    exact ⟨hexit, hout, herr⟩
  · intro h
    exact ⟨⟨h.exits, h.prints⟩, h.complains⟩

/-- A failure in any respect is a failure of the whole. -/
theorem exists_within_whole_eq_error_iff :
    (∃ reason, c.whole.within limit = some (.error reason)) ↔ c.FailsBy limit := by
  rw [whole, Awaited.exists_within_eq_error_iff, Awaited.failsBy_both, Awaited.failsBy_both,
    or_assoc]
  rfl

/-- Where nothing failed and not all has ended, there is nothing yet. -/
theorem within_whole_eq_none (hended : ∀ status out err, ¬c.EndsBy limit status out err)
    (hfailed : ¬c.FailsBy limit) : c.whole.within limit = none := by
  cases hwithin : c.whole.within limit with
  | none => rfl
  | some found =>
    cases found with
    | error reason => exact absurd (exists_within_whole_eq_error_iff.1 ⟨reason, hwithin⟩) hfailed
    | ok all =>
      obtain ⟨⟨status, out⟩, err⟩ := all
      exact absurd (within_whole_eq_ok_iff.1 hwithin) (hended status out err)

/-- A program that does everything at once has ended by any limit. -/
theorem endsBy_prompt (limit : Nat) (status : Status) (out err : List UInt8) :
    (prompt status out err).EndsBy limit status out err :=
  ⟨⟨0, rfl, limit.zero_le⟩, ⟨0, rfl, limit.zero_le⟩, ⟨0, rfl, limit.zero_le⟩⟩

end Course

end Program

open Program

namespace CommandRequest

variable {r : CommandRequest} {limit : Nat} {run : Run} {course : Course}

/-! ## Success -/

/-- A report is a success exactly for the status zero, and passes on what was printed. -/
theorem report_eq_ok_iff {status : Status} {stdout stderr : List UInt8} {o : CommandOutput} :
    r.report status stdout stderr = .ok o ↔ status = .exit 0 ∧
      o = ⟨String.ofList (Text.Utf8.decodeLossy stdout),
        String.ofList (Text.Utf8.decodeLossy stderr)⟩ := by
  unfold report
  dsimp only
  split
  · next hsucceeded =>
    obtain rfl := Status.succeeded_iff.1 hsucceeded
    simp [eq_comm]
  · next hfailed =>
    have hstatus : status ≠ .exit 0 := fun h => hfailed (Status.succeeded_iff.2 h)
    simp [hstatus]

/-- A program that has ended in all respects is reported by its status and what it printed. -/
theorem conclude_of_endsBy {status : Status} {stdout stderr : List UInt8}
    (h : course.EndsBy limit status stdout stderr) :
    r.conclude limit (.started course) = r.report status stdout stderr := by
  simp only [conclude, Course.within_whole_eq_ok_iff.2 h]

/-- A request succeeds exactly with a program that has ended in all respects with the status zero. -/
theorem conclude_eq_ok_iff {o : CommandOutput} :
    r.conclude limit run = .ok o ↔
      ∃ course stdout stderr, run = .started course ∧
        course.EndsBy limit (.exit 0) stdout stderr ∧
        o = ⟨String.ofList (Text.Utf8.decodeLossy stdout),
          String.ofList (Text.Utf8.decodeLossy stderr)⟩ := by
  constructor
  · intro h
    cases run with
    | unstarted reason => cases h
    | started course =>
      simp only [conclude] at h
      split at h
      · cases h
      · cases h
      · next status stdout stderr hwithin =>
        obtain ⟨rfl, ho⟩ := report_eq_ok_iff.1 h
        exact ⟨course, stdout, stderr, rfl, Course.within_whole_eq_ok_iff.1 hwithin, ho⟩
  · rintro ⟨course, stdout, stderr, rfl, hends, ho⟩
    rw [conclude_of_endsBy hends]
    exact report_eq_ok_iff.2 ⟨rfl, ho⟩

/-! ## Failure -/

/-- The report of an exit is never blank, so nothing stands in its place. -/
theorem report_of_ne_zero {status : Status} (h : status ≠ .exit 0) (stdout stderr : List UInt8) :
    r.report status stdout stderr = .error ⟨"Command failed: " ++ r.line ++
      " (" ++ status.text ++ ")" ++ String.ofList (complaintLine (Text.Utf8.decodeLossy stdout)
        (Text.Utf8.decodeLossy stderr))⟩ := by
  have hfailed : ¬status.succeeded = true := fun hs => h (Status.succeeded_iff.1 hs)
  simp only [report]
  rw [if_neg hfailed, Failure.of_eq]
  simp [Text.blank, Text.isBlank]

/-- A program that has not ended in all respects by the limit is overdue, whatever it has done. -/
theorem conclude_of_late (hended : ∀ status out err, ¬course.EndsBy limit status out err)
    (hfailed : ¬course.FailsBy limit) :
    r.conclude limit (.started course) = .error ⟨"`" ++ r.line ++ "` timed out after " ++
      String.ofList (Decimal.ofNat (limit / 1000)) ++ "s"⟩ := by
  simp only [conclude, Course.within_whole_eq_none hended hfailed]
  rw [Failure.of_eq]
  simp [Text.blank, Text.isBlank]

/-- Whatever went wrong, the message was checked when the failure was made. -/
theorem exists_message_of_conclude {failure : Failure}
    (h : r.conclude limit run = .error failure) : ∃ message, failure = .of message := by
  unfold conclude at h
  cases run with
  | unstarted reason => exact ⟨_, (Except.error.inj h).symm⟩
  | started course =>
    dsimp only at h
    split at h
    · exact ⟨_, (Except.error.inj h).symm⟩
    · exact ⟨_, (Except.error.inj h).symm⟩
    · unfold report at h
      dsimp only at h
      split at h
      · cases h
      · exact ⟨_, (Except.error.inj h).symm⟩

/-- **A failed program is never a success, and what it said is not lost.** Whatever is asked for and
whatever becomes of it: the report is a success exactly for a program that started, exited with the
status zero and came to the end of both its streams, all of it by the limit, and it holds all that
was printed, as text. With any other status it is a failure that names the command line, of which a
shell makes the words of the request, and the status in parentheses, and then tells what the program
had to say. If one of the three had not come by the limit, and none had failed, the program is
overdue. No failure has a blank text. -/
theorem conclude_reports (r : CommandRequest) (limit : Nat) (run : Run) :
    (∀ o, r.conclude limit run = .ok o ↔
      ∃ course stdout stderr, run = .started course ∧
        course.EndsBy limit (.exit 0) stdout stderr ∧
        o.stdout.toList = Text.Utf8.decodeLossy stdout ∧
        o.stderr.toList = Text.Utf8.decodeLossy stderr) ∧
    (∀ course status stdout stderr, run = .started course →
      course.EndsBy limit status stdout stderr → status ≠ .exit 0 →
      Shell.split? r.line.toList = some ((r.program :: r.arguments).map String.toList) ∧
      ∃ told, Told (Text.Utf8.decodeLossy stdout) (Text.Utf8.decodeLossy stderr) told ∧
        r.conclude limit run = .error
          ⟨"Command failed: " ++ r.line ++ " (" ++ status.text ++ ")" ++ String.ofList told⟩) ∧
    (∀ course, run = .started course →
      (∀ status stdout stderr, ¬course.EndsBy limit status stdout stderr) → ¬course.FailsBy limit →
      r.conclude limit run = .error ⟨"`" ++ r.line ++ "` timed out after " ++
        String.ofList (Decimal.ofNat (limit / 1000)) ++ "s"⟩) ∧
    ∀ failure, r.conclude limit run = .error failure → Text.blank failure.message = false := by
  refine ⟨fun o => ?_, ?_, ?_, ?_⟩
  · rw [conclude_eq_ok_iff]
    refine exists_congr fun course => exists_congr fun stdout => exists_congr fun stderr =>
      and_congr_right fun _ => and_congr_right fun _ => ?_
    constructor
    · rintro rfl
      exact ⟨String.toList_ofList, String.toList_ofList⟩
    · rintro ⟨hstdout, hstderr⟩
      rw [← hstdout, ← hstderr, String.ofList_toList, String.ofList_toList]
  · rintro course status stdout stderr rfl hends hstatus
    refine ⟨r.split?_line, _, told_complaintLine _ _, ?_⟩
    rw [conclude_of_endsBy hends, report_of_ne_zero hstatus]
  · rintro course rfl hended hfailed
    exact conclude_of_late hended hfailed
  · intro failure hconclude
    obtain ⟨message, rfl⟩ := exists_message_of_conclude hconclude
    exact Failure.blank_message_of message

/-- A request with an empty argument and one with a space in it. -/
def grep : CommandRequest :=
  ⟨"git", ["log", "", "--grep=a b"], none⟩

/-- A program that fails without errors but white space is reported with what else it printed. -/
theorem conclude_reports_grep :
    grep.conclude 60000
        (.started (.prompt (.exit 128) " no\n".toUTF8.toList "\n\t".toUTF8.toList)) =
      .error ⟨"Command failed: git log '' '--grep=a b' (exit status: 128)\nno"⟩ := by
  have hends := Course.endsBy_prompt 60000 (.exit 128) " no\n".toUTF8.toList "\n\t".toUTF8.toList
  obtain ⟨-, hother, -⟩ := conclude_reports grep 60000
    (.started (.prompt (.exit 128) " no\n".toUTF8.toList "\n\t".toUTF8.toList))
  obtain ⟨-, told, htold, hreport⟩ := hother _ _ _ _ rfl hends (by decide)
  rw [hreport, told_iff.1 htold]
  cbv

/-- A request for a script that leaves another program behind and exits. -/
def leaving : CommandRequest :=
  ⟨"/bin/sh", ["-c", "/bin/sleep 5 & exit 0"], none⟩

/-- How the script goes: it exits at once, and what it left behind holds both streams open. -/
def leavingCourse : Course :=
  ⟨.comes 0 (.exit 0), .comes 5000 [], .comes 5000 []⟩

/-- The exit in time with the status zero alone makes no success: a program that leaves its streams
open is reported as overdue. -/
theorem exit_not_reported :
    ¬((∃ o, leaving.conclude 1000 (.started leavingCourse) = .ok o) ↔
      leavingCourse.exit.ComesBy 1000 (.exit 0)) ∧
    leaving.conclude 1000 (.started leavingCourse) =
      .error ⟨"`/bin/sh -c '/bin/sleep 5 & exit 0'` timed out after 1s"⟩ := by
  have hline : leaving.line = "/bin/sh -c '/bin/sleep 5 & exit 0'" := by cbv
  have hopen : ∀ status out err, ¬leavingCourse.EndsBy 1000 status out err := by
    intro status out err hends
    have hprints := Awaited.comesBy_comes.1 hends.prints
    omega
  have hobserved : ¬leavingCourse.FailsBy 1000 := by
    simp [Course.FailsBy, leavingCourse]
  have hoverdue : leaving.conclude 1000 (.started leavingCourse) =
      .error ⟨"`/bin/sh -c '/bin/sleep 5 & exit 0'` timed out after 1s"⟩ := by
    rw [conclude_of_late hopen hobserved, hline]
    rfl
  refine ⟨fun hiff => ?_, hoverdue⟩
  obtain ⟨o, ho⟩ := hiff.2 ⟨0, rfl, by omega⟩
  rw [hoverdue] at ho
  cases ho

end CommandRequest

end ToolRelay
