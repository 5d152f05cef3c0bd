import ToolRelay.Text.Blank
import ToolRelay.Text.Line

/-!
# What the outside answers

A request that succeeds gives the output of a program or the records of a search; one that fails
gives a message, which is never blank. A payload can be cut to a number of records, or of lines of
output.
-/

set_option autoImplicit false

namespace ToolRelay

/-- What a program printed. -/
structure CommandOutput where
  stdout : String
  stderr : String
  deriving DecidableEq, Repr, Inhabited

/-- One result of a search. -/
structure SearchRecord where
  title : Option String
  url : String
  content : Option String
  engine : Option String
  publishedDate : Option String
  imageSource : Option String
  source : Option String
  deriving DecidableEq, Repr

/-- What a request that succeeds gives. -/
inductive Payload
  | output (output : CommandOutput)
  | records (records : List SearchRecord)
  deriving DecidableEq, Repr

/-- The first records, or the first lines of what was printed. -/
def Payload.truncate (limit : Nat) : Payload → Payload
  | .output o => .output { o with stdout := Text.leading limit o.stdout }
  | .records rs => .records (rs.take limit)

/-- Why a request failed. -/
structure Failure where
  message : String
  deriving DecidableEq, Repr

/-- A failure with the given message, or with a general one in place of a blank message. -/
def Failure.of (message : String) : Failure :=
  ⟨if Text.blank message then "external call failed without diagnostic output" else message⟩

/-- A message that is not blank is kept as it is. -/
theorem Failure.of_eq {message : String} (h : Text.blank message = false) :
    Failure.of message = ⟨message⟩ := by
  rw [Failure.of, h, if_neg Bool.false_ne_true]

/-- No failure has a blank message. -/
theorem Failure.blank_message_of (message : String) :
    Text.blank (Failure.of message).message = false := by
  unfold Failure.of
  by_cases h : Text.blank message = true
  · rw [if_pos h]
    decide
  · rw [if_neg h]
    simpa using h

/-- What a request comes to. -/
abbrev Outcome := Except Failure Payload

end ToolRelay
