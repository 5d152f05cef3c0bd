import ToolRelay.Decimal.Digits
import ToolRelay.Text.Ansi

/-!
# How text is shown

A style says how wide the terminal is and whether it shows colours. Text that has a role is painted
in the colour of the role, which only adds control sequences around it.
-/

set_option autoImplicit false

namespace ToolRelay.Console

/-- How text is shown. -/
structure Style where
  colored : Bool
  width : Nat
  deriving DecidableEq, Repr

/-- What a text stands for. -/
inductive Role
  | primary
  | secondary
  | accent
  | success
  | error
  | dim
  deriving DecidableEq, Repr

/-- The parameters of the control sequence for the colour of a role. -/
def Role.code : Role → List Char
  | .primary => ['3', '8', ';', '5', ';', '4', '5']
  | .secondary => ['3', '8', ';', '5', ';', '2', '5', '0']
  | .accent => ['3', '8', ';', '5', ';', '2', '1', '3']
  | .success => ['3', '8', ';', '5', ';', '8', '2']
  | .error => ['3', '8', ';', '5', ';', '1', '9', '6']
  | .dim => ['2']

namespace Style

/-- The narrowest terminal that is believed. -/
def narrowest : Nat := 40

/-- The widest terminal that is believed. -/
def widest : Nat := 220

/-- The width where the environment names none. -/
def usualWidth : Nat := 100

/-- The style for the values of `COLUMNS` and `NO_COLOR`. Any value of the latter, an empty one too,
turns colours off. -/
def detect (columns noColor : Option String) : Style where
  colored := noColor.isNone
  width := match columns.bind fun s => Decimal.natural? 0xFFFFFFFFFFFFFFFF s.toList with
    | some n => max narrowest (min n widest)
    | none => usualWidth

/-- The control sequence with the given parameters that sets how text is shown. -/
def sequence (code : List Char) : List Char :=
  Text.Ansi.escape :: '[' :: code ++ ['m']

/-- A text painted in the colour of its role. -/
def paint (s : Style) (role : Role) (text : List Char) : List Char :=
  if s.colored then sequence role.code ++ text ++ sequence ['0'] else text

end Style
end ToolRelay.Console
