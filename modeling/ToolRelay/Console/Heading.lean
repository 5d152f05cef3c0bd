import ToolRelay.Console.Style
import ToolRelay.Text.Clip

/-!
# Framed headings

A heading is one line in a frame: a title, and behind two spaces a subtitle if there is one. It is
clipped to the width of the terminal, of which the frame takes four columns, but never to less than
ten characters.
-/

set_option autoImplicit false

namespace ToolRelay.Console

/-- What a heading says. -/
structure Heading where
  title : List Char
  subtitle : Option (List Char)
  deriving DecidableEq, Repr

namespace Heading

/-- The columns that the frame takes. -/
def frameWidth : Nat := 4

/-- The characters that a heading has room for on the narrowest terminal. -/
def leastRoom : Nat := 10

/-- The line of the heading in full. -/
def line (h : Heading) : List Char :=
  match h.subtitle with
  | some sub => h.title ++ [' ', ' '] ++ sub
  | none => h.title

/-- The characters that the frame has room for. -/
def room (s : Style) : Nat :=
  max (s.width - frameWidth) leastRoom

/-- The line as far as the frame has room for it. -/
def shown (h : Heading) (s : Style) : List Char :=
  Text.clip (room s) (line h)

/-- The shown line in colours: where the whole title and something of what follows it is shown, the
two are painted in colours of their own. -/
def painted (h : Heading) (s : Style) : List Char :=
  let text := shown h s
  if h.subtitle.isSome ∧ h.title.length < text.length ∧ h.title.isPrefixOf text then
    s.paint .primary h.title ++ s.paint .secondary (text.drop h.title.length)
  else s.paint .primary text

/-- A horizontal stroke of the frame, between its corners. -/
def stroke (h : Heading) (s : Style) : List Char :=
  List.replicate ((shown h s).length + 2) '─'

/-- The three lines of the framed heading. -/
def render (h : Heading) (s : Style) : String :=
  String.ofList ('┌' :: stroke h s ++ ['┐', '\n', '│', ' '] ++ painted h s ++
    [' ', '│', '\n', '└'] ++ stroke h s ++ ['┘'])

end Heading

/-- The framed heading of a title and a subtitle. -/
def heading (title : String) (subtitle : Option String) (s : Style) : String :=
  Heading.render ⟨title.toList, subtitle.map String.toList⟩ s

end ToolRelay.Console
