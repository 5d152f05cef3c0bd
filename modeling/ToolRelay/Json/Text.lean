import ToolRelay.Decimal.Shortest
import ToolRelay.Json.Basic
import ToolRelay.Text.Quoted

/-!
# JSON as text

Two layouts: the compact one has no white space at all, the indented one puts every item and every
member on a line of its own, two spaces deeper than what holds it. Characters outside ASCII are
written as they are.
-/

set_option autoImplicit false

namespace ToolRelay.Json

/-- How one character is written in a JSON string. -/
def escaped (c : Char) : List Char :=
  match c with
  | '"' => ['\\', '"']
  | '\\' => ['\\', '\\']
  | '\n' => ['\\', 'n']
  | '\r' => ['\\', 'r']
  | '\t' => ['\\', 't']
  | '\x08' => ['\\', 'b']
  | '\x0c' => ['\\', 'f']
  | _ =>
    if c.toNat < 0x20 then
      ['\\', 'u', '0', '0', Text.hexDigit (c.toNat / 16), Text.hexDigit (c.toNat % 16)]
    else [c]

/-- A JSON string with its quotes. -/
def stringChars (s : String) : List Char :=
  '"' :: s.toList.flatMap escaped ++ ['"']

mutual

/-- The compact text of a value. -/
def chars : Json → List Char
  | .null => ['n', 'u', 'l', 'l']
  | .bool true => ['t', 'r', 'u', 'e']
  | .bool false => ['f', 'a', 'l', 's', 'e']
  | .int n => Decimal.ofInt n
  | .float x => if x.finite then x.jsonText else ['n', 'u', 'l', 'l']
  | .str s => stringChars s
  | .arr items => '[' :: itemsChars items
  | .obj members => '{' :: membersChars members

/-- The compact text of an array behind its bracket. -/
def itemsChars : List Json → List Char
  | [] => [']']
  | [v] => chars v ++ [']']
  | v :: r => chars v ++ ',' :: itemsChars r

/-- The compact text of an object behind its brace. -/
def membersChars : List (String × Json) → List Char
  | [] => ['}']
  | [(k, v)] => stringChars k ++ ':' :: chars v ++ ['}']
  | (k, v) :: r => stringChars k ++ ':' :: chars v ++ ',' :: membersChars r

end

/-- A line feed and the indentation of a depth. -/
def newline (depth : Nat) : List Char :=
  '\n' :: List.replicate (2 * depth) ' '

mutual

/-- The indented text of a value that stands at a depth. -/
def indentedChars (depth : Nat) : Json → List Char
  | .arr [] => ['[', ']']
  | .obj [] => ['{', '}']
  | .arr items => '[' :: indentedItems depth items
  | .obj members => '{' :: indentedMembers depth members
  | v => chars v

/-- The indented text of an array behind its bracket. -/
def indentedItems (depth : Nat) : List Json → List Char
  | [] => [']']
  | [v] => newline (depth + 1) ++ indentedChars (depth + 1) v ++ newline depth ++ [']']
  | v :: r => newline (depth + 1) ++ indentedChars (depth + 1) v ++ ',' :: indentedItems depth r

/-- The indented text of an object behind its brace. -/
def indentedMembers (depth : Nat) : List (String × Json) → List Char
  | [] => ['}']
  | [(k, v)] =>
    newline (depth + 1) ++ stringChars k ++ ':' :: ' ' :: indentedChars (depth + 1) v ++
      newline depth ++ ['}']
  | (k, v) :: r =>
    newline (depth + 1) ++ stringChars k ++ ':' :: ' ' :: indentedChars (depth + 1) v ++
      ',' :: indentedMembers depth r

end

/-- The compact text of a value. -/
def text (v : Json) : String :=
  String.ofList (chars v)

/-- The indented text of a value. -/
def indented (v : Json) : String :=
  String.ofList (indentedChars 0 v)

/-- A string as it is and any other value as compact text. -/
def plain : Json → String
  | .str s => s
  | v => v.text

end ToolRelay.Json
