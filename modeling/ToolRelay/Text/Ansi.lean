/-!
# Escape sequences

A terminal takes an escape character and an opening bracket for the beginning of a control
sequence, which ends with the first letter of ASCII. `visible` is what is left of a text without
its sequences; a sequence that never ends hides the rest of the text.
-/

set_option autoImplicit false

namespace ToolRelay.Text.Ansi

/-- The character that begins a control sequence. -/
def escape : Char :=
  '\x1b'

/-- The text behind the letter that ends a control sequence. -/
def afterSequence : List Char → List Char
  | [] => []
  | c :: r => if c.isAlpha then r else afterSequence r

/-- What stands behind a control sequence is no longer than the text. -/
theorem length_afterSequence_le (l : List Char) : (afterSequence l).length ≤ l.length := by
  induction l with
  | nil => exact Nat.le_refl _
  | cons c r ih =>
    unfold afterSequence
    split
    · exact Nat.le_succ _
    · exact Nat.le_succ_of_le ih

/-- The text without its control sequences. -/
def visible : List Char → List Char
  | [] => []
  | [c] => [c]
  | c :: d :: r =>
    if c = escape ∧ d = '[' then visible (afterSequence r) else c :: visible (d :: r)
termination_by l => l.length
decreasing_by
  · have := length_afterSequence_le r
    simp only [List.length_cons]
    omega
  · simp

/-- How many characters of a text a terminal shows. -/
def width (l : List Char) : Nat :=
  (visible l).length

/-- A text without an escape character is visible as it stands. -/
theorem visible_of_not_mem {l : List Char} (h : escape ∉ l) : visible l = l := by
  induction l with
  | nil => rw [visible]
  | cons c r ih =>
    cases r with
    | nil => rw [visible]
    | cons d r =>
      have hc : c ≠ escape := fun e => h (e ▸ List.mem_cons_self)
      rw [visible, if_neg fun e => hc e.1, ih fun hm => h (List.mem_cons_of_mem _ hm)]

end ToolRelay.Text.Ansi
