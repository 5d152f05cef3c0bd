/-!
# White space

The Unicode property `White_Space`, and the trimming of texts by it. A text is *blank* when it
holds nothing but white space, and trimming removes exactly the white space at its two ends: only a
blank text trims to nothing (`trim_eq_nil_iff`).
-/

set_option autoImplicit false

namespace ToolRelay.Text

/-- The characters with the Unicode property `White_Space`. -/
def isBlank (c : Char) : Bool :=
  let n := c.toNat
  (9 ≤ n && n ≤ 13) || n == 0x20 || n == 0x85 || n == 0xA0 || n == 0x1680 ||
    (0x2000 ≤ n && n ≤ 0x200A) || n == 0x2028 || n == 0x2029 || n == 0x202F || n == 0x205F ||
    n == 0x3000

/-- The characters without the white space before them. -/
def trimStart (l : List Char) : List Char :=
  l.dropWhile isBlank

/-- The characters without the white space after them. -/
def trimEnd (l : List Char) : List Char :=
  (l.reverse.dropWhile isBlank).reverse

/-- The characters without the white space around them. -/
def trim (l : List Char) : List Char :=
  trimEnd (trimStart l)

/-- The text without the white space around it. -/
def trimmed (s : String) : String :=
  String.ofList (trim s.toList)

/-- Whether the text holds nothing but white space. -/
def blank (s : String) : Bool :=
  s.toList.all isBlank

/-- There is nothing to trim in an empty text. -/
@[simp] theorem trim_nil : trim [] = [] := rfl

/-- The characters of a trimmed text are the trimmed characters. -/
@[simp] theorem toList_trimmed (s : String) : (trimmed s).toList = trim s.toList := by
  simp [trimmed]

/-- Nothing is left behind the blanks exactly if all is blank. -/
theorem dropWhile_eq_nil {l : List Char} : l.dropWhile isBlank = [] ↔ l.all isBlank = true := by
  induction l with
  | nil => simp
  | cons c r ih => by_cases h : isBlank c <;> simp [h, ih]

/-- Where the rest behind the blanks is blank, all is. -/
theorem all_dropWhile {l : List Char} (h : (l.dropWhile isBlank).all isBlank = true) :
    l.all isBlank = true := by
  induction l with
  | nil => rfl
  | cons c r ih =>
    by_cases hc : isBlank c
    · rw [List.dropWhile_cons, if_pos hc] at h
      simp [hc, ih h]
    · rw [List.dropWhile_cons, if_neg hc] at h
      simp [hc] at h

/-- Only a blank text trims to nothing. -/
theorem trim_eq_nil_iff {l : List Char} : trim l = [] ↔ l.all isBlank = true := by
  unfold trim trimEnd trimStart
  rw [List.reverse_eq_nil_iff, dropWhile_eq_nil, List.all_reverse]
  refine ⟨all_dropWhile, fun h => ?_⟩
  rw [dropWhile_eq_nil.2 h]
  rfl

end ToolRelay.Text
