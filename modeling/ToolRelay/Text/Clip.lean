/-!
# Clipped texts

A text that is too long for its place is cut and ends with an ellipsis of three dots. The ellipsis
counts toward the length, but it is written in full even where the place is shorter than that:
`length_clip_le` gives the bound that holds for every place.
-/

set_option autoImplicit false

namespace ToolRelay.Text

/-- What stands at the end of a text that was cut. -/
def ellipsis : List Char :=
  ['.', '.', '.']

/-- The text, or as much of it as leaves room for the ellipsis in `max` characters. -/
def clip (max : Nat) (l : List Char) : List Char :=
  if l.length ≤ max then l else l.take (max - ellipsis.length) ++ ellipsis

/-- The clipped text. -/
def clipped (max : Nat) (s : String) : String :=
  String.ofList (clip max s.toList)

/-- A text that is short enough stays. -/
theorem clip_of_le {max : Nat} {l : List Char} (h : l.length ≤ max) : clip max l = l :=
  if_pos h

/-- A text that is too long ends with three dots. -/
theorem clip_of_lt {max : Nat} {l : List Char} (h : max < l.length) :
    clip max l = l.take (max - 3) ++ ellipsis :=
  if_neg (Nat.not_le_of_lt h)

/-- Nothing but dots is added to a text. -/
theorem of_mem_clip {max : Nat} {l : List Char} {c : Char} (h : c ∈ clip max l) :
    c ∈ l ∨ c = '.' := by
  unfold clip at h
  split at h
  · exact .inl h
  · rcases List.mem_append.1 h with h | h
    · exact .inl (List.mem_of_mem_take h)
    · exact .inr (by simpa [ellipsis] using h)

/-- A clipped text fits its place, unless the place has not even room for the ellipsis. -/
theorem length_clip_le (n : Nat) (l : List Char) : (clip n l).length ≤ max n ellipsis.length := by
  unfold clip
  split
  · omega
  · rw [List.length_append, List.length_take]
    omega

end ToolRelay.Text
