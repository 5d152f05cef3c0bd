import Mathlib.Data.List.Basic
import ToolRelay.Console.Table
import ToolRelay.Proofs.ControlSequences

/-!
# Texts in their places

A text that is clipped to a place fits it, unless the place is smaller than the ellipsis. That a
cell is seen to take exactly the columns of its place asks for more. Spaces are seen behind a cell
only if every control sequence in it ends, and a cell that was clipped is seen in full only if no
sequence begins in what is left of it.
-/

set_option autoImplicit false

namespace ToolRelay

open Text.Ansi

variable {l r : List Char} {w : Nat}

/-! ## Clipped texts -/

/-- The dots take three places. -/
theorem Text.length_ellipsis : Text.ellipsis.length = 3 := rfl

/-- A clipped text fits exactly if it was short enough or there is room for the dots. -/
theorem Text.length_clip_le_iff : (Text.clip w l).length ≤ w ↔ l.length ≤ w ∨ 3 ≤ w := by
  by_cases h : l.length ≤ w
  · rw [Text.clip_of_le h]
    exact ⟨.inl, fun _ => h⟩
  · rw [Text.clip_of_lt (Nat.lt_of_not_le h), List.length_append, List.length_take,
      Text.length_ellipsis]
    omega

/-- The dots behind a text begin no control sequence. -/
theorem Text.Ansi.opens_append_ellipsis_iff :
    opening <:+: l ++ Text.ellipsis ↔ opening <:+: l := by
  constructor
  · rw [List.infix_append_iff]
    rintro (h | h | ⟨front, back, hsplit, hfront, hback⟩)
    · exact h
    · exact absurd h (by decide)
    · cases back with
      | nil =>
        rw [hsplit, List.append_nil]
        exact hfront.isInfix
      | cons c back =>
        have hopening : c ∈ opening := by simp [hsplit]
        have hother : ∀ d ∈ opening, d ∉ Text.ellipsis := by
          simp [opening, escape, Text.ellipsis]
        exact absurd (hback.subset List.mem_cons_self) (hother c hopening)
  · intro h
    exact h.trans (List.prefix_append l Text.ellipsis).isInfix

/-! ## Cells -/

namespace Console.Table

/-- A text that is not too wide is padded as it is. -/
theorem fit_of_width_le (h : width l ≤ w) : fit w l = l ++ List.replicate (w - width l) ' ' :=
  if_pos h

/-- A text that is too wide is clipped in what is visible of it. -/
theorem fit_of_lt_width (h : w < width l) : fit w l = Text.clip w (visible l) :=
  if_neg (Nat.not_le_of_lt h)

/-- The spaces behind a cell are seen, unless a sequence without an end hides them. -/
theorem width_fit_of_width_le (h : width l ≤ w) :
    width (fit w l) = w ↔ width l = w ∨ IsWhole l := by
  rw [fit_of_width_le h]
  by_cases hwhole : IsWhole l
  · have hbracket : '[' ∉ (List.replicate (w - width l) ' ').head? := fun hmem =>
      absurd (List.eq_of_mem_replicate (List.mem_of_mem_head? hmem)) (by decide)
    have hescape : escape ∉ List.replicate (w - width l) ' ' := fun hmem =>
      absurd (List.eq_of_mem_replicate hmem) (by decide)
    have hseen : width (l ++ List.replicate (w - width l) ' ') = w := by
      rw [width, visible_append hwhole (.inr hbracket), visible_of_not_mem hescape,
        List.length_append, List.length_replicate]
      exact Nat.add_sub_cancel' h
    exact ⟨fun _ => .inr hwhole, fun _ => hseen⟩
  · have hblank : ∀ c ∈ List.replicate (w - width l) ' ', c.isAlpha = false := by
      intro c hc
      rw [List.eq_of_mem_replicate hc]
      rfl
    rw [width, visible_append_of_not_isWhole hwhole hblank]
    exact ⟨.inl, fun hor => hor.resolve_right hwhole⟩

/-- A cell that is clipped is seen in full, where there is room for the dots and no sequence begins
in front of them. -/
theorem width_fit_of_lt_width (h : w < width l) :
    width (fit w l) = w ↔ 3 ≤ w ∧ ¬opening <:+: (visible l).take (w - 3) := by
  have hlength : (fit w l).length = max w 3 := by
    rw [fit_of_lt_width h, Text.clip_of_lt h, List.length_append, List.length_take,
      Text.length_ellipsis]
    unfold width at h
    omega
  have hopens : opening <:+: fit w l ↔ opening <:+: (visible l).take (w - 3) := by
    rw [fit_of_lt_width h, Text.clip_of_lt h, opens_append_ellipsis_iff]
  rw [← hopens, ← width_eq_length_iff, hlength]
  by_cases hroom : 3 ≤ w
  · rw [Nat.max_eq_left hroom]
    exact (and_iff_right hroom).symm
  · -- a place this small gets the dots alone, and all three are seen
    have hdots : fit w l = Text.ellipsis := by
      rw [fit_of_lt_width h, Text.clip_of_lt h, Nat.sub_eq_zero_of_le (by omega), List.take_zero,
        List.nil_append]
    have hseen : width (fit w l) = 3 := by
      rw [hdots, width, visible_of_not_mem (by decide)]
      rfl
    rw [hseen]
    omega

/-- What it takes that a text fits its place: a clipped one is short enough as it is, or has room
for the dots. A cell is seen to take just the columns of its place if it takes them as it is; if it
takes fewer, and every control sequence in it ends; or if it takes more, there is room for the dots,
and no sequence begins in the part of what is visible that is kept. -/
theorem fits_place_iff (s : String) (w : Nat) :
    ((Text.clipped w s).length ≤ w ↔ s.length ≤ w ∨ 3 ≤ w) ∧
      (width (fit w s.toList) = w ↔
        width s.toList = w ∨ (width s.toList < w ∧ IsWhole s.toList) ∨
          (w < width s.toList ∧ 3 ≤ w ∧ ¬opening <:+: (visible s.toList).take (w - 3))) := by
  constructor
  · rw [Text.clipped, String.length_ofList, ← String.length_toList]
    exact Text.length_clip_le_iff
  · rcases Nat.lt_or_ge w (width s.toList) with h | h
    · rw [width_fit_of_lt_width h]
      constructor
      · exact fun hseen => .inr (.inr ⟨h, hseen⟩)
      · rintro (heq | ⟨hlt, -⟩ | ⟨-, hseen⟩)
        · omega
        · omega
        · exact hseen
    · rw [width_fit_of_width_le h]
      constructor
      · rintro (heq | hwhole)
        · exact .inl heq
        · exact (Nat.eq_or_lt_of_le h).imp id fun hlt => .inl ⟨hlt, hwhole⟩
      · rintro (heq | ⟨-, hwhole⟩ | ⟨hlt, -⟩)
        · exact .inl heq
        · exact .inr hwhole
        · omega

/-- Two columns have no room for the dots, spaces are hidden behind a sequence without an end, and
of a sequence that has come together again nothing is seen. -/
theorem not_fits_place :
    2 < (Text.clipped 2 "abcd").length ∧ width (fit 3 "\x1b[".toList) = 0 ∧
      width (fit 8 "\x1b\x1b[0m[31mabcdef".toList) = 3 := by
  refine ⟨by decide, ?_, ?_⟩ <;> decide +kernel

end Console.Table
end ToolRelay
