import Mathlib
import ToolRelay.Payload

/-!
# Lines that are cut off and read again

The first lines of a text are put together again with line feeds, and whoever reads the result
splits it into lines once more. The lines are the same then up to what ends them: a carriage return
is lost where a line had two, and blank lines at the end can go. The entries of a text, which are
its lines with something in them up to the white space at their ends, see none of this
(`entries_lines_leading`).
-/

set_option autoImplicit false

namespace ToolRelay.Text

/-- Lines that are not blank, each without the white space at its end. -/
def entries (ls : List (List Char)) : List (List Char) :=
  (ls.filter fun l => !l.all isBlank).map trimEnd

/-- The entries of two lists of lines come one after the other. -/
theorem entries_append (ls ms : List (List Char)) :
    entries (ls ++ ms) = entries ls ++ entries ms := by
  rw [entries, List.filter_append, List.map_append]
  rfl

/-- The entries of the first lines are the first entries. -/
theorem prefix_entries {ls ms : List (List Char)} (h : ls <+: ms) : entries ls <+: entries ms := by
  obtain ⟨rest, rfl⟩ := h
  rw [entries_append]
  exact List.prefix_append _ _

/-- The entries of a line come before those of the others. -/
theorem entries_cons (l : List Char) (ls : List (List Char)) :
    entries (l :: ls) = entries [l] ++ entries ls :=
  entries_append [l] ls

/-- The carriage return that ends a line is white space at its end. -/
theorem entries_dropReturn (l : List Char) : entries [dropReturn l] = entries [l] := by
  unfold dropReturn
  split
  · next hlast =>
    -- the line is something and a carriage return
    obtain ⟨front, rfl⟩ := List.getLast?_eq_some_iff.1 hlast
    rw [List.dropLast_concat]
    have hblank : (front ++ ['\r']).all isBlank = front.all isBlank := by
      rw [List.all_append]
      exact Bool.and_true _
    have htrim : trimEnd (front ++ ['\r']) = trimEnd front :=
      List.rdropWhile_concat_pos isBlank front '\r' (by decide)
    rw [entries, entries, List.filter_singleton, List.filter_singleton, hblank]
    cases front.all isBlank with
    | true => rfl
    | false => exact congrArg (fun t => [t]) htrim.symm
  · rfl

/-- The last piece is a line only if it is not empty. -/
theorem linesOfPieces_concat (ps : List (List Char)) (p : List Char) :
    linesOfPieces (ps ++ [p]) = ps.map dropReturn ++ if p = [] then [] else [p] := by
  induction ps with
  | nil => cases p <;> rfl
  | cons q qs ih =>
    have hne : qs ++ [p] ≠ [] := List.append_ne_nil_of_right_ne_nil qs (List.cons_ne_nil p [])
    rw [List.cons_append, linesOfPieces, ih, List.map_cons, List.cons_append]
    exact hne

/-- There are no more lines than pieces. -/
theorem length_linesOfPieces_le (ps : List (List Char)) :
    (linesOfPieces ps).length ≤ ps.length := by
  cases ps using List.reverseRecOn with
  | nil => exact le_rfl
  | append_singleton front last =>
    rw [linesOfPieces_concat, List.length_append, List.length_append, List.length_map]
    split <;> simp

/-- What is lost between pieces and lines is white space at the end of a line, or a last line with
nothing in it. -/
theorem entries_take_linesOfPieces (ps : List (List Char)) (n : Nat) :
    entries ((linesOfPieces ps).take n) = entries (ps.take n) := by
  induction ps generalizing n with
  | nil => rfl
  | cons p ps ih =>
    cases n with
    | zero => rfl
    | succ n =>
      cases ps with
      | nil =>
        rw [linesOfPieces]
        split
        · next hempty =>
          obtain rfl := List.isEmpty_iff.1 hempty
          rw [List.take_nil, List.take_succ_cons, List.take_nil]
          rfl
        · rfl
      | cons q qs =>
        rw [linesOfPieces, List.take_succ_cons, List.take_succ_cons, entries_cons, ih,
          entries_dropReturn, ← entries_cons]
        exact List.cons_ne_nil q qs

/-- Pieces have the entries of their lines. -/
theorem entries_linesOfPieces (ps : List (List Char)) :
    entries (linesOfPieces ps) = entries ps := by
  have htake := entries_take_linesOfPieces ps ps.length
  rwa [List.take_length, List.take_of_length_le (length_linesOfPieces_le ps)] at htake

/-- Without its carriage return a line has no new characters. -/
theorem dropReturn_subset (l : List Char) : dropReturn l ⊆ l := by
  unfold dropReturn
  split
  · exact List.dropLast_subset l
  · exact List.Subset.refl l

/-- Every line is a piece, perhaps without a carriage return. -/
theorem exists_piece_of_mem_linesOfPieces {ps : List (List Char)} {l : List Char}
    (h : l ∈ linesOfPieces ps) : ∃ p ∈ ps, l ⊆ p := by
  induction ps with
  | nil => cases h
  | cons p ps ih =>
    cases ps with
    | nil =>
      rw [linesOfPieces] at h
      split at h
      · cases h
      · exact ⟨p, List.mem_cons_self, by rw [List.mem_singleton.1 h]; exact List.Subset.refl p⟩
    | cons q qs =>
      rw [linesOfPieces] at h
      · rcases List.mem_cons.1 h with rfl | h
        · exact ⟨p, List.mem_cons_self, dropReturn_subset p⟩
        · obtain ⟨r, hr, hsub⟩ := ih h
          exact ⟨r, List.mem_cons_of_mem _ hr, hsub⟩
      · exact List.cons_ne_nil q qs

/-- A line holds no line feed. -/
theorem not_mem_of_mem_lines {l line : List Char} (h : line ∈ lines l) : '\n' ∉ line := by
  intro hmem
  obtain ⟨p, hp, hsub⟩ := exists_piece_of_mem_linesOfPieces h
  exact (of_mem_pieces hp (hsub hmem)).1 rfl

/-- Lines that are put together with line feeds are read again as pieces. -/
theorem lines_joinWith {ls : List (List Char)} (h : ∀ l ∈ ls, '\n' ∉ l) :
    lines (joinWith ['\n'] ls) = linesOfPieces ls := by
  by_cases hne : ls = []
  · subst hne
    rfl
  · rw [lines, pieces_joinWith hne h]

/-- Lines that are put together with line feeds have the same entries when they are read again. -/
theorem entries_lines_joinWith {ls : List (List Char)} (h : ∀ l ∈ ls, '\n' ∉ l) :
    entries (lines (joinWith ['\n'] ls)) = entries ls := by
  rw [lines_joinWith h, entries_linesOfPieces]

/-- The entries of the first lines of a text are those among its first lines. -/
theorem entries_lines_leading (limit : Nat) (s : String) :
    entries (lines (leading limit s).toList) = entries ((lines s.toList).take limit) := by
  unfold leading
  dsimp only
  split
  · rw [String.toList_ofList]
    refine entries_lines_joinWith fun l hl => ?_
    exact not_mem_of_mem_lines (List.mem_of_mem_take hl)
  · next hle => rw [List.take_of_length_le (Nat.not_lt.1 hle)]

end ToolRelay.Text
