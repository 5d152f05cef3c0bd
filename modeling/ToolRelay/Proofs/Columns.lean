import Mathlib.Algebra.Group.Action.Defs
import Mathlib.Algebra.Order.BigOperators.Group.List
import Mathlib.Algebra.Order.Ring.Nat
import ToolRelay.Console.Table

/-!
# The widths of the columns of a table

A column is naturally as wide as the longest of its cells. Where the columns do not fit the terminal
the excess is taken from them one after the other, the widest first. What one column gives is taken
from the excess and from the sum of the widths alike, so in the end either the excess is gone or no
column has more than four characters left (`narrow_exhausts`); both leave the table within the
terminal. A column is only asked when all that were wider have given what they could
(`narrow_widest_first`).
-/

set_option autoImplicit false

namespace ToolRelay.Console.Table

/-- The width of a column; there is nothing beyond the last one. -/
def widthAt (widths : List Nat) (i : Nat) : Nat :=
  (widths[i]?).getD 0

/-! ## One column gives -/

/-- Taking from one column changes that column only. -/
theorem widthAt_modify (widths : List Nat) (k given i : Nat) :
    widthAt (widths.modify k (· - given)) i = widthAt widths i - if k = i then given else 0 := by
  unfold widthAt
  rw [List.getElem?_modify]
  cases widths[i]? with
  | none => simp
  | some w => by_cases h : k = i <;> simp [h]

/-- What a column gives is missing from the sum. -/
theorem sum_modify {widths : List Nat} {k given : Nat} (h : given ≤ widthAt widths k) :
    (widths.modify k (· - given)).sum + given = widths.sum := by
  induction widths generalizing k with
  | nil =>
    obtain rfl : given = 0 := by simpa [widthAt] using h
    simp
  | cons w widths ih =>
    cases k with
    | zero =>
      have hgiven : given ≤ w := by simpa [widthAt] using h
      simp only [List.modify_zero_cons, List.sum_cons]
      omega
    | succ k =>
      have hrest := @ih k (by simpa [widthAt] using h)
      simp only [List.modify_succ_cons, List.sum_cons]
      omega

/-! ## The columns give one after the other -/

variable {order widths : List Nat} {excess i j : Nat}

/-- The first column gives what it has beyond four, as far as it is asked for. -/
theorem exists_narrow_cons (k : Nat) (order : List Nat) (excess : Nat) (widths : List Nat) :
    ∃ given, given = min (widthAt widths k - 4) excess ∧
      narrow (k :: order) excess widths =
        narrow order (excess - given) (widths.modify k (· - given)) :=
  ⟨_, rfl, rfl⟩

/-- No column is lost in narrowing. -/
@[simp] theorem length_narrow (order : List Nat) (excess : Nat) (widths : List Nat) :
    (narrow order excess widths).length = widths.length := by
  induction order generalizing excess widths with
  | nil => rfl
  | cons k order ih => rw [narrow, ih, List.length_modify]

/-- Without an excess nothing is taken. -/
theorem narrow_zero (order widths : List Nat) : narrow order 0 widths = widths := by
  induction order generalizing widths with
  | nil => rfl
  | cons k order ih =>
    have hsame : widths.modify k (· - 0) = widths := List.modify_id k widths
    rw [narrow, Nat.min_zero, Nat.sub_zero, hsame, ih]

/-- No column grows in narrowing. -/
theorem widthAt_narrow_le (order : List Nat) (excess : Nat) (widths : List Nat) (i : Nat) :
    widthAt (narrow order excess widths) i ≤ widthAt widths i := by
  induction order generalizing excess widths with
  | nil => exact Nat.le_refl _
  | cons k order ih =>
    obtain ⟨given, -, hnarrow⟩ := exists_narrow_cons k order excess widths
    rw [hnarrow]
    refine Nat.le_trans (ih _ _) ?_
    rw [widthAt_modify]
    exact Nat.sub_le _ _

/-- No column is narrowed to less than four characters. -/
theorem le_widthAt_narrow (order : List Nat) (excess : Nat) (widths : List Nat) (i : Nat) :
    min 4 (widthAt widths i) ≤ widthAt (narrow order excess widths) i := by
  induction order generalizing excess widths with
  | nil => exact Nat.min_le_right _ _
  | cons k order ih =>
    obtain ⟨given, hgiven, hnarrow⟩ := exists_narrow_cons k order excess widths
    rw [hnarrow]
    refine Nat.le_trans ?_ (ih _ _)
    rw [widthAt_modify]
    by_cases h : k = i
    · rw [if_pos h, ← h]
      omega
    · rw [if_neg h, Nat.sub_zero]

/-- Either the whole excess is taken, or no column that was asked has more than four left. -/
theorem narrow_exhausts (order : List Nat) (excess : Nat) (widths : List Nat) :
    (narrow order excess widths).sum + excess = widths.sum ∨
      ∀ i ∈ order, widthAt (narrow order excess widths) i ≤ 4 := by
  induction order generalizing excess widths with
  | nil => exact .inr fun i hi => absurd hi List.not_mem_nil
  | cons k order ih =>
    obtain ⟨given, hgiven, hnarrow⟩ := exists_narrow_cons k order excess widths
    have hsum := sum_modify (show given ≤ widthAt widths k by omega)
    rw [hnarrow]
    rcases ih (excess - given) (widths.modify k (· - given)) with htaken | hspent
    · left
      omega
    · by_cases hfull : widthAt widths k - 4 ≤ excess
      · right
        intro i hi
        rcases List.mem_cons.1 hi with rfl | hi
        · have hle := widthAt_narrow_le order (excess - given) (widths.modify i (· - given)) i
          rw [widthAt_modify, if_pos rfl] at hle
          omega
        · exact hspent i hi
      · -- the column had more to give than was asked for
        left
        have hnone : excess - given = 0 := by omega
        rw [hnone, narrow_zero]
        omega

/-- Where the widest columns are asked first, a column gives only when those that were wider have no
more than four left. -/
theorem narrow_widest_first (hnodup : order.Nodup)
    (hsorted : order.Pairwise fun a b => widthAt widths b ≤ widthAt widths a) (hj : j ∈ order)
    (hwider : widthAt widths i < widthAt widths j)
    (hnarrowed : widthAt (narrow order excess widths) i < widthAt widths i) :
    widthAt (narrow order excess widths) j ≤ 4 := by
  induction order generalizing excess widths with
  | nil => exact absurd hj List.not_mem_nil
  | cons k order ih =>
    obtain ⟨given, hgiven, hnarrow⟩ := exists_narrow_cons k order excess widths
    obtain ⟨hk, hnodup⟩ := List.nodup_cons.1 hnodup
    obtain ⟨hfirst, hsorted⟩ := List.pairwise_cons.1 hsorted
    -- a column that is wider than another one is not asked after it
    have hki : k ≠ i ∨ j = k := by
      by_contra! h
      obtain ⟨rfl, hjk⟩ := h
      have hle := hfirst j ((List.mem_cons.1 hj).resolve_left hjk)
      omega
    have hother : ∀ l, k ≠ l → widthAt (widths.modify k (· - given)) l = widthAt widths l := by
      intro l hl
      rw [widthAt_modify, if_neg hl, Nat.sub_zero]
    rw [hnarrow] at hnarrowed ⊢
    by_cases hfull : widthAt widths k - 4 ≤ excess
    · rcases List.mem_cons.1 hj with rfl | hj
      · have hle := widthAt_narrow_le order (excess - given) (widths.modify j (· - given)) j
        rw [widthAt_modify, if_pos rfl] at hle
        omega
      · have hkj : k ≠ j := fun h => hk (h ▸ hj)
        have hki := hki.resolve_right hkj.symm
        apply ih hnodup ?_ hj
        · rw [hother i hki, hother j hkj]
          exact hwider
        · rw [hother i hki]
          exact hnarrowed
        · refine hsorted.imp_of_mem ?_
          intro a b ha hb hab
          rw [hother a fun h => hk (h ▸ ha), hother b fun h => hk (h ▸ hb)]
          exact hab
    · -- the excess is gone, so only this one column was narrowed
      have hnone : excess - given = 0 := by omega
      rw [hnone, narrow_zero] at hnarrowed
      rcases hki with hki | rfl
      · rw [hother i hki] at hnarrowed
        omega
      · have hji : j ≠ i := by
          rintro rfl
          omega
        rw [hother i hji] at hnarrowed
        omega

/-! ## The order of the columns -/

/-- All columns are in the order, and nothing else is. -/
theorem mem_byWidth {widths : List Nat} {i : Nat} : i ∈ byWidth widths ↔ i < widths.length := by
  rw [byWidth, List.mem_mergeSort, List.mem_range]

/-- No column comes twice in the order. -/
theorem nodup_byWidth (widths : List Nat) : (byWidth widths).Nodup :=
  (List.mergeSort_perm _ _).nodup_iff.2 List.nodup_range

/-- Wider columns come first in the order. -/
theorem pairwise_byWidth (widths : List Nat) :
    (byWidth widths).Pairwise fun a b => widthAt widths b ≤ widthAt widths a := by
  have hsorted : (byWidth widths).Pairwise fun a b =>
      decide (widthAt widths b ≤ widthAt widths a) = true := by
    apply List.pairwise_mergeSort
    · intro a b c hab hbc
      rw [decide_eq_true_eq] at hab hbc ⊢
      exact Nat.le_trans hbc hab
    · intro a b
      rw [Bool.or_eq_true, decide_eq_true_eq, decide_eq_true_eq]
      exact Nat.le_total _ _
  simpa only [decide_eq_true_eq] using hsorted

/-! ## Widths on a terminal -/

/-- A table is as wide as its columns with two blanks between neighbours. -/
theorem totalWidth_eq (widths : List Nat) :
    totalWidth widths = widths.sum + (widths.length - 1) * 2 := by
  rw [totalWidth, List.sum_eq_foldl]
  rfl

/-- Columns that fit stay as they are. -/
theorem fittedWidths_of_le {width : Nat} (h : totalWidth widths ≤ width) :
    fittedWidths width widths = widths := by
  rw [fittedWidths, Nat.sub_eq_zero_of_le h, narrow_zero]

/-- No column is lost in fitting. -/
@[simp] theorem length_fittedWidths (width : Nat) (widths : List Nat) :
    (fittedWidths width widths).length = widths.length :=
  length_narrow _ _ _

/-- A bound on the width at every place is one on all widths. -/
theorem le_of_mem_of_widthAt_le {l : List Nat} {n : Nat} (h : ∀ i < l.length, widthAt l i ≤ n) :
    ∀ w ∈ l, w ≤ n := by
  intro w hw
  obtain ⟨i, hi, rfl⟩ := List.getElem_of_mem hw
  simpa [widthAt, hi] using h i hi

/-- On a terminal with room for four characters in every column the table fits. -/
theorem totalWidth_fittedWidths_le {width : Nat} (h : 6 * widths.length - 2 ≤ width) :
    totalWidth (fittedWidths width widths) ≤ width := by
  have htotal := totalWidth_eq widths
  have hfitted := totalWidth_eq (fittedWidths width widths)
  rw [length_fittedWidths] at hfitted
  rcases narrow_exhausts (byWidth widths) (totalWidth widths - width) widths with htaken | hspent
  · have hsum : (fittedWidths width widths).sum + (totalWidth widths - width) = widths.sum := htaken
    omega
  · have hfour : ∀ w ∈ fittedWidths width widths, w ≤ 4 := by
      apply le_of_mem_of_widthAt_le
      intro i hi
      rw [length_fittedWidths] at hi
      exact hspent i (mem_byWidth.2 hi)
    have hsum := List.sum_le_card_nsmul _ 4 hfour
    rw [length_fittedWidths, smul_eq_mul] at hsum
    omega

/-- A column is narrowed on a terminal only when every wider one has been narrowed to four. -/
theorem fittedWidths_widest_first {width : Nat}
    (hnarrowed : widthAt (fittedWidths width widths) i < widthAt widths i)
    (hwider : widthAt widths i < widthAt widths j) : widthAt (fittedWidths width widths) j = 4 := by
  have hj : j < widths.length := by
    by_contra hj
    rw [widthAt, widthAt, List.getElem?_eq_none (Nat.le_of_not_lt hj)] at hwider
    exact absurd hwider (Nat.not_lt_zero _)
  have hmost := narrow_widest_first (nodup_byWidth widths) (pairwise_byWidth widths)
    (mem_byWidth.2 hj) hwider hnarrowed
  have hleasti := le_widthAt_narrow (byWidth widths) (totalWidth widths - width) widths i
  have hleastj := le_widthAt_narrow (byWidth widths) (totalWidth widths - width) widths j
  unfold fittedWidths at hnarrowed ⊢
  omega

/-! ## Natural widths -/

/-- The cell of a row in a column, which is empty if the row ends before it. -/
def cellAt (cells : List (List Char)) (i : Nat) : List Char :=
  (cells[i]?).getD []

/-- A character in no cell is not in the cell at a place, there or not. -/
theorem not_mem_cellAt {cells : List (List Char)} {c : Char} (h : ∀ cell ∈ cells, c ∉ cell)
    (i : Nat) : c ∉ cellAt cells i := by
  rw [cellAt]
  cases hcell : cells[i]? with
  | none => exact List.not_mem_nil
  | some cell => exact h cell (List.mem_of_getElem? hcell)

/-- The length of the longest cell in a column. -/
def longest (table : List (List (List Char))) (i : Nat) : Nat :=
  (table.map fun cells => (cellAt cells i).length).foldr max 0

/-- The longest cell of a column is at least as long as any. -/
theorem length_cellAt_le {table : List (List (List Char))} {cells : List (List Char)}
    (h : cells ∈ table) (i : Nat) : (cellAt cells i).length ≤ longest table i := by
  induction table with
  | nil => exact absurd h List.not_mem_nil
  | cons r table ih =>
    have hcons : longest (r :: table) i = max (cellAt r i).length (longest table i) := rfl
    rw [hcons]
    rcases List.mem_cons.1 h with rfl | h
    · exact Nat.le_max_left _ _
    · exact Nat.le_trans (ih h) (Nat.le_max_right _ _)

/-- A column is widened to the cell of a row in it. -/
theorem getElem?_widen (widths : List Nat) (cells : List (List Char)) (i : Nat) :
    (widen widths cells)[i]? =
      (widths[i]?).map fun w => max w (Text.Ansi.width (cellAt cells i)) := by
  have hempty : Text.Ansi.width [] = 0 := by
    rw [Text.Ansi.width, Text.Ansi.visible]
    rfl
  induction widths generalizing cells i with
  | nil => cases cells <;> rfl
  | cons w widths ih =>
    cases cells with
    | nil => simp [widen, cellAt, hempty]
    | cons c cells =>
      cases i with
      | zero => rfl
      | succ i => exact ih cells i

/-- Without control sequences the columns are widened to the longest of their cells. -/
theorem getElem?_foldl_widen {rows : List (List (List Char))}
    (hplain : ∀ cells ∈ rows, ∀ cell ∈ cells, Text.Ansi.escape ∉ cell) (widths : List Nat)
    (i : Nat) :
    (rows.foldl widen widths)[i]? = (widths[i]?).map fun w => max w (longest rows i) := by
  induction rows generalizing widths with
  | nil =>
    have hnil : longest [] i = 0 := rfl
    simp [hnil]
  | cons cells rows ih =>
    have hcell := not_mem_cellAt (hplain cells List.mem_cons_self) i
    have hvisible : Text.Ansi.width (cellAt cells i) = (cellAt cells i).length := by
      rw [Text.Ansi.width, Text.Ansi.visible_of_not_mem hcell]
    rw [List.foldl_cons, ih fun r hr => hplain r (List.mem_cons_of_mem _ hr), getElem?_widen,
      hvisible, Option.map_map]
    refine congrArg (Option.map · widths[i]?) (funext fun w => ?_)
    exact Nat.max_assoc _ _ _

/-- A column is naturally as wide as its longest cell, that of the headers included. -/
theorem naturalWidths_eq {headers : List (List Char)} {rows : List (List (List Char))}
    (hplain : ∀ cells ∈ rows, ∀ cell ∈ cells, Text.Ansi.escape ∉ cell) :
    naturalWidths headers rows = (List.range headers.length).map (longest (headers :: rows)) := by
  apply List.ext_getElem?
  intro i
  rw [naturalWidths, getElem?_foldl_widen hplain, List.getElem?_map, List.getElem?_map]
  by_cases hi : i < headers.length
  · rw [List.getElem?_eq_getElem hi, List.getElem?_range hi]
    have hcell : cellAt headers i = headers[i] := by simp [cellAt, hi]
    show some (max headers[i].length (longest rows i)) = some (longest (headers :: rows) i)
    rw [← hcell]
    rfl
  · have hle := Nat.le_of_not_lt hi
    rw [List.getElem?_eq_none hle, List.getElem?_eq_none (by simpa using hle)]
    rfl

end ToolRelay.Console.Table
