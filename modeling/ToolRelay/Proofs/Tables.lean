import ToolRelay.Proofs.Columns
import ToolRelay.Proofs.Trimming

/-!
# Tables fit the terminal

A cell takes exactly the width of its column, whether it is filled up or clipped: a column that was
narrowed still has room for the ellipsis. So every line is laid out over the total width of the
columns, and what is trimmed at its end is white space. The offset at which a cell begins is the
same in every row, which is what makes the columns of a table columns (`Shows`).
-/

set_option autoImplicit false

namespace ToolRelay.Text

/-- Between two pieces stands the separator. -/
theorem joinWith_cons_cons (sep p q : List Char) (qs : List (List Char)) :
    joinWith sep (p :: q :: qs) = p ++ sep ++ joinWith sep (q :: qs) := rfl

/-- A joined text is as long as its pieces with the separators between them. -/
theorem length_joinWith (sep : List Char) (ps : List (List Char)) :
    (joinWith sep ps).length = (ps.map List.length).sum + (ps.length - 1) * sep.length := by
  induction ps with
  | nil => simp [joinWith]
  | cons p ps ih =>
    cases ps with
    | nil => simp [joinWith]
    | cons q qs =>
      have hgaps : ((p :: q :: qs).length - 1) * sep.length =
          ((q :: qs).length - 1) * sep.length + sep.length := by
        simp only [List.length_cons, Nat.add_sub_cancel]
        exact Nat.succ_mul _ _
      have hsum : ((p :: q :: qs).map List.length).sum =
          p.length + ((q :: qs).map List.length).sum := List.sum_cons
      rw [joinWith_cons_cons, List.length_append, List.length_append, ih, hgaps, hsum]
      omega

/-- Between the pieces there is one separator less than there are pieces. -/
theorem count_joinWith {sep : Char} {ps : List (List Char)} (hne : ps ≠ [])
    (h : ∀ p ∈ ps, sep ∉ p) : (joinWith [sep] ps).count sep + 1 = ps.length := by
  induction ps with
  | nil => exact absurd rfl hne
  | cons p ps ih =>
    have hp : p.count sep = 0 := List.count_eq_zero.2 (h p List.mem_cons_self)
    cases ps with
    | nil => rw [joinWith, hp, List.length_singleton]
    | cons q qs =>
      have hrest := ih (List.cons_ne_nil q qs) fun r hr => h r (List.mem_cons_of_mem _ hr)
      rw [joinWith_cons_cons, List.count_append, List.count_append, hp, List.count_singleton_self,
        List.length_cons, ← hrest]
      omega

end ToolRelay.Text

namespace ToolRelay.Console.Table

open Text.Ansi (escape)

variable {widths : List Nat} {cells : List (List Char)} {cell : List Char} {i w : Nat}

/-! ## A cell in its column -/

/-- A cell that fits is filled up. -/
theorem fit_of_le (hplain : escape ∉ cell) (h : cell.length ≤ w) :
    fit w cell = cell ++ List.replicate (w - cell.length) ' ' := by
  rw [fit, Text.Ansi.visible_of_not_mem hplain]
  exact if_pos h

/-- A cell that does not fit is clipped. -/
theorem fit_of_lt (hplain : escape ∉ cell) (h : w < cell.length) :
    fit w cell = Text.clip w cell := by
  rw [fit, Text.Ansi.visible_of_not_mem hplain]
  exact if_neg (Nat.not_le_of_lt h)

/-- Nothing stands in front of what is shown of a cell. -/
theorem clip_prefix_fit (hplain : escape ∉ cell) : Text.clip w cell <+: fit w cell := by
  by_cases hle : cell.length ≤ w
  · rw [Text.clip_of_le hle, fit_of_le hplain hle]
    exact List.prefix_append _ _
  · have hfit := fit_of_lt hplain (Nat.lt_of_not_le hle)
    exact hfit ▸ List.prefix_rfl

/-- A cell takes the width of its column, where it fits or there is room for the ellipsis. -/
theorem length_fit (hplain : escape ∉ cell) (h : cell.length ≤ w ∨ 3 ≤ w) :
    (fit w cell).length = w := by
  by_cases hle : cell.length ≤ w
  · rw [fit_of_le hplain hle, List.length_append, List.length_replicate]
    omega
  · have hdots : Text.ellipsis.length = 3 := rfl
    rw [fit_of_lt hplain (Nat.lt_of_not_le hle), Text.clip_of_lt (Nat.lt_of_not_le hle),
      List.length_append, List.length_take, hdots]
    omega

/-- Nothing but spaces and dots is added to a cell. -/
theorem of_mem_fit (hplain : escape ∉ cell) {c : Char} (h : c ∈ fit w cell) :
    c ∈ cell ∨ c = ' ' ∨ c = '.' := by
  by_cases hle : cell.length ≤ w
  · rw [fit_of_le hplain hle] at h
    rcases List.mem_append.1 h with h | h
    · exact .inl h
    · exact .inr (.inl (List.eq_of_mem_replicate h))
  · rw [fit_of_lt hplain (Nat.lt_of_not_le hle)] at h
    exact (Text.of_mem_clip h).imp_right .inr

/-! ## The lines -/

/-- Whether no cell of a row holds a line feed or an escape character. -/
def IsPlain (cells : List (List Char)) : Prop :=
  ∀ cell ∈ cells, '\n' ∉ cell ∧ escape ∉ cell

/-- Whether every cell of a row fits its column or can be clipped to it. -/
def Fits (widths : List Nat) (cells : List (List Char)) : Prop :=
  ∀ i < widths.length, (cellAt cells i).length ≤ widthAt widths i ∨ 3 ≤ widthAt widths i

/-- No cell of a plain row has a line feed in it. -/
theorem IsPlain.feed_not_mem (h : IsPlain cells) (i : Nat) : '\n' ∉ cellAt cells i :=
  not_mem_cellAt (fun cell hcell => (h cell hcell).1) i

/-- No cell of a plain row has an escape in it. -/
theorem IsPlain.escape_not_mem (h : IsPlain cells) (i : Nat) : escape ∉ cellAt cells i :=
  not_mem_cellAt (fun cell hcell => (h cell hcell).2) i

/-- The cell at a place is fitted to the width there. -/
theorem getElem?_fitCells (widths : List Nat) (cells : List (List Char)) (i : Nat) :
    (fitCells widths cells)[i]? = (widths[i]?).map fun w => fit w (cellAt cells i) := by
  induction widths generalizing cells i with
  | nil => rfl
  | cons w widths ih =>
    cases cells with
    | nil =>
      cases i with
      | zero => rfl
      | succ i => exact ih [] i
    | cons c cells =>
      cases i with
      | zero => rfl
      | succ i => exact ih cells i

/-- A width inside the list is the one at its place. -/
theorem getElem?_widths (h : i < widths.length) : widths[i]? = some (widthAt widths i) := by
  rw [widthAt, List.getElem?_eq_getElem h]
  rfl

/-- Fitted plain cells have the widths. -/
theorem map_length_fitCells (hplain : IsPlain cells) (hfits : Fits widths cells) :
    (fitCells widths cells).map List.length = widths := by
  apply List.ext_getElem?
  intro i
  rw [List.getElem?_map, getElem?_fitCells]
  by_cases hi : i < widths.length
  · rw [getElem?_widths hi]
    exact congrArg some (length_fit (hplain.escape_not_mem i) (hfits i hi))
  · rw [List.getElem?_eq_none (Nat.le_of_not_lt hi)]
    rfl

/-- Joined cells are as wide as the table. -/
theorem length_joinWith_gap {ps : List (List Char)} (h : ps.map List.length = widths) :
    (Text.joinWith gap ps).length = totalWidth widths := by
  have hlength : ps.length = widths.length := by rw [← h, List.length_map]
  rw [Text.length_joinWith, h, hlength, totalWidth_eq]
  rfl

/-- A row is no longer than the table is wide. -/
theorem length_row_le (hplain : IsPlain cells) (hfits : Fits widths cells) :
    (row widths cells).length ≤ totalWidth widths := by
  obtain ⟨blank, hblank, -⟩ := Text.exists_trimEnd (Text.joinWith gap (fitCells widths cells))
  rw [← length_joinWith_gap (map_length_fitCells hplain hfits), ← hblank, List.length_append]
  exact Nat.le_add_right _ _

/-- The rule is as long as the table is wide. -/
theorem length_rule (widths : List Nat) : (rule widths).length = totalWidth widths := by
  apply length_joinWith_gap
  rw [List.map_map]
  exact List.map_id'' (fun w => List.length_replicate) widths

/-- Nothing but spaces and dots is added to the cells of a row. -/
theorem of_mem_row (hplain : ∀ i, escape ∉ cellAt cells i) {c : Char} (h : c ∈ row widths cells) :
    (∃ i, c ∈ cellAt cells i) ∨ c = ' ' ∨ c = '.' := by
  obtain ⟨blank, hblank, -⟩ := Text.exists_trimEnd (Text.joinWith gap (fitCells widths cells))
  have hline : c ∈ Text.joinWith gap (fitCells widths cells) := by
    rw [← hblank]
    exact List.mem_append_left _ h
  rcases Text.of_mem_joinWith hline with hgap | ⟨p, hp, hc⟩
  · exact .inr (.inl (by simpa [gap] using hgap))
  · obtain ⟨i, hi⟩ := List.getElem?_of_mem hp
    rw [getElem?_fitCells] at hi
    obtain ⟨w, -, rfl⟩ := Option.map_eq_some_iff.1 hi
    exact (of_mem_fit (hplain i) hc).imp_left fun hcell => ⟨i, hcell⟩

/-- The rule consists of dashes and blanks. -/
theorem of_mem_rule {c : Char} (h : c ∈ rule widths) : c = ' ' ∨ c = '-' := by
  rcases Text.of_mem_joinWith h with hgap | ⟨p, hp, hc⟩
  · exact .inl (by simpa [gap] using hgap)
  · obtain ⟨w, -, rfl⟩ := List.mem_map.1 hp
    exact .inr (List.eq_of_mem_replicate hc)

/-- There is no line feed in a row of plain cells. -/
theorem feed_not_mem_row (hplain : IsPlain cells) : '\n' ∉ row widths cells := by
  intro h
  rcases of_mem_row hplain.escape_not_mem h with ⟨i, hi⟩ | hspace | hdot
  · exact hplain.feed_not_mem i hi
  · exact absurd hspace (by decide)
  · exact absurd hdot (by decide)

/-- There is no line feed in the rule. -/
theorem feed_not_mem_rule (widths : List Nat) : '\n' ∉ rule widths := fun h =>
  absurd (of_mem_rule h) (by decide)

/-! ## Where a cell begins -/

/-- Where a column begins: behind the columns before it and the gaps that follow them. -/
def offset (widths : List Nat) (i : Nat) : Nat :=
  ((widths.take i).map (· + 2)).sum

/-- What is left of the cells of a row in columns of these widths. -/
def clipped (widths : List Nat) (cells : List (List Char)) : List (List Char) :=
  (List.range widths.length).map fun i => Text.clip (widthAt widths i) (cellAt cells i)

/-- Whether a line shows every cell of a row in full where its column begins; the white space at the
end of the line may be missing. -/
def Shows (widths : List Nat) (cells : List (List Char)) (line : List Char) : Prop :=
  ∃ blank, Text.IsSpace blank ∧
    ∀ i < widths.length, cellAt cells i <+: (line ++ blank).drop (offset widths i)

/-- Each cell begins at the offset of its column. -/
theorem prefix_drop_offset {ps : List (List Char)} {p : List Char} (h : ps[i]? = some p) :
    p <+: (Text.joinWith gap ps).drop (offset (ps.map List.length) i) := by
  induction ps generalizing i with
  | nil => exact absurd h (by simp)
  | cons q ps ih =>
    cases i with
    | zero =>
      obtain rfl : q = p := by simpa using h
      cases ps with
      | nil => exact List.prefix_rfl
      | cons r ps =>
        show q <+: q ++ gap ++ Text.joinWith gap (r :: ps)
        rw [List.append_assoc]
        exact List.prefix_append _ _
    | succ i =>
      rw [List.getElem?_cons_succ] at h
      cases ps with
      | nil => exact absurd h (by simp)
      | cons r ps =>
        have hoffset : offset ((q :: r :: ps).map List.length) (i + 1) =
            (q ++ gap).length + offset ((r :: ps).map List.length) i := by
          rw [List.length_append]
          rfl
        rw [hoffset, Text.joinWith_cons_cons, List.drop_append,
          List.drop_of_length_le (Nat.le_add_right _ _), Nat.add_sub_cancel_left, List.nil_append]
        exact ih h

/-- A clipped cell is the cell clipped to the width of its column. -/
theorem cellAt_clipped (h : i < widths.length) :
    cellAt (clipped widths cells) i = Text.clip (widthAt widths i) (cellAt cells i) := by
  rw [clipped, cellAt, List.getElem?_map, List.getElem?_range h]
  rfl

/-- Of every cell is shown what is left of it. -/
theorem shows_row (hplain : IsPlain cells) (hfits : Fits widths cells) :
    Shows widths (clipped widths cells) (row widths cells) := by
  obtain ⟨blank, hblank, hspace⟩ := Text.exists_trimEnd (Text.joinWith gap (fitCells widths cells))
  refine ⟨blank, hspace, ?_⟩
  intro i hi
  have hcell : (fitCells widths cells)[i]? = some (fit (widthAt widths i) (cellAt cells i)) := by
    rw [getElem?_fitCells, getElem?_widths hi]
    rfl
  have hbegins := prefix_drop_offset hcell
  rw [map_length_fitCells hplain hfits] at hbegins
  rw [cellAt_clipped hi, row, hblank]
  exact (clip_prefix_fit (hplain.escape_not_mem i)).trans hbegins

/-- Where no cell of a row is longer than its column, nothing is clipped. -/
theorem Shows.of_le {line : List Char} (h : Shows widths (clipped widths cells) line)
    (hle : ∀ i < widths.length, (cellAt cells i).length ≤ widthAt widths i) :
    Shows widths cells line := by
  obtain ⟨blank, hspace, hbegins⟩ := h
  refine ⟨blank, hspace, ?_⟩
  intro i hi
  have hcell := hbegins i hi
  rwa [cellAt_clipped hi, Text.clip_of_le (hle i hi)] at hcell

/-! ## The columns of a table -/

/-- The widths of the columns of a table on a terminal. -/
def shownWidths (headers : List (List Char)) (rows : List (List (List Char))) (width : Nat) :
    List Nat :=
  fittedWidths width (naturalWidths headers rows)

section Columns

variable {headers : List (List Char)} {rows : List (List (List Char))} {width j : Nat}
  (hplain : ∀ cells ∈ headers :: rows, IsPlain cells)

include hplain

/-- The natural widths are those of the longest cells. -/
theorem naturalWidths_eq_longest :
    naturalWidths headers rows = (List.range headers.length).map (longest (headers :: rows)) :=
  naturalWidths_eq fun r hr cell hcell => (hplain r (List.mem_cons_of_mem _ hr) cell hcell).2

/-- The natural width of a column is that of its longest cell. -/
theorem widthAt_naturalWidths (hi : i < headers.length) :
    widthAt (naturalWidths headers rows) i = longest (headers :: rows) i := by
  rw [naturalWidths_eq_longest hplain, widthAt, List.getElem?_map, List.getElem?_range hi]
  rfl

/-- Every column has a natural width. -/
theorem length_naturalWidths : (naturalWidths headers rows).length = headers.length := by
  rw [naturalWidths_eq_longest hplain, List.length_map, List.length_range]

/-- Every column has a width that is shown. -/
theorem length_shownWidths : (shownWidths headers rows width).length = headers.length := by
  rw [shownWidths, length_fittedWidths, length_naturalWidths hplain]

/-- A column that was narrowed has room for the ellipsis, so every cell can be clipped to it. -/
theorem fits_shownWidths (h : cells ∈ headers :: rows) :
    Fits (shownWidths headers rows width) cells := by
  intro i hi
  rw [length_shownWidths hplain] at hi
  have hleast := le_widthAt_narrow (byWidth (naturalWidths headers rows))
    (totalWidth (naturalWidths headers rows) - width) (naturalWidths headers rows) i
  rw [widthAt_naturalWidths hplain hi] at hleast
  have hlongest := length_cellAt_le h i
  unfold shownWidths fittedWidths
  omega

/-- A table fits where there is room for the least widths. -/
theorem totalWidth_shownWidths_le (hwidth : 6 * headers.length - 2 ≤ width) :
    totalWidth (shownWidths headers rows width) ≤ width := by
  apply totalWidth_fittedWidths_le
  rwa [length_naturalWidths hplain]

/-- No line holds a line feed, and none is wider than the columns. -/
theorem of_mem_lines {line : List Char} (h : line ∈ lines headers rows ⟨false, width⟩) :
    '\n' ∉ line ∧ line.length ≤ totalWidth (shownWidths headers rows width) := by
  have hrow : ∀ cells ∈ headers :: rows, '\n' ∉ row (shownWidths headers rows width) cells ∧
      (row (shownWidths headers rows width) cells).length ≤
        totalWidth (shownWidths headers rows width) := by
    intro cells hcells
    exact ⟨feed_not_mem_row (hplain cells hcells),
      length_row_le (hplain cells hcells) (fits_shownWidths hplain hcells)⟩
  rcases List.mem_cons.1 h with rfl | h
  · exact hrow headers List.mem_cons_self
  · rcases List.mem_cons.1 h with rfl | h
    · exact ⟨feed_not_mem_rule _, Nat.le_of_eq (length_rule _)⟩
    · obtain ⟨r, hr, rfl⟩ := List.mem_map.1 h
      exact hrow r (List.mem_cons_of_mem _ hr)

/-- Every row is shown, as far as its columns go. -/
theorem forall₂_shows_clipped :
    List.Forall₂ (fun cells => Shows (shownWidths headers rows width)
        (clipped (shownWidths headers rows width) cells)) (headers :: rows)
      ((headers :: rows).map (row (shownWidths headers rows width))) := by
  rw [List.forall₂_map_right_iff, List.forall₂_same]
  intro cells hcells
  exact shows_row (hplain cells hcells) (fits_shownWidths hplain hcells)

/-- Where the longest cells fit next to each other, every row is shown in full. -/
theorem forall₂_shows (hroom : ((List.range headers.length).map (longest (headers :: rows))).sum +
      2 * (headers.length - 1) ≤ width) :
    List.Forall₂ (Shows (shownWidths headers rows width)) (headers :: rows)
      ((headers :: rows).map (row (shownWidths headers rows width))) := by
  have hnatural : shownWidths headers rows width = naturalWidths headers rows := by
    apply fittedWidths_of_le
    rw [totalWidth_eq, length_naturalWidths hplain, naturalWidths_eq_longest hplain,
      Nat.mul_comm _ 2]
    exact hroom
  rw [List.forall₂_map_right_iff, List.forall₂_same]
  intro cells hcells
  apply (shows_row (hplain cells hcells) (fits_shownWidths hplain hcells)).of_le
  intro i hi
  rw [length_shownWidths hplain] at hi
  rw [hnatural, widthAt_naturalWidths hplain hi]
  exact length_cellAt_le hcells i

/-- A column is narrowed only if four characters are left of every column with a longer cell. -/
theorem widthAt_eq_four (hi : i < headers.length) (hj : j < headers.length)
    (hnarrowed : widthAt (shownWidths headers rows width) i < longest (headers :: rows) i)
    (hlonger : longest (headers :: rows) i < longest (headers :: rows) j) :
    widthAt (shownWidths headers rows width) j = 4 := by
  rw [← widthAt_naturalWidths hplain hi] at hnarrowed hlonger
  rw [← widthAt_naturalWidths hplain hj] at hlonger
  exact fittedWidths_widest_first hnarrowed hlonger

end Columns
end ToolRelay.Console.Table

/-! ## The table on a terminal -/

namespace ToolRelay.Console

open Table

/-- The texts of a table, the headers first. -/
def Table.grid (headers : List String) (rows : List (List String)) : List (List (List Char)) :=
  (headers :: rows).map (·.map String.toList)

section Terminal

variable {headers : List String} {rows : List (List String)} {width : Nat}

/-- A table is written as its lines with line feeds in between. -/
theorem toList_table (hne : headers ≠ []) (s : Style) :
    (table headers rows s).toList = Text.joinWith ['\n']
      (lines (headers.map String.toList) (rows.map (·.map String.toList)) s) := by
  have hsome : headers.isEmpty = false := by simpa using hne
  rw [table, hsome]
  exact String.toList_ofList

/-- A table without colours on a terminal that has room for four characters in every column. It has
a line for the headers, one for the dashes and one for each row, none of them wider than the
terminal. What is left of a cell in its column stands in each row where the column begins, and where
the longest cells of the columns fit next to each other, that is the cell in full. Where they do
not, a column is narrower than its longest cell only if four characters are left of every column
with a longer one. -/
theorem table_fits_terminal (hne : headers ≠ [])
    (hplain : ∀ cells ∈ grid headers rows, IsPlain cells)
    (hwidth : 6 * headers.length - 2 ≤ width) :
    (table headers rows ⟨false, width⟩).toList.count '\n' = rows.length + 1 ∧
      (∀ line ∈ Text.pieces '\n' (table headers rows ⟨false, width⟩).toList,
        line.length ≤ width) ∧
      ∃ widths header body, widths.length = headers.length ∧
        Text.pieces '\n' (table headers rows ⟨false, width⟩).toList =
          header :: rule widths :: body ∧
        List.Forall₂ (fun cells => Shows widths (clipped widths cells)) (grid headers rows)
          (header :: body) ∧
        (((List.range headers.length).map (longest (grid headers rows))).sum +
            2 * (headers.length - 1) ≤ width →
          List.Forall₂ (Shows widths) (grid headers rows) (header :: body)) ∧
        ∀ i < headers.length, ∀ j < headers.length,
          widthAt widths i < longest (grid headers rows) i →
            longest (grid headers rows) i < longest (grid headers rows) j →
              widthAt widths j = 4 := by
  obtain ⟨titles, htitles⟩ : ∃ titles, titles = headers.map String.toList := ⟨_, rfl⟩
  obtain ⟨texts, htexts⟩ : ∃ texts, texts = rows.map (·.map String.toList) := ⟨_, rfl⟩
  have hgrid : grid headers rows = titles :: texts := by
    rw [htitles, htexts]
    rfl
  have htable : (table headers rows ⟨false, width⟩).toList =
      Text.joinWith ['\n'] (lines titles texts ⟨false, width⟩) := by
    rw [toList_table hne, htitles, htexts]
  have hcolumns : headers.length = titles.length := by rw [htitles, List.length_map]
  have hlines : (lines titles texts ⟨false, width⟩).length = rows.length + 2 := by
    simp [lines, htexts]
  rw [hgrid] at hplain
  rw [hcolumns] at hwidth
  rw [hgrid, htable, hcolumns]
  have hfeeds : ∀ line ∈ lines titles texts ⟨false, width⟩, '\n' ∉ line :=
    fun line hline => (of_mem_lines hplain hline).1
  have hsome : lines titles texts ⟨false, width⟩ ≠ [] := List.cons_ne_nil _ _
  rw [Text.pieces_joinWith hsome hfeeds]
  refine ⟨?_, ?_, shownWidths titles texts width, _, _, length_shownWidths hplain, rfl,
    forall₂_shows_clipped hplain, forall₂_shows hplain, ?_⟩
  · have hcount := Text.count_joinWith hsome hfeeds
    omega
  · intro line hline
    exact Nat.le_trans (of_mem_lines hplain hline).2 (totalWidth_shownWidths_le hplain hwidth)
  · intro i hi j hj
    exact widthAt_eq_four hplain hi hj

/-- Seventeen characters do not fit ten, and no line is wider for it. -/
theorem table_fits_terminal_narrowed :
    (table ["NAME", "DESCRIPTION"] [["a"], ["b", "c", "d"]] ⟨false, 10⟩).toList.count '\n' = 3 ∧
      ∀ line ∈ Text.pieces '\n'
        (table ["NAME", "DESCRIPTION"] [["a"], ["b", "c", "d"]] ⟨false, 10⟩).toList,
        line.length ≤ 10 := by
  have hplain : ∀ cells ∈ grid ["NAME", "DESCRIPTION"] [["a"], ["b", "c", "d"]], IsPlain cells := by
    unfold IsPlain
    decide
  have hfits := table_fits_terminal (by decide) hplain (Nat.le_refl 10)
  exact ⟨hfits.1, hfits.2.1⟩

end Terminal
end ToolRelay.Console
