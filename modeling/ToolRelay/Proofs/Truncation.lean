import ToolRelay.Proofs.Lines

/-!
# Cutting what was printed

What a program printed is cut to its first lines, which are put together again with line feeds
between them and none at the end. Read again they are the same lines unless a carriage return ends
one of them, where it now belongs to the line feed behind it, or the last one is empty, where it is
no line any more (`Text.lines_leading_eq_take_iff`). Cutting once more then counts other lines: that
cutting to several limits is cutting to the smallest holds for exactly the texts in which no cut can
meet either (`Text.leading_leading_iff`).
-/

set_option autoImplicit false

namespace ToolRelay

namespace Text

/-! ## Lines that are read again -/

/-- A line stays exactly if it does not end with a carriage return. -/
theorem dropReturn_eq_self_iff (l : List Char) : dropReturn l = l ↔ l.getLast? ≠ some '\r' := by
  unfold dropReturn
  split
  · next hlast =>
    refine iff_of_false (fun heq => ?_) fun hne => hne hlast
    obtain ⟨front, rfl⟩ := List.getLast?_eq_some_iff.1 hlast
    have hlength := congrArg List.length heq
    simp at hlength
  · next hlast => exact iff_of_true rfl hlast

/-- Lines stay exactly if none of them ends with a carriage return. -/
theorem map_dropReturn_eq_self_iff (ls : List (List Char)) :
    ls.map dropReturn = ls ↔ ∀ l ∈ ls, l.getLast? ≠ some '\r' := by
  induction ls with
  | nil => simp
  | cons l ls ih =>
    rw [List.map_cons, List.cons.injEq, dropReturn_eq_self_iff, ih, List.forall_mem_cons]

/-- Whether lines are the lines of the text that they are put together to: none but the last ends
with a carriage return, and the last is not empty. -/
def ReadBack (ls : List (List Char)) : Prop :=
  (∀ l ∈ ls.dropLast, l.getLast? ≠ some '\r') ∧ ls.getLast? ≠ some []

/-- Lines are read back as they are exactly if they can be. -/
theorem linesOfPieces_eq_self_iff (ls : List (List Char)) :
    linesOfPieces ls = ls ↔ ReadBack ls := by
  cases ls using List.reverseRecOn with
  | nil => simp [linesOfPieces, ReadBack]
  | append_singleton front last =>
    rw [linesOfPieces_concat, ReadBack, List.dropLast_concat, List.getLast?_concat]
    by_cases hlast : last = []
    · -- one line is lost
      rw [if_pos hlast]
      refine iff_of_false (fun heq => ?_) fun h => h.2 (congrArg some hlast)
      have hlength := congrArg List.length heq
      simp at hlength
    · rw [if_neg hlast, List.append_cancel_right_eq, map_dropReturn_eq_self_iff]
      exact ⟨fun h => ⟨h, fun heq => hlast (Option.some.inj heq)⟩, And.left⟩

/-! ## One cut -/

variable {m n : Nat} {s : String}

/-- A text with few enough lines stays. -/
theorem leading_of_length_le (h : (lines s.toList).length ≤ n) : leading n s = s :=
  if_neg (Nat.not_lt.2 h)

/-- Of a text with more lines the first are joined. -/
theorem toList_leading_of_lt (h : n < (lines s.toList).length) :
    (leading n s).toList = joinWith ['\n'] ((lines s.toList).take n) := by
  rw [leading, if_pos h, String.toList_ofList]

/-- There is no line feed in a line. -/
theorem not_mem_of_mem_take_lines {l : List Char} (h : l ∈ (lines s.toList).take n) : '\n' ∉ l :=
  not_mem_of_mem_lines (List.mem_of_mem_take h)

/-- The lines of what was cut off are read from the first lines. -/
theorem lines_leading_of_lt (h : n < (lines s.toList).length) :
    lines (leading n s).toList = linesOfPieces ((lines s.toList).take n) := by
  rw [toList_leading_of_lt h, lines_joinWith fun l hl => not_mem_of_mem_take_lines hl]

/-- After the cut there are no more lines than the limit. -/
theorem length_lines_leading_le (n : Nat) (s : String) :
    (lines (leading n s).toList).length ≤ n := by
  rcases Nat.lt_or_ge n (lines s.toList).length with h | h
  · rw [lines_leading_of_lt h]
    apply (length_linesOfPieces_le _).trans
    exact List.length_take_le n _
  · rw [leading_of_length_le h]
    exact h

/-- The lines of a text that was cut are the first lines of the text exactly if nothing is cut off
or those are read back. -/
theorem lines_leading_eq_take_iff (n : Nat) (s : String) :
    lines (leading n s).toList = (lines s.toList).take n ↔
      (lines s.toList).length ≤ n ∨ ReadBack ((lines s.toList).take n) := by
  rcases Nat.lt_or_ge n (lines s.toList).length with h | h
  · rw [lines_leading_of_lt h, linesOfPieces_eq_self_iff, or_iff_right (Nat.not_le.2 h)]
  · refine iff_of_true ?_ (.inl h)
    rw [leading_of_length_le h, List.take_of_length_le h]

/-! ## One cut after the other -/

/-- A limit behind a smaller one changes nothing. -/
theorem leading_leading_of_le (h : m ≤ n) (s : String) :
    leading n (leading m s) = leading m s :=
  leading_of_length_le ((length_lines_leading_le m s).trans h)

/-- Lines are told from what they are joined to. -/
theorem joinWith_inj {ps qs : List (List Char)} (hp : ps ≠ []) (hq : qs ≠ [])
    (hps : ∀ p ∈ ps, '\n' ∉ p) (hqs : ∀ q ∈ qs, '\n' ∉ q) :
    joinWith ['\n'] ps = joinWith ['\n'] qs ↔ ps = qs := by
  refine ⟨fun heq => ?_, fun heq => by rw [heq]⟩
  rw [← pieces_joinWith hp hps, heq, pieces_joinWith hq hqs]

/-- A text without lines is empty. -/
theorem eq_nil_of_lines_eq_nil {l : List Char} (h : lines l = []) : l = [] := by
  rw [← joinWith_pieces '\n' l]
  rw [lines] at h
  cases hpieces : pieces '\n' l using List.reverseRecOn with
  | nil => rfl
  | append_singleton front last =>
    rw [hpieces, linesOfPieces_concat, List.append_eq_nil_iff, List.map_eq_nil_iff] at h
    obtain ⟨rfl, hlast⟩ := h
    by_cases hempty : last = []
    · rw [hempty]
      rfl
    · rw [if_neg hempty] at hlast
      cases hlast

/-- Without lines nothing is left. -/
theorem leading_zero (s : String) : leading 0 s = "" := by
  rw [← String.toList_inj]
  rcases Nat.eq_zero_or_pos (lines s.toList).length with h | h
  · rw [leading_of_length_le h.le]
    exact eq_nil_of_lines_eq_nil (List.eq_nil_of_length_eq_zero h)
  · rw [toList_leading_of_lt h]
    rfl

/-- After the cut the lines are the first ones, without a blank one at the end. -/
theorem lines_leading_succ {k : Nat} (h : k + 1 < (lines s.toList).length) :
    lines (leading (k + 1) s).toList = ((lines s.toList).take k).map dropReturn ++
      if (lines s.toList)[k] = [] then [] else [(lines s.toList)[k]] := by
  rw [lines_leading_of_lt h, List.take_succ_eq_append_getElem (by omega), linesOfPieces_concat]

/-- There is a first line if there are lines. -/
theorem take_lines_ne_nil (hpos : 0 < n) (h : n ≤ (lines s.toList).length) :
    (lines s.toList).take n ≠ [] := by
  apply List.ne_nil_of_length_pos
  rw [List.length_take]
  omega

/-- A second cut to fewer lines leaves the text as it is only if the first one left an empty line at
the end. -/
theorem length_lines_leading_le_iff (hmn : n < m) (hm : m < (lines s.toList).length) :
    (lines (leading m s).toList).length ≤ n ↔ m = n + 1 ∧ (lines s.toList)[n]? = some [] := by
  obtain ⟨k, rfl⟩ : ∃ k, m = k + 1 := ⟨m - 1, by omega⟩
  rw [lines_leading_succ hm, List.length_append, List.length_map, List.length_take,
    Nat.min_eq_left (by omega), Nat.add_right_cancel_iff]
  constructor
  · intro h
    obtain rfl : k = n := by omega
    refine ⟨rfl, ?_⟩
    rw [List.getElem?_eq_getElem (by omega), Option.some_inj]
    by_contra hne
    rw [if_neg hne, List.length_singleton] at h
    omega
  · rintro ⟨rfl, hempty⟩
    rw [List.getElem?_eq_getElem (by omega), Option.some_inj] at hempty
    rw [if_pos hempty]
    exact le_rfl

/-- A second cut that leaves the text as it is leaves the line feed behind its last line. -/
theorem leading_leading_ne (hpos : 0 < n) (hmn : n < m) (hm : m < (lines s.toList).length)
    (hkept : (lines (leading m s).toList).length ≤ n) :
    leading n (leading m s) ≠ leading n s := by
  intro heq
  rw [leading_of_length_le hkept, ← String.toList_inj, toList_leading_of_lt hm,
    toList_leading_of_lt (hmn.trans hm), joinWith_inj (take_lines_ne_nil (by omega) hm.le)
      (take_lines_ne_nil hpos (by omega)) (fun l => not_mem_of_mem_take_lines)
      fun l => not_mem_of_mem_take_lines] at heq
  have hlength := congrArg List.length heq
  rw [List.length_take, List.length_take] at hlength
  omega

/-- A second cut that takes lines away gives what it gives alone if no line that is left may lose a
carriage return. -/
theorem leading_leading_eq_iff (hpos : 0 < n) (hmn : n < m) (hm : m < (lines s.toList).length)
    (hcut : n < (lines (leading m s).toList).length) :
    leading n (leading m s) = leading n s ↔
      ∀ l ∈ (lines s.toList).take n, l.getLast? ≠ some '\r' := by
  obtain ⟨k, rfl⟩ : ∃ k, m = k + 1 := ⟨m - 1, by omega⟩
  have hlines : (lines (leading (k + 1) s).toList).take n =
      ((lines s.toList).take n).map dropReturn := by
    rw [lines_leading_succ hm, List.take_append_of_le_length (by simp; omega), ← List.map_take,
      List.take_take, Nat.min_eq_left (by omega)]
  have hleft := take_lines_ne_nil hpos (hmn.trans hm).le
  have hfeeds : ∀ l ∈ ((lines s.toList).take n).map dropReturn, '\n' ∉ l := by
    intro l hl
    obtain ⟨line, hline, rfl⟩ := List.mem_map.1 hl
    exact fun hmem => not_mem_of_mem_take_lines hline (dropReturn_subset line hmem)
  rw [← String.toList_inj, toList_leading_of_lt hcut, toList_leading_of_lt (hmn.trans hm), hlines,
    joinWith_inj (by simpa using hleft) hleft hfeeds fun l => not_mem_of_mem_take_lines,
    map_dropReturn_eq_self_iff]

/-- When a second cut to fewer lines gives what it gives alone: no line that is left may lose a
carriage return, and the line behind them may not be an empty one that the first cut left over. -/
theorem leading_leading_of_lt_iff (hmn : n < m) (hm : m < (lines s.toList).length) :
    leading n (leading m s) = leading n s ↔
      n = 0 ∨ ((∀ l ∈ (lines s.toList).take n, l.getLast? ≠ some '\r') ∧
        (m = n + 1 → (lines s.toList)[n]? ≠ some [])) := by
  rcases Nat.eq_zero_or_pos n with rfl | hpos
  · exact iff_of_true (by rw [leading_zero, leading_zero]) (.inl rfl)
  rw [or_iff_right hpos.ne', ← not_and, ← length_lines_leading_le_iff hmn hm, Nat.not_le]
  rcases Nat.lt_or_ge n (lines (leading m s).toList).length with hcut | hkept
  · rw [leading_leading_eq_iff hpos hmn hm hcut, and_iff_left hcut]
  · exact iff_of_false (leading_leading_ne hpos hmn hm hkept) fun h => absurd h.2 (by omega)

/-- Whether no cut of some lines can meet a carriage return or an empty line: none with two more
behind it ends with a carriage return, and none between two others is empty. -/
structure Steady (ls : List (List Char)) : Prop where
  noReturn : ∀ i, ∀ h : i + 2 < ls.length, ls[i].getLast? ≠ some '\r'
  noBlank : ∀ i, 0 < i → ∀ h : i + 1 < ls.length, ls[i] ≠ []

/-- Two cuts come to the one to fewer lines for exactly the steady texts. -/
theorem leading_leading_iff (s : String) :
    (∀ m n, leading n (leading m s) = leading (min m n) s) ↔ Steady (lines s.toList) := by
  constructor
  · intro h
    have hcut : ∀ n m, n < m → m < (lines s.toList).length → n = 0 ∨
        ((∀ l ∈ (lines s.toList).take n, l.getLast? ≠ some '\r') ∧
          (m = n + 1 → (lines s.toList)[n]? ≠ some [])) := by
      intro n m hmn hm
      rw [← leading_leading_of_lt_iff hmn hm, h, Nat.min_eq_right hmn.le]
    constructor
    · intro i hi
      rcases hcut (i + 1) (i + 2) (by omega) hi with hzero | ⟨hreturn, -⟩
      · cases hzero
      · apply hreturn
        rw [List.mem_take_iff_getElem]
        exact ⟨i, by omega, rfl⟩
    · intro i hpos hi hblank
      rcases hcut i (i + 1) (by omega) hi with hzero | ⟨-, hempty⟩
      · omega
      · apply hempty rfl
        rw [List.getElem?_eq_getElem (by omega), hblank]
  · intro h m n
    rcases Nat.le_total m n with hmn | hnm
    · rw [leading_leading_of_le hmn, Nat.min_eq_left hmn]
    rw [Nat.min_eq_right hnm]
    rcases Nat.lt_or_ge m (lines s.toList).length with hm | hm
    · rcases hnm.eq_or_lt with rfl | hlt
      · exact leading_leading_of_le le_rfl s
      rw [leading_leading_of_lt_iff hlt hm]
      rcases Nat.eq_zero_or_pos n with hzero | hpos
      · exact .inl hzero
      right
      constructor
      · intro l hl
        obtain ⟨i, hi, rfl⟩ := List.mem_take_iff_getElem.1 hl
        exact h.noReturn i (by omega)
      · rintro rfl hblank
        rw [List.getElem?_eq_getElem (by omega), Option.some_inj] at hblank
        exact h.noBlank n hpos hm hblank
    · rw [leading_of_length_le hm]

/-! ## What no cut changes -/

/-- The entries of the first lines of a text that was cut are those of its own first lines. -/
theorem entries_take_lines_leading (n k : Nat) (s : String) :
    entries ((lines (leading n s).toList).take k) = entries ((lines s.toList).take (min n k)) := by
  rcases Nat.lt_or_ge n (lines s.toList).length with h | h
  · rw [lines_leading_of_lt h, entries_take_linesOfPieces, List.take_take, Nat.min_comm]
  · rw [leading_of_length_le h]
    congr 1
    rw [List.take_eq_take_iff]
    omega

/-- The text after cuts one after the other. -/
def leadingAll (limits : List Nat) (s : String) : String :=
  limits.foldl (fun t n => leading n t) s

/-- After any cuts the first entries are those of the least limit. -/
theorem entries_take_lines_leadingAll (limits : List Nat) (k : Nat) (s : String) :
    entries ((lines (leadingAll limits s).toList).take k) =
      entries ((lines s.toList).take (limits.foldl min k)) := by
  induction limits generalizing s with
  | nil => rfl
  | cons n limits ih =>
    have hmin : (n :: limits).foldl min k = min n (limits.foldl min k) := by
      rw [List.foldl_cons, Nat.min_comm, List.foldl_assoc]
    rw [hmin, ← entries_take_lines_leading, ← ih]
    rfl

/-- Whatever is lost by cuts, the entries are those of the smallest limit. -/
theorem entries_lines_leadingAll (limits : List Nat) (s : String) :
    entries (lines (leadingAll limits s).toList) =
      entries (limits.min?.elim (lines s.toList) fun n => (lines s.toList).take n) := by
  obtain ⟨k, hk, hk'⟩ : ∃ k, (lines (leadingAll limits s).toList).length ≤ k ∧
      (lines s.toList).length ≤ k := ⟨_, le_max_left _ _, le_max_right _ _⟩
  have htake := entries_take_lines_leadingAll limits k s
  rw [List.take_of_length_le hk, List.foldl_min] at htake
  rw [htake]
  congr 1
  cases limits.min? with
  | none => exact List.take_of_length_le (by simpa using hk')
  | some n =>
    show (lines s.toList).take (min k n) = (lines s.toList).take n
    rw [List.take_eq_take_iff]
    omega

end Text

/-! ## Payloads -/

namespace Payload

/-- The payload after cuts one after the other. -/
def truncateAll (limits : List Nat) (payload : Payload) : Payload :=
  limits.foldl (fun p n => p.truncate n) payload

/-- The payload after one cut to the smallest limit, if there is a limit. -/
def truncateLeast (limits : List Nat) (payload : Payload) : Payload :=
  limits.min?.elim payload fun n => payload.truncate n

/-- Whether no cut of a payload can meet a line that is read again as another or as none. -/
def Steady : Payload → Prop
  | .output o => Text.Steady (Text.lines o.stdout.toList)
  | .records _ => True

/-- Of an output each cut concerns what was printed, not the errors. -/
theorem truncateAll_output (limits : List Nat) (o : CommandOutput) :
    truncateAll limits (.output o) = .output ⟨Text.leadingAll limits o.stdout, o.stderr⟩ := by
  induction limits generalizing o with
  | nil => rfl
  | cons n limits ih => exact ih ⟨Text.leading n o.stdout, o.stderr⟩

/-- Two cuts come to the smaller one for exactly the steady payloads. -/
theorem truncate_truncate_iff (payload : Payload) :
    (∀ m n, (payload.truncate m).truncate n = payload.truncate (min m n)) ↔ payload.Steady := by
  cases payload with
  | output o =>
    rw [Steady, ← Text.leading_leading_iff]
    simp [truncate]
  | records rs =>
    refine iff_of_true (fun m n => ?_) trivial
    simp only [truncate, List.take_take, Nat.min_comm]

/-- If two cuts come to the smaller one, any number of cuts comes to the smallest. -/
theorem foldl_truncate {payload : Payload}
    (h : ∀ m n, (payload.truncate m).truncate n = payload.truncate (min m n)) (limits : List Nat)
    (m : Nat) : truncateAll limits (payload.truncate m) = payload.truncate (limits.foldl min m) := by
  induction limits generalizing m with
  | nil => rfl
  | cons n limits ih =>
    have hstep : truncateAll (n :: limits) (payload.truncate m) =
        truncateAll limits ((payload.truncate m).truncate n) := rfl
    rw [hstep, h, ih, List.foldl_cons]

/-- A payload is cut to the least limit by any limits exactly if it is steady. -/
theorem truncateAll_eq_iff (payload : Payload) :
    (∀ limits, payload.truncateAll limits = payload.truncateLeast limits) ↔ payload.Steady := by
  rw [← truncate_truncate_iff]
  constructor
  · intro h m n
    exact h [m, n]
  · intro h limits
    cases limits with
    | nil => rfl
    | cons m limits =>
      rw [truncateLeast, List.min?_cons']
      exact foldl_truncate h limits m

/-- **A cut keeps the first lines.** A program's output that has more lines than the limit is cut to
the first of them, put together with line feeds, and what it reported as errors stays; records are
cut to the first of them. There are never more lines than the limit, and they are those lines unless
one before the last of them ends with a carriage return or the last is empty. Cuts one after the
other are the same as the one to the smallest limit for all lists of limits exactly if the payload
is steady; in any case the entries are the same. -/
theorem truncate_keeps_leading :
    (∀ (o : CommandOutput) (n : Nat), ∃ s, (output o).truncate n = output ⟨s, o.stderr⟩ ∧
      ((Text.lines o.stdout.toList).length ≤ n → s = o.stdout) ∧
      (n < (Text.lines o.stdout.toList).length →
        s.toList = Text.joinWith ['\n'] ((Text.lines o.stdout.toList).take n)) ∧
      (Text.lines s.toList).length ≤ n ∧
      (Text.lines s.toList = (Text.lines o.stdout.toList).take n ↔
        (Text.lines o.stdout.toList).length ≤ n ∨
          Text.ReadBack ((Text.lines o.stdout.toList).take n))) ∧
    (∀ rs n, (records rs).truncate n = records (rs.take n)) ∧
    (∀ payload : Payload,
      (∀ limits, payload.truncateAll limits = payload.truncateLeast limits) ↔ payload.Steady) ∧
    ∀ (o : CommandOutput) (limits : List Nat), ∃ s,
      truncateAll limits (output o) = output ⟨s, o.stderr⟩ ∧
      Text.entries (Text.lines s.toList) =
        Text.entries (limits.min?.elim (Text.lines o.stdout.toList)
          fun n => (Text.lines o.stdout.toList).take n) := by
  refine ⟨fun o n => ?_, fun rs n => rfl, truncateAll_eq_iff, fun o limits => ?_⟩
  · exact ⟨Text.leading n o.stdout, rfl, Text.leading_of_length_le, Text.toList_leading_of_lt,
      Text.length_lines_leading_le n o.stdout, Text.lines_leading_eq_take_iff n o.stdout⟩
  · exact ⟨_, truncateAll_output limits o, Text.entries_lines_leadingAll limits o.stdout⟩

/-- An empty line at the cut is no line of what is left, and the line feed in front of it stays even
if the line is cut off afterwards. -/
theorem truncate_blank_at_cut :
    Text.lines (Text.leading 2 "a\n\nb").toList ≠ (Text.lines "a\n\nb".toList).take 2 ∧
      truncateAll [2, 1] (output ⟨"a\n\nb", ""⟩) = output ⟨"a\n", ""⟩ ∧
      truncateLeast [2, 1] (output ⟨"a\n\nb", ""⟩) = output ⟨"a", ""⟩ := by
  decide

end Payload
end ToolRelay
