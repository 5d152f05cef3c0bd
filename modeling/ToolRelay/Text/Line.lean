/-!
# Lines and pieces of a text

A line ends at a line feed; one carriage return before the line feed belongs to the line's end,
and a text that ends with a line feed has no further empty line after it. `leading` keeps the
first lines of a text, and leaves a text that has no more than those lines as it stands.
-/

set_option autoImplicit false

namespace ToolRelay.Text

/-- The pieces of a text between the occurrences of `sep`; one more than there are of those. -/
def pieces (sep : Char) : List Char → List (List Char)
  | [] => [[]]
  | c :: r =>
    if c = sep then [] :: pieces sep r
    else match pieces sep r with
      | [] => [[c]]
      | p :: ps => (c :: p) :: ps

/-- A line without the carriage return that ends it, if one does. -/
def dropReturn (l : List Char) : List Char :=
  if l.getLast? = some '\r' then l.dropLast else l

/-- The lines among the pieces between line feeds: the last piece ends with the text, so it keeps
a final carriage return, and it is no line at all when nothing is in it. -/
def linesOfPieces : List (List Char) → List (List Char)
  | [] => []
  | [p] => if p.isEmpty then [] else [p]
  | p :: ps => dropReturn p :: linesOfPieces ps

/-- The lines of a text. -/
def lines (l : List Char) : List (List Char) :=
  linesOfPieces (pieces '\n' l)

/-- The pieces put together again with `sep` between them. -/
def joinWith (sep : List Char) : List (List Char) → List Char
  | [] => []
  | [p] => p
  | p :: ps => p ++ sep ++ joinWith sep ps

/-- The text before the first occurrence of a character and the text behind it, if there is one. -/
def cut (mark : Char) (l : List Char) : List Char × Option (List Char) :=
  match l.dropWhile (· ≠ mark) with
  | [] => (l, none)
  | _ :: r => (l.takeWhile (· ≠ mark), some r)

/-- The text behind the last occurrence of a character and the text before it, if there is one. -/
def cutLast (mark : Char) (l : List Char) : Option (List Char) × List Char :=
  match cut mark l.reverse with
  | (behind, some before) => (some before.reverse, behind.reverse)
  | (_, none) => (none, l)

/-- The first `limit` lines of a text; a text with no more lines than that is kept unchanged. -/
def leading (limit : Nat) (s : String) : String :=
  let ls := lines s.toList
  if limit < ls.length then String.ofList (joinWith ['\n'] (ls.take limit)) else s

/-- There is always a piece, if only an empty one. -/
theorem pieces_ne_nil (sep : Char) (l : List Char) : pieces sep l ≠ [] := by
  cases l with
  | nil => simp [pieces]
  | cons c r =>
    unfold pieces
    split
    · simp
    · split <;> simp

/-- Nothing of a text is lost between its pieces. -/
theorem joinWith_pieces (sep : Char) (l : List Char) : joinWith [sep] (pieces sep l) = l := by
  induction l with
  | nil => rfl
  | cons c r ih =>
    unfold pieces
    split
    · next h =>
      subst h
      match hp : pieces c r with
      | [] => exact absurd hp (pieces_ne_nil c r)
      | p :: ps =>
        rw [hp] at ih
        simp [joinWith, ih]
    · split
      · next hp => exact absurd hp (pieces_ne_nil sep r)
      · next p ps hp =>
        rw [hp] at ih
        cases ps with
        | nil => simp_all [joinWith]
        | cons q qs => simp_all [joinWith]

/-- What is put together holds characters of the pieces and of what is put between them. -/
theorem of_mem_joinWith {sep : List Char} {ps : List (List Char)} {c : Char}
    (h : c ∈ joinWith sep ps) : c ∈ sep ∨ ∃ p ∈ ps, c ∈ p := by
  induction ps with
  | nil => exact absurd h List.not_mem_nil
  | cons p ps ih =>
    cases ps with
    | nil => exact .inr ⟨p, List.mem_cons_self, h⟩
    | cons q qs =>
      rcases List.mem_append.1 h with h | h
      · rcases List.mem_append.1 h with h | h
        · exact .inr ⟨p, List.mem_cons_self, h⟩
        · exact .inl h
      · rcases ih h with h | ⟨r, hr, hc⟩
        · exact .inl h
        · exact .inr ⟨r, List.mem_cons_of_mem _ hr, hc⟩

/-- What a piece holds is from the text, and no separator. -/
theorem of_mem_pieces {sep : Char} {l p : List Char} (h : p ∈ pieces sep l) {c : Char}
    (hc : c ∈ p) : c ≠ sep ∧ c ∈ l := by
  induction l generalizing p with
  | nil =>
    rw [List.mem_singleton.1 h] at hc
    exact absurd hc List.not_mem_nil
  | cons d r ih =>
    unfold pieces at h
    split at h
    · rcases List.mem_cons.1 h with rfl | h
      · exact absurd hc List.not_mem_nil
      · exact ⟨(ih h hc).1, List.mem_cons_of_mem _ (ih h hc).2⟩
    · next hd =>
      split at h
      · next hp => exact absurd hp (pieces_ne_nil sep r)
      · next q qs hq =>
        rcases List.mem_cons.1 h with rfl | h
        · -- the first piece has one character more than that of the rest
          rcases List.mem_cons.1 hc with rfl | hc
          · exact ⟨hd, List.mem_cons_self⟩
          · have hrest := ih (hq ▸ List.mem_cons_self) hc
            exact ⟨hrest.1, List.mem_cons_of_mem _ hrest.2⟩
        · have hrest := ih (hq ▸ List.mem_cons_of_mem _ h) hc
          exact ⟨hrest.1, List.mem_cons_of_mem _ hrest.2⟩

/-- The pieces of a text without the separator are the text alone. -/
theorem pieces_of_not_mem {sep : Char} {l : List Char} (h : sep ∉ l) : pieces sep l = [l] := by
  induction l with
  | nil => rfl
  | cons c r ih =>
    have hc : c ≠ sep := fun e => h (e ▸ List.mem_cons_self)
    have hr := ih fun hm => h (List.mem_cons_of_mem _ hm)
    rw [pieces, if_neg hc, hr]

/-- A separator ends the piece before it. -/
theorem pieces_append {sep : Char} {l : List Char} (h : sep ∉ l) (r : List Char) :
    pieces sep (l ++ sep :: r) = l :: pieces sep r := by
  induction l with
  | nil => rw [List.nil_append, pieces, if_pos rfl]
  | cons c l ih =>
    have hc : c ≠ sep := fun e => h (e ▸ List.mem_cons_self)
    have hl := ih fun hm => h (List.mem_cons_of_mem _ hm)
    rw [List.cons_append, pieces, if_neg hc, hl]

/-- Pieces that were put together with a separator that none of them holds are found again. -/
theorem pieces_joinWith {sep : Char} {ps : List (List Char)} (hne : ps ≠ [])
    (h : ∀ p ∈ ps, sep ∉ p) : pieces sep (joinWith [sep] ps) = ps := by
  induction ps with
  | nil => exact absurd rfl hne
  | cons p ps ih =>
    have hp := h p List.mem_cons_self
    cases ps with
    | nil => rw [joinWith, pieces_of_not_mem hp]
    | cons q qs =>
      have hqs := ih (by simp) fun r hr => h r (List.mem_cons_of_mem _ hr)
      rw [joinWith, List.append_assoc, List.singleton_append, pieces_append hp, hqs]
      simp

/-- A text without the mark is not cut. -/
theorem cut_of_not_mem {mark : Char} {l : List Char} (h : mark ∉ l) : cut mark l = (l, none) := by
  have hne : ∀ c ∈ l, decide (c ≠ mark) = true := by
    intro c hc
    have hmark : c ≠ mark := fun e => h (e ▸ hc)
    simpa using hmark
  have hdrop : (l ++ []).dropWhile (· ≠ mark) = [] := List.dropWhile_append_of_pos hne
  rw [List.append_nil] at hdrop
  rw [cut, hdrop]

/-- A text is cut at the first occurrence of the mark. -/
theorem cut_append {mark : Char} {l : List Char} (h : mark ∉ l) (r : List Char) :
    cut mark (l ++ mark :: r) = (l, some r) := by
  have hne : ∀ c ∈ l, decide (c ≠ mark) = true := by
    intro c hc
    have hmark : c ≠ mark := fun e => h (e ▸ hc)
    simpa using hmark
  have hdrop : (l ++ mark :: r).dropWhile (· ≠ mark) = mark :: r := by
    rw [List.dropWhile_append_of_pos hne]
    simp
  have htake : (l ++ mark :: r).takeWhile (· ≠ mark) = l := by
    rw [List.takeWhile_append_of_pos hne]
    simp
  rw [cut, hdrop, htake]

end ToolRelay.Text
