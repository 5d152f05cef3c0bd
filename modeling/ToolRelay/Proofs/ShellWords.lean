import ToolRelay.Shell.Words

/-!
# Command lines are read again

A command line that is shown is one that a shell takes apart into the same words. The reading of a
quoted word is followed through the modes of the reader: wherever the word begins, the reader comes
out of it with the whole word under way (`splitFrom_quote`), and a space or the end of the line
closes it. So nothing is lost in a line, whatever the words hold, and also if they are empty
(`split?_join`), and no two commands are shown as the same line.
-/

set_option autoImplicit false

namespace ToolRelay.Shell

/-- What may not mean anything to a shell is none of the characters that its reader looks for. -/
theorem of_isSpecial_eq_false {c : Char} (h : isSpecial c = false) :
    isSeparator c = false ∧ c ≠ '\'' ∧ c ≠ '"' ∧ c ≠ '\\' ∧ c ≠ '#' := by
  simp only [isSpecial, List.mem_cons, List.not_mem_nil, or_false, decide_eq_false_iff_not,
    not_or] at h
  simp [isSeparator, h]

/-! ## One word -/

/-- Between single quotes the characters of a word are read as they are, up to the closing quote. -/
theorem splitFrom_quoted (s w rest : List Char) :
    splitFrom .single w (s.flatMap quotedChar ++ '\'' :: rest) = splitFrom .word (w ++ s) rest := by
  induction s generalizing w with
  | nil =>
    rw [List.flatMap_nil, List.nil_append, List.append_nil, splitFrom, if_pos rfl]
  | cons c s ih =>
    rw [List.flatMap_cons, List.append_assoc, List.append_cons w c s, ← ih (w ++ [c])]
    by_cases hc : c = '\''
    · -- the quotes are closed, the quote itself is escaped, and they are opened again
      subst hc
      simp [quotedChar, splitFrom, isSeparator]
    · rw [quotedChar, if_neg hc, List.singleton_append, splitFrom, if_neg hc]

/-- A word without special characters is read as it is. -/
theorem splitFrom_plain {s : List Char} (h : ∀ c ∈ s, isSpecial c = false) (w rest : List Char) :
    splitFrom .word w (s ++ rest) = splitFrom .word (w ++ s) rest := by
  induction s generalizing w with
  | nil => rw [List.nil_append, List.append_nil]
  | cons c s ih =>
    obtain ⟨hseparator, hsingle, hdouble, hescape, -⟩ :=
      of_isSpecial_eq_false (h c List.mem_cons_self)
    have hrest := ih (fun d hd => h d (List.mem_cons_of_mem c hd)) (w ++ [c])
    rw [List.cons_append, splitFrom, hseparator, if_neg Bool.false_ne_true, if_neg hsingle,
      if_neg hdouble, if_neg hescape, hrest, ← List.append_cons]

/-- Any written word is read as a whole. -/
theorem splitFrom_quote (s rest : List Char) :
    splitFrom .between [] (quote s ++ rest) = splitFrom .word s rest := by
  by_cases hquoted : (s.isEmpty || s.any isSpecial) = true
  · rw [quote, if_pos hquoted, List.append_assoc, List.cons_append, splitFrom, if_neg (by decide),
      if_pos rfl, List.singleton_append, splitFrom_quoted, List.nil_append]
  · rw [quote, if_neg hquoted]
    obtain ⟨hne, hplain⟩ : s ≠ [] ∧ ∀ c ∈ s, isSpecial c = false := by simpa using hquoted
    obtain ⟨c, r, rfl⟩ := List.exists_cons_of_ne_nil hne
    obtain ⟨hseparator, hsingle, hdouble, hescape, hcomment⟩ :=
      of_isSpecial_eq_false (hplain c List.mem_cons_self)
    rw [List.cons_append, splitFrom, hseparator, if_neg Bool.false_ne_true, if_neg hsingle,
      if_neg hdouble, if_neg hescape, if_neg hcomment]
    exact splitFrom_plain (fun d hd => hplain d (List.mem_cons_of_mem c hd)) [c] rest

/-! ## A whole line -/

/-- A shell reads the words of a line as they were put on it. -/
theorem split?_join (words : List (List Char)) : split? (join words) = some words := by
  unfold split? join
  induction words with
  | nil => rfl
  | cons w words ih =>
    cases words with
    | nil =>
      have hline := splitFrom_quote w []
      rw [List.append_nil] at hline
      rw [List.map_singleton, Text.joinWith, hline, splitFrom]
    | cons v words =>
      have hseparator : isSeparator ' ' = true := by decide
      rw [List.map_cons, List.map_cons, Text.joinWith, List.append_assoc, List.singleton_append,
        splitFrom_quote, splitFrom, if_pos hseparator, ← List.map_cons, ih]
      · rfl
      · simp

/-- Different words are never put on the same line, since there is a way back. -/
theorem join_inj {words words' : List (List Char)} (h : join words = join words') :
    words = words' := by
  have hread := congrArg split? h
  rw [split?_join, split?_join] at hread
  exact Option.some.inj hread

end ToolRelay.Shell

namespace ToolRelay.CommandRequest

/-- A shell makes the words of a request of its line. -/
theorem split?_line (r : CommandRequest) :
    Shell.split? r.line.toList = some ((r.program :: r.arguments).map String.toList) := by
  rw [line, String.toList_ofList]
  exact Shell.split?_join _

/-- Requests with one line have one program and the same arguments. -/
theorem line_inj {r r' : CommandRequest} (h : r.line = r'.line) :
    r.program = r'.program ∧ r.arguments = r'.arguments := by
  have htexts := Shell.join_inj (String.ofList_injective h)
  have hwords : r.program :: r.arguments = r'.program :: r'.arguments :=
    (List.map_inj_right fun _ _ => String.toList_injective).1 htexts
  exact List.cons.inj hwords

/-- **A command line names just one command.** A shell takes the line of any request apart into the
program and the arguments, each with the characters that it has, and the lines of two requests are
the same only if their programs and their arguments are. -/
theorem line_names_one_command (r : CommandRequest) :
    Shell.split? r.line.toList = some ((r.program :: r.arguments).map String.toList) ∧
      ∀ r' : CommandRequest, r.line = r'.line ↔
        r.program = r'.program ∧ r.arguments = r'.arguments := by
  refine ⟨r.split?_line, fun r' => ⟨line_inj, ?_⟩⟩
  rintro ⟨hprogram, harguments⟩
  rw [line, line, hprogram, harguments]

end ToolRelay.CommandRequest
