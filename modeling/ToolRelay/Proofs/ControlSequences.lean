import Mathlib.Data.List.Basic
import ToolRelay.Text.Ansi

/-!
# What is left without control sequences

A text is read from the front: a character is shown, a control sequence is hidden, or a sequence
that never ends hides all that follows. Every fact about the visible text is by induction on these
three (`reading`).

What is visible need not be free of sequences. Where one is taken out, the characters around it come
to stand next to each other, and an escape character in front of it may meet a bracket behind it
(`Rejoins`). That is the only way in which the beginning of a sequence gets into the visible text.
-/

set_option autoImplicit false

namespace ToolRelay.Text.Ansi

/-- What a control sequence begins with. -/
def opening : List Char :=
  [escape, '[']

/-- Whether a text is one control sequence: its beginning, its parameters and the letter that ends
it. -/
def IsSequence (l : List Char) : Prop :=
  ∃ parameters letter, l = opening ++ (parameters ++ [letter]) ∧
    (∀ c ∈ parameters, c.isAlpha = false) ∧ letter.isAlpha = true

/-- Whether every control sequence that begins in a text ends in it. -/
def IsWhole (l : List Char) : Prop :=
  ∀ before behind, l = before ++ (opening ++ behind) → ∃ c ∈ behind, c.isAlpha = true

/-- Whether there is an escape character in a text that begins no sequence, and nothing but control
sequences between it and a bracket. -/
def Rejoins (l : List Char) : Prop :=
  ∃ before sequences behind, l = before ++ escape :: (sequences.flatten ++ '[' :: behind) ∧
    IsWhole before ∧ sequences ≠ [] ∧ ∀ s ∈ sequences, IsSequence s

variable {l r s : List Char} {c : Char}

/-! ## The reading of a text -/

/-- Neither character of an opening is a letter. -/
theorem isAlpha_of_mem_opening (h : c ∈ opening) : c.isAlpha = false := by
  rcases List.mem_pair.1 h with rfl | rfl <;> rfl

/-- A sequence is not empty. -/
theorem IsSequence.length_pos (h : IsSequence s) : 0 < s.length := by
  obtain ⟨parameters, letter, rfl, -, -⟩ := h
  exact Nat.succ_pos _

/-- A sequence goes on over what is no letter. -/
theorem afterSequence_append (hr : ∀ c ∈ r, c.isAlpha = false) :
    afterSequence (r ++ l) = afterSequence l := by
  induction r with
  | nil => rfl
  | cons c r ih =>
    have hc : ¬c.isAlpha = true := by simp [hr c]
    rw [List.cons_append, afterSequence, if_neg hc]
    exact ih fun d hd => hr d (List.mem_cons_of_mem c hd)

/-- A sequence ends with the first letter, or not at all. -/
theorem exists_letter_or (l : List Char) :
    (∃ parameters letter rest, l = parameters ++ letter :: rest ∧
      (∀ c ∈ parameters, c.isAlpha = false) ∧ letter.isAlpha = true) ∨
    ∀ c ∈ l, c.isAlpha = false := by
  induction l with
  | nil => exact .inr fun c hc => absurd hc List.not_mem_nil
  | cons c l ih =>
    cases hc : c.isAlpha with
    | true => exact .inl ⟨[], c, l, rfl, fun d hd => absurd hd List.not_mem_nil, hc⟩
    | false =>
      rcases ih with ⟨parameters, letter, rest, rfl, hparameters, hletter⟩ | hnone
      · refine .inl ⟨c :: parameters, letter, rest, rfl, ?_, hletter⟩
        exact List.forall_mem_cons.2 ⟨hc, hparameters⟩
      · exact .inr (List.forall_mem_cons.2 ⟨hc, hnone⟩)

/-- A character where no sequence begins is visible. -/
theorem visible_cons (h : ¬opening <+: c :: l) : visible (c :: l) = c :: visible l := by
  cases l with
  | nil => rw [visible, visible]
  | cons d l =>
    have hnot : ¬(c = escape ∧ d = '[') := by
      rintro ⟨rfl, rfl⟩
      exact h (List.prefix_append opening l)
    rw [visible, if_neg hnot]

/-- Behind an opening only what comes after the sequence is visible. -/
theorem visible_opening_append (l : List Char) :
    visible (opening ++ l) = visible (afterSequence l) := by
  show visible (escape :: '[' :: l) = _
  rw [visible, if_pos ⟨rfl, rfl⟩]

/-- A sequence is not visible. -/
theorem visible_sequence_append (h : IsSequence s) (l : List Char) :
    visible (s ++ l) = visible l := by
  obtain ⟨parameters, letter, rfl, hparameters, hletter⟩ := h
  rw [List.append_assoc, List.append_assoc, visible_opening_append,
    afterSequence_append hparameters, List.singleton_append, afterSequence, if_pos hletter]

/-- Nothing of a sequence without an end is visible. -/
theorem visible_of_endless (h : ∀ c ∈ l, c.isAlpha = false) : visible (opening ++ l) = [] := by
  have hafter := afterSequence_append (l := []) h
  rw [List.append_nil] at hafter
  rw [visible_opening_append, hafter, afterSequence, visible]

/-- A text is read by characters that are shown and sequences that are hidden, the last of which may
have no end. -/
@[elab_as_elim]
theorem reading {motive : List Char → Prop} (nil : motive [])
    (shown : ∀ c l, ¬opening <+: c :: l → motive l → motive (c :: l))
    (hidden : ∀ s l, IsSequence s → motive l → motive (s ++ l))
    (endless : ∀ l, (∀ c ∈ l, c.isAlpha = false) → motive (opening ++ l)) (l : List Char) :
    motive l := by
  induction l using visible.induct with
  | case1 => exact nil
  | case2 c => exact shown c [] (by simp [opening]) nil
  | case3 c d l hopening ih =>
    obtain ⟨rfl, rfl⟩ := hopening
    rcases exists_letter_or l with ⟨parameters, letter, rest, rfl, hparameters, hletter⟩ | hnone
    · rw [afterSequence_append hparameters, afterSequence, if_pos hletter] at ih
      have hsequence := hidden _ rest ⟨parameters, letter, rfl, hparameters, hletter⟩ ih
      simpa [opening] using hsequence
    · exact endless l hnone
  | case4 c d l hopening ih =>
    apply shown c _ _ ih
    rintro ⟨rest, hsplit⟩
    obtain ⟨hc, htail⟩ := List.cons.inj hsplit
    exact hopening ⟨hc.symm, (List.cons.inj htail).1.symm⟩

/-- A beginning that is not there does not come about far behind it. -/
theorem not_opening_prefix_append {d : Char} (h : ¬opening <+: c :: d :: l) (r : List Char) :
    ¬opening <+: c :: d :: (l ++ r) := by
  rw [opening, List.cons_prefix_cons, List.cons_prefix_cons] at h ⊢
  rintro ⟨rfl, rfl, -⟩
  exact h ⟨rfl, rfl, List.nil_prefix⟩

/-! ## Texts in which every sequence ends -/

/-- The empty text is whole. -/
theorem isWhole_nil : IsWhole [] := by
  intro before behind h
  exact absurd h.symm (by simp [opening])

/-- The end of a whole text is whole. -/
theorem IsWhole.of_append (h : IsWhole (r ++ l)) : IsWhole l := by
  rintro before behind rfl
  exact h (r ++ before) behind (List.append_assoc ..).symm

/-- A text with a sequence that has no end is not whole. -/
theorem not_isWhole_of_endless (h : ∀ c ∈ l, c.isAlpha = false) : ¬IsWhole (opening ++ l) := by
  intro hwhole
  obtain ⟨c, hc, hletter⟩ := hwhole [] l rfl
  rw [h c hc] at hletter
  exact Bool.false_ne_true hletter

/-- A whole text stays whole behind a character where no sequence begins. -/
theorem IsWhole.cons (h : IsWhole l) (hc : ¬opening <+: c :: l) : IsWhole (c :: l) := by
  intro before behind hsplit
  cases before with
  | nil => exact absurd ⟨behind, hsplit.symm⟩ hc
  | cons d before => exact h before behind (List.cons.inj hsplit).2

/-- A whole text stays whole behind a sequence. -/
theorem IsWhole.sequence_append (h : IsWhole l) (hs : IsSequence s) : IsWhole (s ++ l) := by
  intro before behind hsplit
  rcases List.append_eq_append_iff.1 hsplit with ⟨gap, rfl, hl⟩ | ⟨rest, hrest, hbehind⟩
  · exact h gap behind hl
  · -- the sequence reaches into what begins here, so its letter stands behind
    obtain ⟨parameters, letter, rfl, -, hletter⟩ := hs
    rcases List.eq_nil_or_concat rest with rfl | ⟨rest, d, rfl⟩
    · exact h [] behind hbehind.symm
    · obtain rfl : letter = d := by
        have hlast := congrArg List.getLast? hrest
        simpa [← List.append_assoc] using hlast
      have hmem : letter ∈ opening ++ behind := by
        rw [hbehind]
        simp
      refine ⟨letter, (List.mem_append.1 hmem).resolve_left fun hopening => ?_, hletter⟩
      rw [isAlpha_of_mem_opening hopening] at hletter
      exact Bool.false_ne_true hletter

/-- Behind a text in which every sequence ends, what follows is read as if it stood alone, unless
the two make a beginning of a sequence together. -/
theorem visible_append (h : IsWhole l) (hjoin : escape ∉ l.getLast? ∨ '[' ∉ r.head?) :
    visible (l ++ r) = visible l ++ visible r := by
  induction l using reading with
  | nil => rw [List.nil_append, visible, List.nil_append]
  | shown c l hc ih =>
    have hrest : IsWhole l := h.of_append (r := [c])
    cases l with
    | nil =>
      have hjoined : ¬opening <+: c :: r := by
        rintro ⟨rest, hrest⟩
        obtain ⟨rfl, rfl⟩ := List.cons.inj hrest
        rcases hjoin with hjoin | hjoin <;> exact hjoin rfl
      rw [List.singleton_append, visible_cons hjoined, visible_cons hc, visible,
        List.singleton_append]
    | cons d l =>
      rw [List.getLast?_cons_cons] at hjoin
      have hl := ih hrest hjoin
      rw [List.cons_append] at hl
      rw [List.cons_append, List.cons_append, visible_cons (not_opening_prefix_append hc r), hl,
        visible_cons hc, List.cons_append]
  | hidden s l hs ih =>
    rw [List.append_assoc, visible_sequence_append hs, visible_sequence_append hs,
      ih h.of_append]
    refine hjoin.imp_left fun hlast hmem => hlast ?_
    rw [List.getLast?_append, Option.mem_def.1 hmem]
    rfl
  | endless l hl => exact absurd h (not_isWhole_of_endless hl)

/-- Behind a sequence that does not end, what holds no letter is hidden. -/
theorem visible_append_of_not_isWhole (h : ¬IsWhole l) (hr : ∀ c ∈ r, c.isAlpha = false) :
    visible (l ++ r) = visible l := by
  induction l using reading with
  | nil => exact absurd isWhole_nil h
  | shown c l hc ih =>
    have hrest : ¬IsWhole l := fun hwhole => h (hwhole.cons hc)
    cases l with
    | nil => exact absurd isWhole_nil hrest
    | cons d l =>
      have hl := ih hrest
      rw [List.cons_append] at hl
      rw [List.cons_append, List.cons_append, visible_cons (not_opening_prefix_append hc r), hl,
        visible_cons hc]
  | hidden s l hs ih =>
    rw [List.append_assoc, visible_sequence_append hs, visible_sequence_append hs,
      ih fun hwhole => h (hwhole.sequence_append hs)]
  | endless l hl =>
    have hall : ∀ c ∈ l ++ r, c.isAlpha = false := List.forall_mem_append.2 ⟨hl, hr⟩
    rw [List.append_assoc, visible_of_endless hall, visible_of_endless hl]

/-- Whether a text is seen as another one wherever it stands. -/
def SeenAs (l seen : List Char) : Prop :=
  ∀ rest, visible (l ++ rest) = seen ++ visible rest

namespace SeenAs

variable {seen seen' : List Char}

/-- A text without escapes is seen as it is. -/
theorem of_not_mem (h : escape ∉ l) : SeenAs l l := by
  intro rest
  have hwhole : IsWhole l := by
    rintro before behind rfl
    exact absurd (by simp [opening]) h
  have hlast : escape ∉ l.getLast? := fun hmem => h (List.mem_of_mem_getLast? hmem)
  rw [visible_append hwhole (.inl hlast), visible_of_not_mem h]

/-- A sequence is seen as nothing. -/
theorem of_isSequence (h : IsSequence l) : SeenAs l [] :=
  visible_sequence_append h

/-- Two texts one after the other are seen one after the other. -/
theorem append (h : SeenAs l seen) (h' : SeenAs r seen') : SeenAs (l ++ r) (seen ++ seen') := by
  intro rest
  rw [List.append_assoc, h, h', List.append_assoc]

/-- What a text is seen as is what is visible of it. -/
theorem visible_eq (h : SeenAs l seen) : visible l = seen := by
  have hseen := h []
  rwa [List.append_nil, visible, List.append_nil] at hseen

end SeenAs

/-! ## Texts without sequences -/

/-- No more is visible than there is. -/
theorem length_visible_le (l : List Char) : (visible l).length ≤ l.length := by
  induction l using reading with
  | nil => simp [visible]
  | shown c l hc ih =>
    rw [visible_cons hc]
    exact Nat.succ_le_succ ih
  | hidden s l hs ih =>
    rw [visible_sequence_append hs, List.length_append]
    omega
  | endless l hl =>
    rw [visible_of_endless hl]
    exact Nat.zero_le _

/-- Where a sequence begins, something is hidden. -/
theorem length_visible_lt (h : opening <:+: l) : (visible l).length < l.length := by
  induction l using reading with
  | nil => exact absurd h (by simp [opening])
  | shown c l hc ih =>
    rw [visible_cons hc]
    exact Nat.succ_lt_succ (ih ((List.infix_cons_iff.1 h).resolve_left hc))
  | hidden s l hs ih =>
    have hle := length_visible_le l
    have hpos := hs.length_pos
    rw [visible_sequence_append hs, List.length_append]
    omega
  | endless l hl =>
    rw [visible_of_endless hl]
    simp [opening]

/-- A text in which no sequence begins is visible as a whole. -/
theorem visible_of_not_opens (h : ¬opening <:+: l) : visible l = l := by
  induction l with
  | nil => rw [visible]
  | cons c l ih =>
    rw [List.infix_cons_iff, not_or] at h
    rw [visible_cons h.1, ih h.2]

/-- A text is visible as a whole exactly if no sequence begins in it. -/
theorem visible_eq_self_iff : visible l = l ↔ ¬opening <:+: l := by
  constructor
  · intro h hopens
    have hlt := length_visible_lt hopens
    rw [h] at hlt
    exact Nat.lt_irrefl _ hlt
  · exact visible_of_not_opens

/-- A text is as wide as it is long exactly if no sequence begins in it. -/
theorem width_eq_length_iff : width l = l.length ↔ ¬opening <:+: l := by
  constructor
  · intro h hopens
    exact Nat.ne_of_lt (length_visible_lt hopens) h
  · intro h
    rw [width, visible_of_not_opens h]

/-! ## What is left in the visible text -/

/-- Sequences in front of a text are not visible. -/
theorem visible_flatten_append {sequences : List (List Char)}
    (h : ∀ s ∈ sequences, IsSequence s) (l : List Char) :
    visible (sequences.flatten ++ l) = visible l := by
  induction sequences with
  | nil => rfl
  | cons s sequences ih =>
    rw [List.flatten_cons, List.append_assoc, visible_sequence_append (h s List.mem_cons_self)]
    exact ih fun t ht => h t (List.mem_cons_of_mem s ht)

/-- A text of which a bracket is seen first has nothing but sequences in front of it. -/
theorem exists_sequences_of_visible (h : '[' ∈ (visible l).head?) :
    ∃ (sequences : List (List Char)) (behind : List Char),
      l = sequences.flatten ++ '[' :: behind ∧ ∀ s ∈ sequences, IsSequence s := by
  induction l using reading with
  | nil => simp [visible] at h
  | shown c l hc ih =>
    rw [visible_cons hc] at h
    obtain rfl : c = '[' := Option.some.inj h
    exact ⟨[], l, rfl, fun s hs => absurd hs List.not_mem_nil⟩
  | hidden s l hs ih =>
    rw [visible_sequence_append hs] at h
    obtain ⟨sequences, behind, rfl, hsequences⟩ := ih h
    refine ⟨s :: sequences, behind, ?_, List.forall_mem_cons.2 ⟨hs, hsequences⟩⟩
    rw [List.flatten_cons, List.append_assoc]
  | endless l hl => simp [visible_of_endless hl] at h

/-- Where an opening comes together, a sequence begins in what is visible. -/
theorem Rejoins.opens (h : Rejoins l) : opening <:+: visible l := by
  obtain ⟨before, sequences, behind, rfl, hbefore, hsome, hsequences⟩ := h
  have hescape : ¬opening <+: escape :: (sequences.flatten ++ '[' :: behind) := by
    cases sequences with
    | nil => exact absurd rfl hsome
    | cons s sequences =>
      obtain ⟨parameters, letter, rfl, -⟩ := hsequences s List.mem_cons_self
      simp [opening, escape]
  have hbracket : ¬opening <+: '[' :: behind := by simp [opening, escape]
  rw [visible_append hbefore (.inr (by simp [escape])), visible_cons hescape,
    visible_flatten_append hsequences, visible_cons hbracket]
  exact ⟨visible before, visible behind, by simp [opening]⟩

/-- An opening that comes together does so behind one more character. -/
theorem Rejoins.cons (h : Rejoins l) (hc : ¬opening <+: c :: l) : Rejoins (c :: l) := by
  obtain ⟨before, sequences, behind, rfl, hbefore, hsome, hsequences⟩ := h
  refine ⟨c :: before, sequences, behind, rfl, hbefore.cons fun hopens => hc ?_, hsome, hsequences⟩
  exact hopens.trans ⟨_, rfl⟩

/-- An opening that comes together does so behind one more sequence. -/
theorem Rejoins.sequence_append (h : Rejoins l) (hs : IsSequence s) : Rejoins (s ++ l) := by
  obtain ⟨before, sequences, behind, rfl, hbefore, hsome, hsequences⟩ := h
  exact ⟨s ++ before, sequences, behind, (List.append_assoc ..).symm,
    hbefore.sequence_append hs, hsome, hsequences⟩

/-- A sequence begins in what is visible of a text exactly if the text rejoins one. -/
theorem opens_visible_iff : opening <:+: visible l ↔ Rejoins l := by
  constructor
  · intro h
    induction l using reading with
    | nil => simp [visible, opening] at h
    | shown c l hc ih =>
      rw [visible_cons hc] at h
      rcases List.infix_cons_iff.1 h with ⟨rest, hrest⟩ | h
      · obtain ⟨rfl, hvisible⟩ := List.cons.inj hrest
        obtain ⟨sequences, behind, rfl, hsequences⟩ :=
          exists_sequences_of_visible (l := l) (by rw [← hvisible]; rfl)
        refine ⟨[], sequences, behind, rfl, isWhole_nil, ?_, hsequences⟩
        rintro rfl
        exact hc ⟨behind, rfl⟩
      · exact (ih h).cons hc
    | hidden s l hs ih =>
      rw [visible_sequence_append hs] at h
      exact (ih h).sequence_append hs
    | endless l hl =>
      rw [visible_of_endless hl] at h
      exact absurd h (by simp [opening])
  · exact Rejoins.opens

/-- Of any text: no sequence begins in what is visible of it, what is visible is all visible, and it
is as wide as the text, each of them exactly if the text does not rejoin the beginning of a sequence
from the two sides of those that are hidden. -/
theorem visible_settled_iff (l : List Char) :
    (¬opening <:+: visible l ↔ ¬Rejoins l) ∧ (visible (visible l) = visible l ↔ ¬Rejoins l) ∧
      (width (visible l) = width l ↔ ¬Rejoins l) := by
  refine ⟨not_congr opens_visible_iff, ?_, ?_⟩
  · rw [visible_eq_self_iff, opens_visible_iff]
  · rw [← opens_visible_iff]
    exact width_eq_length_iff

/-- An escape character in front of the sequence for plain text, and the rest of one for red behind
it. -/
def redBehindReset : List Char :=
  "\x1b\x1b[0m[31mRED".toList

/-- What is visible of a text with a split opening is not visible when it is looked at again. -/
theorem visible_not_settled_red :
    opening <:+: visible redBehindReset ∧
      visible (visible redBehindReset) ≠ visible redBehindReset ∧
      width (visible redBehindReset) ≠ width redBehindReset := by
  have hvisible : visible redBehindReset = "\x1b[31mRED".toList := by decide +kernel
  have hagain : visible "\x1b[31mRED".toList = "RED".toList := by decide +kernel
  rw [width, width, hvisible, hagain]
  decide

end ToolRelay.Text.Ansi
