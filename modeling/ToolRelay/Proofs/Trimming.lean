import Mathlib.Data.List.DropRight
import ToolRelay.Text.Blank

/-!
# What trimming leaves

Trimming finds the core of a text: what is left without the white space at its two ends. The core is
characterized without the search for it (`trim_eq_iff`), so two texts trim to the same exactly when
they differ in nothing but the white space around them (`sameInside_iff`).
-/

set_option autoImplicit false

namespace ToolRelay.Text

/-- Whether all of a text is white space. -/
def IsSpace (l : List Char) : Prop :=
  ∀ c ∈ l, isBlank c = true

/-- Whether a text neither begins nor ends with white space. -/
def IsTight (l : List Char) : Prop :=
  (∀ c ∈ l.head?, isBlank c = false) ∧ ∀ c ∈ l.getLast?, isBlank c = false

/-- Whether a text is another one without the white space around it. -/
def IsCore (l core : List Char) : Prop :=
  IsTight core ∧ ∃ before behind, l = before ++ core ++ behind ∧ IsSpace before ∧ IsSpace behind

/-- Whether two texts are the same inside, with any white space around them. -/
def SameInside (l l' : List Char) : Prop :=
  ∃ core before behind before' behind', l = before ++ core ++ behind ∧
    l' = before' ++ core ++ behind' ∧ IsSpace before ∧ IsSpace behind ∧ IsSpace before' ∧
    IsSpace behind'

variable {l core before behind : List Char}

/-! ## The core of a text -/

/-- A trimmed text is tight. -/
theorem isTight_trim (l : List Char) : IsTight (trim l) := by
  constructor
  · intro c hc
    -- what is cut off behind does not change how the text begins
    have hprefix : trim l <+: l.dropWhile isBlank := List.rdropWhile_prefix isBlank _
    obtain ⟨rest, hrest⟩ := hprefix
    have hhead : c ∈ (l.dropWhile isBlank).head? := by
      rw [← hrest, List.head?_append, Option.mem_def, Option.mem_def.1 hc]
      rfl
    have hnot := List.head?_dropWhile_not isBlank l
    rw [Option.mem_def.1 hhead] at hnot
    simpa using hnot
  · intro c hc
    obtain ⟨hne, rfl⟩ := List.mem_getLast?_eq_getLast hc
    have hnot := List.rdropWhile_last_not isBlank (l.dropWhile isBlank) hne
    rw [Bool.eq_false_iff]
    exact hnot

/-- What is trimmed at the end is white space. -/
theorem exists_trimEnd (l : List Char) : ∃ behind, trimEnd l ++ behind = l ∧ IsSpace behind := by
  refine ⟨l.rtakeWhile isBlank, List.rdropWhile_append_rtakeWhile, ?_⟩
  intro c hc
  exact List.mem_rtakeWhile_imp hc

/-- What is trimmed at both ends is white space. -/
theorem exists_trim (l : List Char) :
    ∃ before behind, l = before ++ trim l ++ behind ∧ IsSpace before ∧ IsSpace behind := by
  obtain ⟨behind, hend, hbehind⟩ := exists_trimEnd (trimStart l)
  refine ⟨l.takeWhile isBlank, behind, ?_, ?_, hbehind⟩
  · rw [List.append_assoc, trim, hend, trimStart, List.takeWhile_append_dropWhile]
  · intro c hc
    exact List.mem_takeWhile_imp hc

/-- A trimmed text has no new characters. -/
theorem trim_subset (l : List Char) : trim l ⊆ l := by
  obtain ⟨before, behind, hl, -, -⟩ := exists_trim l
  have hwhole : trim l <:+: l := ⟨before, behind, hl.symm⟩
  exact hwhole.subset

/-- White space at the start does not count. -/
theorem trimStart_append (h : IsSpace before) (l : List Char) :
    trimStart (before ++ l) = trimStart l :=
  List.dropWhile_append_of_pos h

/-- White space at the end does not count. -/
theorem trimEnd_append (h : IsSpace behind) (l : List Char) :
    trimEnd (l ++ behind) = trimEnd l := by
  rw [trimEnd, List.reverse_append, List.dropWhile_append_of_pos]
  · rfl
  · intro c hc
    exact h c (List.mem_reverse.1 hc)

/-- Nothing is trimmed at a start that is not blank. -/
theorem trimStart_eq_self (h : ∀ c ∈ l.head?, isBlank c = false) : trimStart l = l := by
  cases l with
  | nil => rfl
  | cons c r => rw [trimStart, List.dropWhile_cons_of_neg (by simp [h c rfl])]

/-- Nothing is trimmed at an end that is not blank. -/
theorem trimEnd_eq_self (h : ∀ c ∈ l.getLast?, isBlank c = false) : trimEnd l = l := by
  have hhead : ∀ c ∈ l.reverse.head?, isBlank c = false := by rwa [List.head?_reverse]
  have hreverse : l.reverse.dropWhile isBlank = l.reverse := trimStart_eq_self hhead
  rw [trimEnd, hreverse, List.reverse_reverse]

/-- A tight text is what is left without the white space around it. -/
theorem trim_append (hbefore : IsSpace before) (hbehind : IsSpace behind) (hcore : IsTight core) :
    trim (before ++ core ++ behind) = core := by
  rw [trim, List.append_assoc, trimStart_append hbefore]
  cases core with
  | nil =>
    have hnil : trimStart behind = [] := List.dropWhile_eq_nil_iff.2 hbehind
    rw [List.nil_append, hnil]
    rfl
  | cons c r =>
    have hstart : trimStart (c :: r ++ behind) = c :: r ++ behind := by
      apply trimStart_eq_self
      exact hcore.1
    rw [hstart, trimEnd_append hbehind, trimEnd_eq_self hcore.2]

/-- What a text trims to is the one core that it has. -/
theorem trim_eq_iff : trim l = core ↔ IsCore l core := by
  constructor
  · rintro rfl
    exact ⟨isTight_trim l, exists_trim l⟩
  · rintro ⟨hcore, before, behind, rfl, hbefore, hbehind⟩
    exact trim_append hbefore hbehind hcore

/-- Nothing is left to trim of what was trimmed. -/
theorem trim_trim (l : List Char) : trim (trim l) = trim l := by
  rw [trim_eq_iff]
  exact ⟨isTight_trim l, [], [], by simp, by simp [IsSpace], by simp [IsSpace]⟩

/-- Nothing is left of white space, and of nothing else. -/
theorem trim_eq_nil_iff_isSpace : trim l = [] ↔ IsSpace l := by
  rw [trim_eq_nil_iff, List.all_eq_true]
  rfl

/-! ## White space around a text -/

/-- White space around a text does not count. -/
theorem trim_append_space (hbefore : IsSpace before) (hbehind : IsSpace behind) :
    trim (before ++ l ++ behind) = trim l := by
  obtain ⟨front, back, hl, hfront, hback⟩ := exists_trim l
  have hwhole : before ++ l ++ behind = (before ++ front) ++ trim l ++ (back ++ behind) := by
    conv_lhs => rw [hl]
    simp only [List.append_assoc]
  rw [hwhole]
  refine trim_append ?_ ?_ (isTight_trim l)
  · intro c hc
    exact (List.mem_append.1 hc).elim (hbefore c) (hfront c)
  · intro c hc
    exact (List.mem_append.1 hc).elim (hback c) (hbehind c)

/-- Texts are the same inside exactly if the same is left of them. -/
theorem sameInside_iff {l' : List Char} : SameInside l l' ↔ trim l = trim l' := by
  constructor
  · rintro ⟨core, before, behind, before', behind', rfl, rfl, h₁, h₂, h₃, h₄⟩
    rw [trim_append_space h₁ h₂, trim_append_space h₃ h₄]
  · intro h
    obtain ⟨before, behind, hl, hbefore, hbehind⟩ := exists_trim l
    obtain ⟨before', behind', hl', hbefore', hbehind'⟩ := exists_trim l'
    rw [h] at hl
    exact ⟨trim l', before, behind, before', behind', hl, hl', hbefore, hbehind, hbefore', hbehind'⟩

end ToolRelay.Text
