import Mathlib.Data.List.Basic
import ToolRelay.Console.Heading
import ToolRelay.Proofs.Clipping
import ToolRelay.Proofs.Octets
import ToolRelay.Proofs.Tables

/-!
# Headings, and what colours change

A heading stands in a frame of three lines that are seen to be equally wide. Where its title is told
apart from the subtitle, the shown line is cut at an octet that is counted off the title, not off
the line. It is still the beginning of a character, because the cut is only made where the octets of
the line begin with those of the title, and these can only be read as the characters of the title.

Colours change nothing that is seen. A painted text stands between two whole control sequences, so
it is seen as the text itself wherever it stands (`Text.Ansi.SeenAs`), and this carries over to all
that is made of painted texts.
-/

set_option autoImplicit false

namespace ToolRelay

/-! ## Cuts between octets -/

namespace Text.Utf8

/-- The characters from an octet on, if there is such an octet and a character begins there. -/
def fromOctet? : Nat → List Char → Option (List Char)
  | 0, l => some l
  | _ + 1, [] => none
  | n + 1, c :: l =>
    if (encodeChar c).length ≤ n + 1 then fromOctet? (n + 1 - (encodeChar c).length) l else none

variable {l r : List Char}

/-- Two texts one after the other are encoded one after the other. -/
theorem encode_append (l r : List Char) : encode (l ++ r) = encode l ++ encode r :=
  List.flatMap_append

/-- The octets of a text begin with those of its first character. -/
theorem encode_cons (c : Char) (l : List Char) : encode (c :: l) = encodeChar c ++ encode l := rfl

/-- Octets that begin like those of a character are read as this character. -/
theorem encodeChar_append_inj {c d : Char} {rest rest' : List UInt8}
    (h : encodeChar c ++ rest = encodeChar d ++ rest') : c = d ∧ rest = rest' := by
  have hrun := congrArg State.between.run h
  rw [run_encodeChar, run_encodeChar] at hrun
  obtain rfl : c = d := Option.some.inj (List.cons.inj hrun).1
  exact ⟨rfl, List.append_cancel_left h⟩

/-- A front of the octets is that of a front of the text. -/
theorem encode_prefix_iff : encode l <+: encode r ↔ l <+: r := by
  constructor
  · intro h
    induction l generalizing r with
    | nil => exact List.nil_prefix
    | cons c l ih =>
      obtain ⟨rest, hrest⟩ := h
      rw [encode_cons, List.append_assoc] at hrest
      cases r with
      | nil =>
        obtain ⟨hnil, -⟩ := List.append_eq_nil_iff.1 hrest
        exact absurd hnil (encodeChar_ne_nil c)
      | cons d r =>
        obtain ⟨rfl, htail⟩ := encodeChar_append_inj hrest
        exact List.cons_prefix_cons.2 ⟨rfl, ih ⟨rest, htail⟩⟩
  · rintro ⟨rest, rfl⟩
    rw [encode_append]
    exact List.prefix_append _ _

/-- A text without octets is empty. -/
theorem length_encode_pos_iff : 0 < (encode l).length ↔ 0 < l.length := by
  cases l with
  | nil => exact Iff.rfl
  | cons c l =>
    have hpos := List.length_pos_iff.2 (encodeChar_ne_nil c)
    rw [encode_cons, List.length_append, List.length_cons]
    omega

/-- Behind the octets of a text that it begins with, the rest of a text is found whole. -/
theorem fromOctet?_append (l r : List Char) : fromOctet? (encode l).length (l ++ r) = some r := by
  induction l with
  | nil => cases r <;> rfl
  | cons c l ih =>
    obtain ⟨n, hn⟩ : ∃ n, (encode (c :: l)).length = n + 1 :=
      Nat.exists_eq_add_one.2 (length_encode_pos_iff.2 (Nat.succ_pos _))
    have hlength : (encode (c :: l)).length = (encodeChar c).length + (encode l).length := by
      rw [encode_cons, List.length_append]
    rw [hn, List.cons_append, fromOctet?, if_pos (by omega), ← ih]
    congr 1
    omega

end Text.Utf8

open Text.Ansi

/-- Texts that are seen as others are seen as these when they are put together. -/
theorem Text.Ansi.SeenAs.joinWith {sep : List Char} (hsep : escape ∉ sep)
    {ps qs : List (List Char)} (h : List.Forall₂ SeenAs ps qs) :
    SeenAs (Text.joinWith sep ps) (Text.joinWith sep qs) := by
  induction h with
  | nil => exact SeenAs.of_not_mem List.not_mem_nil
  | cons hp hps ih =>
    cases hps with
    | nil => exact hp
    | cons hq hqs => exact (hp.append (SeenAs.of_not_mem hsep)).append ih

namespace Console

/-! ## Painted texts -/

namespace Style

variable {text : List Char}

/-- A code without letters makes a sequence. -/
theorem isSequence_sequence {code : List Char} (h : code.all (!·.isAlpha)) :
    IsSequence (sequence code) := by
  refine ⟨code, 'm', rfl, fun c hc => ?_, rfl⟩
  rw [← Bool.not_eq_true']
  exact List.all_eq_true.1 h c hc

/-- No code of a role has a letter in it. -/
theorem all_code (role : Role) : role.code.all (!·.isAlpha) := by
  cases role <;> rfl

/-- A painted text is seen as the text. -/
theorem seenAs_paint (h : escape ∉ text) (s : Style) (role : Role) :
    SeenAs (s.paint role text) text := by
  unfold paint
  split
  · have hzero : ['0'].all (!·.isAlpha) := rfl
    have hbegin := SeenAs.of_isSequence (isSequence_sequence (all_code role))
    have hend := SeenAs.of_isSequence (isSequence_sequence hzero)
    have hwhole := (hbegin.append (SeenAs.of_not_mem h)).append hend
    rwa [List.nil_append, List.append_nil] at hwhole
  · exact SeenAs.of_not_mem h

/-- Painting adds no line feed. -/
theorem feed_not_mem_paint (h : '\n' ∉ text) (s : Style) (role : Role) :
    '\n' ∉ s.paint role text := by
  have hcode : '\n' ∉ sequence role.code := by cases role <;> decide
  have hend : '\n' ∉ sequence ['0'] := by decide
  unfold paint
  split
  · simp only [List.mem_append, not_or]
    exact ⟨⟨hcode, h⟩, hend⟩
  · exact h

end Style

/-! ## A heading in its frame -/

namespace Heading

variable {h : Heading} {s : Style}

/-- The lines of a heading in its frame. -/
def lines (h : Heading) (s : Style) : List (List Char) :=
  ['┌' :: stroke h s ++ ['┐'], ['│', ' '] ++ painted h s ++ [' ', '│'],
    '└' :: stroke h s ++ ['┘']]

/-- The shown line in colours, cut by octets: the octets of the line are compared with those of the
title, and the line is cut where these end. -/
def paintedByOctets? (h : Heading) (s : Style) : Option (List Char) :=
  let front := Text.Utf8.encode h.title
  let octets := Text.Utf8.encode (shown h s)
  if h.subtitle.isSome ∧ front.length < octets.length ∧ front <+: octets then
    (Text.Utf8.fromOctet? front.length (shown h s)).map fun rest =>
      s.paint .primary h.title ++ s.paint .secondary rest
  else some (s.paint .primary (shown h s))

/-- The octets of a line begin with those of the title, and go on, just as its characters do. -/
theorem octets_continue_iff {title text : List Char} :
    (Text.Utf8.encode title).length < (Text.Utf8.encode text).length ∧
        Text.Utf8.encode title <+: Text.Utf8.encode text ↔
      title.length < text.length ∧ title.isPrefixOf text := by
  rw [Text.Utf8.encode_prefix_iff, List.isPrefixOf_iff_prefix]
  apply and_congr_left
  rintro ⟨rest, rfl⟩
  rw [Text.Utf8.encode_append, List.length_append, List.length_append,
    Nat.lt_add_right_iff_pos, Nat.lt_add_right_iff_pos]
  exact Text.Utf8.length_encode_pos_iff

/-- The cut behind the title is never inside of a character, and what is cut off there is what
stands behind the characters of the title. -/
theorem paintedByOctets?_eq (h : Heading) (s : Style) :
    h.paintedByOctets? s = some (h.painted s) := by
  unfold paintedByOctets? painted
  dsimp only
  by_cases hcut : h.subtitle.isSome ∧ h.title.length < (shown h s).length ∧
      h.title.isPrefixOf (shown h s)
  · obtain ⟨rest, hrest⟩ := List.isPrefixOf_iff_prefix.1 hcut.2.2
    rw [if_pos hcut, if_pos ⟨hcut.1, octets_continue_iff.2 hcut.2⟩, ← hrest,
      Text.Utf8.fromOctet?_append, List.drop_left]
    rfl
  · rw [if_neg hcut, if_neg fun hoctets => hcut ⟨hoctets.1, octets_continue_iff.1 hoctets.2⟩]

/-- There is room for the dots at least. -/
theorem three_le_room (s : Style) : 3 ≤ room s := by
  unfold room leastRoom
  omega

/-- The room is what is left of the width, or of the least one, beside the frame. -/
theorem room_add_four (s : Style) : room s + 4 = max s.width 14 := by
  unfold room frameWidth leastRoom
  omega

/-- What is shown of a heading fits into the room. -/
theorem length_shown_le (h : Heading) (s : Style) : (shown h s).length ≤ room s :=
  Text.length_clip_le_iff.2 (.inr (three_le_room s))

/-- What is shown has the characters of the heading and dots, and no others. -/
theorem not_mem_shown {c : Char} (hline : c ∉ line h) (hdot : c ≠ '.') : c ∉ shown h s :=
  fun hmem => (Text.of_mem_clip hmem).elim hline hdot

/-- The shown line is painted in one piece, or in two where the title ends in it. -/
theorem painted_eq_or (h : Heading) (s : Style) :
    painted h s = s.paint .primary (shown h s) ∨
      ∃ rest, h.title ++ rest = shown h s ∧
        painted h s = s.paint .primary h.title ++ s.paint .secondary rest := by
  unfold painted
  dsimp only
  split
  · next hcut =>
    obtain ⟨rest, hrest⟩ := List.isPrefixOf_iff_prefix.1 hcut.2.2
    rw [← hrest, List.drop_left]
    exact .inr ⟨rest, rfl, rfl⟩
  · exact .inl rfl

/-- The painted heading is seen as what is shown. -/
theorem seenAs_painted (hescape : escape ∉ shown h s) : SeenAs (painted h s) (shown h s) := by
  rcases painted_eq_or h s with hone | ⟨rest, hrest, htwo⟩
  · rw [hone]
    exact Style.seenAs_paint hescape s .primary
  · rw [← hrest, List.mem_append, not_or] at hescape
    rw [htwo, ← hrest]
    exact (Style.seenAs_paint hescape.1 s .primary).append
      (Style.seenAs_paint hescape.2 s .secondary)

/-- Without colours the heading is painted as it is shown. -/
theorem painted_uncolored (h : Heading) (s : Style) :
    painted h ⟨false, s.width⟩ = shown h s := by
  rcases painted_eq_or h ⟨false, s.width⟩ with hone | ⟨rest, hrest, htwo⟩
  · exact hone
  · exact htwo.trans hrest

/-- Painting puts in no line feed. -/
theorem feed_not_mem_painted (hfeed : '\n' ∉ shown h s) : '\n' ∉ painted h s := by
  rcases painted_eq_or h s with hone | ⟨rest, hrest, htwo⟩
  · rw [hone]
    exact Style.feed_not_mem_paint hfeed s .primary
  · rw [← hrest, List.mem_append, not_or] at hfeed
    rw [htwo, List.mem_append, not_or]
    exact ⟨Style.feed_not_mem_paint hfeed.1 s .primary,
      Style.feed_not_mem_paint hfeed.2 s .secondary⟩

/-- A heading is rendered as its lines with line feeds in between. -/
theorem toList_render (h : Heading) (s : Style) :
    (render h s).toList = Text.joinWith ['\n'] (lines h s) := by
  simp [render, lines, Text.joinWith]

/-- The lines of a heading without colours. -/
theorem lines_uncolored (h : Heading) (s : Style) :
    lines h ⟨false, s.width⟩ = ['┌' :: stroke h s ++ ['┐'], ['│', ' '] ++ shown h s ++ [' ', '│'],
      '└' :: stroke h s ++ ['┘']] := by
  rw [lines, painted_uncolored]
  rfl

/-- A stroke consists of one character. -/
theorem not_mem_stroke {c : Char} (hc : c ≠ '─') : c ∉ stroke h s :=
  fun hmem => hc (List.eq_of_mem_replicate hmem)

/-- No line of a heading has a line feed in it. -/
theorem feed_not_mem_lines (hline : '\n' ∉ line h) : ∀ l ∈ lines h s, '\n' ∉ l := by
  have hstroke : '\n' ∉ stroke h s := not_mem_stroke (by decide)
  have hpainted := feed_not_mem_painted (not_mem_shown (s := s) hline (by decide))
  simp [lines, hstroke, hpainted]

/-- The lines of a rendered heading are its lines. -/
theorem pieces_render (hline : '\n' ∉ line h) :
    Text.pieces '\n' (render h s).toList = lines h s := by
  rw [toList_render]
  exact Text.pieces_joinWith (List.cons_ne_nil _ _) (feed_not_mem_lines hline)

/-- The lines of a heading are seen as they are without colours. -/
theorem seenAs_lines (hline : escape ∉ line h) (s : Style) :
    List.Forall₂ SeenAs (lines h s) (lines h ⟨false, s.width⟩) := by
  have hstroke : escape ∉ stroke h s := not_mem_stroke (by decide)
  have hpainted := seenAs_painted (not_mem_shown (s := s) hline (by decide))
  have hleft : SeenAs ['│', ' '] ['│', ' '] := SeenAs.of_not_mem (by decide)
  have hright : SeenAs [' ', '│'] [' ', '│'] := SeenAs.of_not_mem (by decide)
  have hrule : ∀ left right, left ≠ escape → right ≠ escape →
      SeenAs (left :: stroke h s ++ [right]) (left :: stroke h s ++ [right]) := by
    intro left right hleft hright
    exact SeenAs.of_not_mem (by simp [hstroke, hleft.symm, hright.symm])
  have htop := hrule '┌' '┐' (by decide) (by decide)
  have hmiddle := (hleft.append hpainted).append hright
  have hbottom := hrule '└' '┘' (by decide) (by decide)
  rw [lines_uncolored]
  exact .cons htop (.cons hmiddle (.cons hbottom .nil))

/-- What is visible of a heading does not depend on the colours. -/
theorem visible_render (hline : escape ∉ line h) (s : Style) :
    visible (render h s).toList = (render h ⟨false, s.width⟩).toList := by
  rw [toList_render, toList_render]
  exact (SeenAs.joinWith (by decide) (seenAs_lines hline s)).visible_eq

/-- Whether three lines are a text in its frame on a terminal. They are seen to be equally wide and
to be no wider than the terminal, or than fourteen columns on a smaller one. The second shows the
text, or if it is too long, the front of it and the ellipsis. -/
structure IsFrame (text : List Char) (width : Nat) (top middle bottom : List Char) : Prop where
  top : Text.Ansi.width top = Text.Ansi.width middle
  bottom : Text.Ansi.width bottom = Text.Ansi.width middle
  fits : Text.Ansi.width middle ≤ max width 14
  shows : visible middle = ['│', ' '] ++ text ++ [' ', '│'] ∨
    max width 14 < text.length + 4 ∧ ∃ front, front <+: text ∧ front.length < text.length ∧
      visible middle = ['│', ' '] ++ (front ++ Text.ellipsis) ++ [' ', '│']

/-- The three lines of a heading frame it. -/
theorem exists_isFrame (hline : escape ∉ line h) (s : Style) : ∃ top middle bottom,
    lines h s = [top, middle, bottom] ∧ IsFrame (line h) s.width top middle bottom := by
  obtain ⟨top, middle, bottom, hlines⟩ : ∃ top middle bottom, lines h s = [top, middle, bottom] :=
    ⟨_, _, _, rfl⟩
  have hseen := seenAs_lines hline s
  rw [hlines, lines_uncolored] at hseen
  simp only [List.forall₂_cons] at hseen
  obtain ⟨htop, hmiddle, hbottom, -⟩ := hseen
  have hwidth : Text.Ansi.width middle = (shown h s).length + 4 := by
    rw [Text.Ansi.width, hmiddle.visible_eq]
    simp
  have hstroke : (stroke h s).length = (shown h s).length + 2 := List.length_replicate
  have hroom := room_add_four s
  refine ⟨top, middle, bottom, hlines, ?_, ?_, ?_, ?_⟩
  · rw [hwidth, Text.Ansi.width, htop.visible_eq]
    simp [hstroke]
  · rw [hwidth, Text.Ansi.width, hbottom.visible_eq]
    simp [hstroke]
  · have hle := length_shown_le h s
    omega
  · rw [hmiddle.visible_eq]
    by_cases hle : (line h).length ≤ room s
    · exact .inl (by rw [shown, Text.clip_of_le hle])
    · have hlt := Nat.lt_of_not_le hle
      refine .inr ⟨by omega, (line h).take (room s - 3), List.take_prefix _ _, ?_, ?_⟩
      · rw [List.length_take]
        omega
      · rw [shown, Text.clip_of_lt hlt]

end Heading

/-! ## Tables in colours -/

namespace Table

/-- A row of plain cells is plain. -/
theorem escape_not_mem_row {widths : List Nat} {cells : List (List Char)}
    (hplain : ∀ cell ∈ cells, escape ∉ cell) : escape ∉ row widths cells := by
  intro hmem
  rcases of_mem_row (not_mem_cellAt hplain) hmem with ⟨i, hi⟩ | hspace | hdot
  · exact not_mem_cellAt hplain i hi
  · exact absurd hspace (by decide)
  · exact absurd hdot (by decide)

/-- The lines of a table are seen as they are without colours. -/
theorem seenAs_lines {headers : List (List Char)} {rows : List (List (List Char))}
    (hplain : ∀ cells ∈ headers :: rows, ∀ cell ∈ cells, escape ∉ cell) (s : Style) :
    List.Forall₂ SeenAs (lines headers rows s) (lines headers rows ⟨false, s.width⟩) := by
  obtain ⟨hheaders, hrows⟩ := List.forall_mem_cons.1 hplain
  have hrule : escape ∉ rule (fittedWidths s.width (naturalWidths headers rows)) := fun hmem =>
    absurd (of_mem_rule hmem) (by decide)
  refine .cons (Style.seenAs_paint (escape_not_mem_row hheaders) s .accent)
    (.cons (Style.seenAs_paint hrule s .dim) ?_)
  rw [List.forall₂_map_left_iff, List.forall₂_map_right_iff, List.forall₂_same]
  intro cells hcells
  exact SeenAs.of_not_mem (escape_not_mem_row (hrows cells hcells))

end Table

/-- What is visible of a table does not depend on the colours. -/
theorem visible_table {headers : List String} {rows : List (List String)}
    (hplain : ∀ cells ∈ headers :: rows, ∀ cell ∈ cells, escape ∉ cell.toList) (s : Style) :
    visible (table headers rows s).toList = (table headers rows ⟨false, s.width⟩).toList := by
  by_cases hne : headers = []
  · subst hne
    exact visible_of_not_mem List.not_mem_nil
  · have hchars : ∀ cells ∈ headers.map String.toList :: rows.map (·.map String.toList),
        ∀ cell ∈ cells, escape ∉ cell := by
      simpa using hplain
    rw [toList_table hne, toList_table hne]
    exact (SeenAs.joinWith (by decide) (Table.seenAs_lines hchars s)).visible_eq

/-! ## Headings of texts -/

section Texts

variable {title : String} {subtitle : Option String} {c : Char}

/-- The line of a heading is the title, and behind two spaces the subtitle if there is one. -/
theorem line_eq (title : String) (subtitle : Option String) :
    Heading.line ⟨title.toList, subtitle.map String.toList⟩ =
      (title ++ subtitle.elim "" ("  " ++ ·)).toList := by
  cases subtitle <;> simp [Heading.line]

/-- A character of neither text is not in the line. -/
theorem not_mem_line (hc : c ≠ ' ') (h : ∀ text ∈ title :: subtitle.toList, c ∉ text.toList) :
    c ∉ Heading.line ⟨title.toList, subtitle.map String.toList⟩ := by
  obtain ⟨htitle, hsubtitle⟩ := List.forall_mem_cons.1 h
  cases subtitle with
  | none => exact htitle
  | some sub =>
    have hsub : c ∉ sub.toList := hsubtitle sub (by simp)
    simp [Heading.line, htitle, hsub, hc]

/-- **A heading stands in its frame, and colours are not seen.** A heading whose texts hold no line
feed and no escape character has three lines that frame it on a terminal of any width, in colours or
without. Where its title is told apart from what follows, the line is never cut inside of a
character. And of any text, heading and table without an escape character, the same is seen in
colours as without. -/
theorem heading_framed_and_colors_unseen :
    (∀ (title : String) (subtitle : Option String) (s : Style),
      (∀ text ∈ title :: subtitle.toList, '\n' ∉ text.toList ∧ escape ∉ text.toList) →
        ∃ top middle bottom,
          Text.pieces '\n' (heading title subtitle s).toList = [top, middle, bottom] ∧
            Heading.IsFrame (title ++ subtitle.elim "" ("  " ++ ·)).toList s.width top middle
              bottom) ∧
    (∀ (h : Heading) (s : Style), h.paintedByOctets? s = some (h.painted s)) ∧
    (∀ (role : Role) (text : List Char) (width : Nat), escape ∉ text →
      visible (Style.paint ⟨true, width⟩ role text) = Style.paint ⟨false, width⟩ role text) ∧
    (∀ (title : String) (subtitle : Option String) (width : Nat),
      (∀ text ∈ title :: subtitle.toList, escape ∉ text.toList) →
        visible (heading title subtitle ⟨true, width⟩).toList =
          (heading title subtitle ⟨false, width⟩).toList) ∧
    ∀ (headers : List String) (rows : List (List String)) (width : Nat),
      (∀ cells ∈ headers :: rows, ∀ cell ∈ cells, escape ∉ cell.toList) →
        visible (table headers rows ⟨true, width⟩).toList =
          (table headers rows ⟨false, width⟩).toList := by
  refine ⟨?_, Heading.paintedByOctets?_eq, ?_, ?_, ?_⟩
  · intro title subtitle s hplain
    have hfeed := not_mem_line (c := '\n') (by decide) fun text htext => (hplain text htext).1
    have hescape := not_mem_line (c := escape) (by decide) fun text htext => (hplain text htext).2
    obtain ⟨top, middle, bottom, hlines, hframe⟩ := Heading.exists_isFrame hescape s
    rw [line_eq] at hframe
    exact ⟨top, middle, bottom, (Heading.pieces_render hfeed).trans hlines, hframe⟩
  · intro role text width hescape
    exact (Style.seenAs_paint hescape ⟨true, width⟩ role).visible_eq
  · intro title subtitle width hescape
    exact Heading.visible_render (not_mem_line (by decide) hescape) ⟨true, width⟩
  · intro headers rows width hescape
    exact visible_table hescape ⟨true, width⟩

/-- A terminal of sixteen columns has room for the title and for some of the rest. -/
theorem heading_framed_and_colors_unseen_clipped :
    (∃ top middle bottom,
      Text.pieces '\n' (heading "Café" (some "profile • server") ⟨true, 16⟩).toList =
          [top, middle, bottom] ∧
        Heading.IsFrame "Café  profile • server".toList 16 top middle bottom) ∧
      visible (Style.paint ⟨true, 16⟩ .error ['x']) = ['x'] ∧
      visible (heading "a\nb" none ⟨true, 0⟩).toList = (heading "a\nb" none ⟨false, 0⟩).toList ∧
      visible (table ["NAME"] [["a", "b"]] ⟨true, 2⟩).toList =
        (table ["NAME"] [["a", "b"]] ⟨false, 2⟩).toList :=
  ⟨heading_framed_and_colors_unseen.1 "Café" (some "profile • server") ⟨true, 16⟩ (by decide),
    heading_framed_and_colors_unseen.2.2.1 .error ['x'] 16 (by decide),
    heading_framed_and_colors_unseen.2.2.2.1 "a\nb" none 0 (by decide),
    heading_framed_and_colors_unseen.2.2.2.2 ["NAME"] [["a", "b"]] 2 (by decide)⟩

end Texts
end Console
end ToolRelay
