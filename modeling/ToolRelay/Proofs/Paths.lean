import Mathlib
import ToolRelay.Proofs.FormQuery
import ToolRelay.Url.Path

/-!
# Paths are read as they were written

A segment is `Settled` when reading leaves it as it is: it holds nothing that ends a segment, is
passed over or has to be encoded, and it is not one of the segments of dots. Reading a path of the
web yields settled segments only (`settled_of_read`), and a path of settled segments is read as those
segments (`read_text`). So a path that was read once is not changed by being read again.
-/

set_option autoImplicit false

namespace ToolRelay.Url

/-! ## Encoding twice -/

/-- A text without characters of the set is encoded as it is. -/
theorem encode_eq_self {set : Char → Bool} {l : List Char} (h : ∀ c ∈ l, set c = false) :
    encode set l = l := by
  induction l with
  | nil => rfl
  | cons c l ih =>
    have hc := h c List.mem_cons_self
    have hl := ih fun d hd => h d (List.mem_cons_of_mem _ hd)
    rw [encode] at hl
    rw [encode, List.flatMap_cons, encodeChar, hc, hl]
    rfl

/-- A text is encoded character by character. -/
theorem encode_cons (set : Char → Bool) (c : Char) (l : List Char) :
    encode set (c :: l) = encodeChar set c ++ encode set l := rfl

/-- A character of an encoded text is one of the text that is not encoded, a percent sign or a
digit. -/
theorem mem_encode {set : Char → Bool} {l : List Char} {c : Char} (h : c ∈ encode set l) :
    (c ∈ l ∧ set c = false) ∨ c = '%' ∨ ∃ n < 16, c = hexDigit n := by
  obtain ⟨d, hd, hc⟩ := List.mem_flatMap.1 h
  unfold encodeChar at hc
  split at hc
  · obtain ⟨b, -, hb⟩ := List.mem_flatMap.1 hc
    exact .inr (mem_encodeOctet hb)
  · next hset =>
    rw [List.mem_singleton.1 hc]
    exact .inl ⟨hd, by simpa using hset⟩

/-- No octet of a character is that of a dot, unless the character is a dot. -/
theorem ne_dot_of_mem_encodeChar {c : Char} (hc : c ≠ '.') {b : UInt8}
    (hb : b ∈ Text.Utf8.encodeChar c) : b ≠ 0x2E := by
  rintro rfl
  have hnumber : c.toNat ≠ 0x2E := fun h => hc (Char.toNat_inj.1 h)
  have hdot : (0x2E : UInt8).toNat = 0x2E := rfl
  have hcases := Text.Utf8.of_mem_encodeChar hb
  omega

/-- A character is left as it is, or a percent sign comes first in its place. -/
theorem encodeChar_cases (set : Char → Bool) (c : Char) :
    (set c = false ∧ encodeChar set c = [c]) ∨
      ∃ b bs, set c = true ∧ Text.Utf8.encodeChar c = b :: bs ∧
        encodeChar set c = encodeOctet b ++ bs.flatMap encodeOctet := by
  cases hset : set c with
  | false => exact .inl ⟨rfl, by rw [encodeChar, hset]; rfl⟩
  | true =>
    right
    cases hbs : Text.Utf8.encodeChar c with
    | nil => exact absurd hbs (Text.Utf8.encodeChar_ne_nil c)
    | cons b bs =>
      refine ⟨b, bs, rfl, rfl, ?_⟩
      rw [encodeChar, hset, if_pos rfl, hbs, List.flatMap_cons]

/-- What an encoded text begins with, if it is no percent sign, is what the text begins with. -/
theorem exists_of_encode_eq_cons {set : Char → Bool} {l m : List Char} {c : Char}
    (h : encode set l = c :: m) (hc : c ≠ '%') : ∃ r, l = c :: r ∧ encode set r = m := by
  cases l with
  | nil => cases h
  | cons d r =>
    rw [encode_cons] at h
    rcases encodeChar_cases set d with ⟨-, hd⟩ | ⟨b, bs, -, -, hd⟩
    · rw [hd] at h
      obtain ⟨rfl, hm⟩ := List.cons.inj h
      exact ⟨r, rfl, hm⟩
    · rw [hd] at h
      exact absurd (List.cons.inj h).1.symm hc

/-- Where nothing was encoded, the text is as it was. -/
theorem eq_of_encode_eq {set : Char → Bool} {l m : List Char} (h : encode set l = m)
    (hm : '%' ∉ m) : l = m := by
  induction m generalizing l with
  | nil =>
    cases l with
    | nil => rfl
    | cons c r =>
      rw [encode_cons, List.append_eq_nil_iff] at h
      rcases encodeChar_cases set c with ⟨-, hc⟩ | ⟨b, bs, -, -, hc⟩
      · cases hc.symm.trans h.1
      · cases hc.symm.trans h.1
  | cons c m ih =>
    have hc : c ≠ '%' := fun e => hm (e ▸ List.mem_cons_self)
    obtain ⟨r, rfl, hr⟩ := exists_of_encode_eq_cons h hc
    rw [ih hr fun hmem => hm (List.mem_cons_of_mem _ hmem)]

namespace Path

/-! ## Dots are not made by encoding -/

/-- The dot is not encoded in paths. -/
theorem ne_dot_of_pathSet {c : Char} (h : pathSet c = true) : c ≠ '.' := by
  rintro rfl
  cases h

/-- Any character but a percent sign is read as it is. -/
theorem dots_cons {c : Char} (h : c ≠ '%') (l : List Char) : dots (c :: l) = c :: dots l := by
  rw [dots]
  rintro e r heq -
  exact h heq

/-- No digit is a percent sign. -/
theorem hexDigit_ne_percent {n : Nat} (h : n < 16) : hexDigit n ≠ '%' := by
  intro heq
  have halnum := isAlphanum_hexDigit h
  rw [heq] at halnum
  exact absurd halnum (by decide)

/-- The digit two is that of the number two. -/
theorem hexDigit_eq_two_iff {n : Nat} (h : n < 16) : hexDigit n = '2' ↔ n = 2 := by
  revert n
  decide

/-- The digit E is that of the number fourteen. -/
theorem hexDigit_eq_e {n : Nat} (h : n < 16) (he : hexDigit n = 'e' ∨ hexDigit n = 'E') :
    n = 14 := by
  revert n
  decide

/-- An encoded octet is not read as a dot, unless it is that of a dot. -/
theorem dots_encodeOctet {b : UInt8} (h : b ≠ 0x2E) (l : List Char) :
    dots (encodeOctet b ++ l) = encodeOctet b ++ dots l := by
  have hb := b.toNat_lt
  have hdot : b.toNat ≠ 0x2E := fun heq => h (UInt8.toNat_inj.1 heq)
  have hhigh : b.toNat / 16 < 16 := by omega
  have hlow : b.toNat % 16 < 16 := by omega
  simp only [encodeOctet, List.cons_append, List.nil_append]
  by_cases htwo : hexDigit (b.toNat / 16) = '2'
  · have hnot : ¬(hexDigit (b.toNat % 16) = 'e' ∨ hexDigit (b.toNat % 16) = 'E') := by
      intro he
      have h2 := (hexDigit_eq_two_iff hhigh).1 htwo
      have h14 := hexDigit_eq_e hlow he
      omega
    rw [htwo, dots, if_neg hnot]
  · rw [dots, dots_cons (hexDigit_ne_percent hhigh), dots_cons (hexDigit_ne_percent hlow)]
    rintro e r - heq
    exact htwo (List.cons.inj heq).1

/-- Encoded octets that are no dots are read as they are. -/
theorem dots_flatMap_encodeOctet {bs : List UInt8} (h : ∀ b ∈ bs, b ≠ 0x2E) (l : List Char) :
    dots (bs.flatMap encodeOctet ++ l) = bs.flatMap encodeOctet ++ dots l := by
  induction bs with
  | nil => rfl
  | cons b bs ih =>
    rw [List.flatMap_cons, List.append_assoc, dots_encodeOctet (h b List.mem_cons_self),
      ih fun c hc => h c (List.mem_cons_of_mem _ hc), List.append_assoc]

/-- Where two characters of an encoded dot stand before an encoded octet, they are no dot. -/
theorem dots_before_encodeOctet {b : UInt8} (l : List Char) :
    dots ('%' :: '2' :: (encodeOctet b ++ l)) = '%' :: '2' :: (encodeOctet b ++ dots l) := by
  have hb := b.toNat_lt
  have hhigh := hexDigit_ne_percent (show b.toNat / 16 < 16 by omega)
  have hlow := hexDigit_ne_percent (show b.toNat % 16 < 16 by omega)
  simp only [encodeOctet, List.cons_append, List.nil_append]
  rw [dots, if_neg (by decide), dots_cons hhigh, dots_cons hlow]

/-- Encoding a segment and reading its dots can be done in either order. -/
theorem dots_encode (l : List Char) : dots (encode pathSet l) = encode pathSet (dots l) := by
  -- an encoded dot, the beginning of one before another character, and any other character
  fun_induction dots l with
  | case1 e r he ih =>
    have hencode : encode pathSet ('%' :: '2' :: e :: r) = '%' :: '2' :: e :: encode pathSet r := by
      rcases he with rfl | rfl <;> rfl
    rw [hencode, dots, if_pos he, ih]
    rfl
  | case2 e r he ih =>
    have hencode : ∀ m, encode pathSet ('%' :: '2' :: e :: m) =
        '%' :: '2' :: (encodeChar pathSet e ++ encode pathSet m) := fun m => rfl
    rw [hencode, hencode]
    rcases encodeChar_cases pathSet e with ⟨-, hchar⟩ | ⟨b, bs, hset, hbs, hchar⟩
    · rw [hchar, List.singleton_append, dots, if_neg he, ih, List.singleton_append]
    · have hoctets : ∀ c ∈ bs, c ≠ 0x2E := fun c hc =>
        ne_dot_of_mem_encodeChar (ne_dot_of_pathSet hset) (hbs ▸ List.mem_cons_of_mem _ hc)
      rw [hchar, List.append_assoc, dots_before_encodeOctet, dots_flatMap_encodeOctet hoctets, ih,
        List.append_assoc]
  | case3 c r hnot ih =>
    rw [encode_cons, encode_cons, encodeChar]
    split
    · next hset =>
      have hdot := ne_dot_of_pathSet hset
      rw [dots_flatMap_encodeOctet fun b hb => ne_dot_of_mem_encodeChar hdot hb, ih]
    · rw [List.singleton_append, List.singleton_append, dots, ih]
      -- an encoded dot behind the first character would have been there before
      rintro e m rfl hm
      obtain ⟨r', rfl, hr'⟩ := exists_of_encode_eq_cons hm (by decide)
      cases r' with
      | nil => cases hr'
      | cons d r' => exact hnot d r' rfl rfl
  | case4 => rfl

/-- Encoding neither makes a segment of dots nor hides one. -/
theorem dots_encode_eq_iff {m : List Char} (hpercent : '%' ∉ m) (hself : encode pathSet m = m)
    (l : List Char) : dots (encode pathSet l) = m ↔ dots l = m := by
  rw [dots_encode]
  constructor
  · intro h
    exact eq_of_encode_eq h hpercent
  · intro h
    rw [h, hself]

/-- Encoding keeps whether a segment stands for the place itself. -/
theorem isHere_encode (l : List Char) : isHere (encode pathSet l) = isHere l := by
  rw [isHere, isHere, Bool.eq_iff_iff, beq_iff_eq, beq_iff_eq]
  exact dots_encode_eq_iff (by decide) rfl l

/-- Encoding keeps whether a segment stands for the place above. -/
theorem isAbove_encode (l : List Char) : isAbove (encode pathSet l) = isAbove l := by
  rw [isAbove, isAbove, Bool.eq_iff_iff, beq_iff_eq, beq_iff_eq]
  exact dots_encode_eq_iff (by decide) rfl l

/-! ## Settled segments -/

/-- A segment that reading leaves as it is. -/
structure Settled (segment : List Char) : Prop where
  plain : ∀ c ∈ segment, c ≠ '/' ∧ c ≠ '\\' ∧ pathSet c = false
  not_here : isHere segment = false
  not_above : isAbove segment = false

/-- The empty segment is settled. -/
theorem settled_nil : Settled [] where
  plain := by simp
  not_here := rfl
  not_above := rfl

/-- What is passed over would have to be encoded. -/
theorem isPassedOver_of_pathSet {c : Char} (h : pathSet c = false) : isPassedOver c = false := by
  rw [Bool.eq_false_iff]
  intro hc
  simp only [isPassedOver, Bool.or_eq_true, beq_iff_eq] at hc
  rcases hc with (rfl | rfl) | rfl <;> exact absurd h (by decide)

/-- A settled segment is seen as it is. -/
theorem Settled.seen_eq {segment : List Char} (h : Settled segment) : seen segment = segment := by
  refine List.filter_eq_self.2 fun c hc => ?_
  rw [isPassedOver_of_pathSet (h.plain c hc).2.2]
  rfl

/-- A settled segment is encoded as it is. -/
theorem Settled.encode_eq {segment : List Char} (h : Settled segment) :
    encode pathSet segment = segment :=
  encode_eq_self fun c hc => (h.plain c hc).2.2

/-- A digit neither separates segments nor is it encoded. -/
theorem plain_hexDigit {n : Nat} (h : n < 16) :
    hexDigit n ≠ '/' ∧ hexDigit n ≠ '\\' ∧ pathSet (hexDigit n) = false := by
  revert n
  decide

/-- A segment that is neither of the two of dots is settled once it is encoded. -/
theorem settled_encode {piece : List Char} (hslash : ∀ c ∈ piece, c ≠ '/' ∧ c ≠ '\\')
    (hhere : isHere (seen piece) = false) (habove : isAbove (seen piece) = false) :
    Settled (encode pathSet (seen piece)) where
  plain := by
    intro c hc
    rcases mem_encode hc with ⟨hmem, hset⟩ | rfl | ⟨n, hn, rfl⟩
    · have hplain := hslash c (List.mem_filter.1 hmem).1
      exact ⟨hplain.1, hplain.2, hset⟩
    · decide
    · exact plain_hexDigit hn
  not_here := by rw [isHere_encode, hhere]
  not_above := by rw [isAbove_encode, habove]

/-! ## Reading a path of the web -/

/-- On the web a piece is one of the two of dots, or it is one more segment. -/
theorem add_web (final : Bool) (r : Reading) (piece : List Char) :
    r.add .web final piece =
      if isAbove (seen piece) then
        { r with segments := shorten r.segments ++ if final then [[]] else [] }
      else if isHere (seen piece) then
        { r with segments := r.segments ++ if final then [[]] else [] }
      else r.push piece := rfl

/-- A settled piece is one more segment. -/
theorem add_of_settled {piece : List Char} (h : Settled piece) (final : Bool) (r : Reading) :
    r.add .web final piece = { r with segments := r.segments ++ [piece] } := by
  rw [add_web, h.seen_eq, h.not_above, h.not_here]
  simp [Reading.push, h.seen_eq, h.encode_eq]

/-- Settled pieces are read as segments, one by one. -/
theorem follow_of_settled {pieces : List (List Char)} (h : ∀ p ∈ pieces, Settled p) (r : Reading) :
    r.follow .web pieces = { r with segments := r.segments ++ pieces } := by
  induction pieces generalizing r with
  | nil => simp [Reading.follow]
  | cons p ps ih =>
    have hp := h p List.mem_cons_self
    cases ps with
    | nil => rw [Reading.follow, add_of_settled hp]
    | cons q qs =>
      rw [Reading.follow, add_of_settled hp, ih fun s hs => h s (List.mem_cons_of_mem _ hs)]
      · simp
      · simp

/-- A shortened path has segments of the path only. -/
theorem mem_shorten {segments : List (List Char)} {s : List Char} (h : s ∈ shorten segments) :
    s ∈ segments := by
  unfold shorten at h
  split at h
  · exact h
  · exact List.mem_of_mem_dropLast h

/-- One more piece leaves the segments settled. -/
theorem settled_add {r : Reading} (hr : ∀ s ∈ r.segments, Settled s) {piece : List Char}
    (hslash : ∀ c ∈ piece, c ≠ '/' ∧ c ≠ '\\') (final : Bool) :
    ∀ s ∈ (r.add .web final piece).segments, Settled s := by
  have hjoined : ∀ l m : List (List Char), (∀ s ∈ l, Settled s) → (∀ s ∈ m, Settled s) →
      ∀ s ∈ l ++ m, Settled s := fun l m hl hm s hs => (List.mem_append.1 hs).elim (hl s) (hm s)
  have hending : ∀ s ∈ (if final then [[]] else [] : List (List Char)), Settled s := by
    intro s hs
    split at hs
    · rw [List.mem_singleton.1 hs]
      exact settled_nil
    · cases hs
  rw [add_web]
  split
  · exact hjoined _ _ (fun s hs => hr s (mem_shorten hs)) hending
  · next habove =>
    split
    · exact hjoined _ _ hr hending
    · next hhere =>
      refine hjoined _ _ hr fun s hs => ?_
      rw [List.mem_singleton.1 hs]
      exact settled_encode hslash (by simpa using hhere) (by simpa using habove)

/-- The last piece leaves a segment. -/
theorem add_final_ne_nil (r : Reading) (piece : List Char) :
    (r.add .web true piece).segments ≠ [] := by
  rw [add_web]
  split
  · simp
  · split
    · simp
    · simp [Reading.push]

/-- Reading pieces without slashes leaves the segments settled, and there is one at least. -/
theorem settled_follow {pieces : List (List Char)} (hne : pieces ≠ [])
    (hslash : ∀ p ∈ pieces, ∀ c ∈ p, c ≠ '/' ∧ c ≠ '\\') {r : Reading}
    (hr : ∀ s ∈ r.segments, Settled s) :
    (r.follow .web pieces).segments ≠ [] ∧ ∀ s ∈ (r.follow .web pieces).segments, Settled s := by
  -- the last piece leaves a segment, so nothing has to be known about the number before it
  induction pieces generalizing r with
  | nil => exact absurd rfl hne
  | cons p ps ih =>
    have hp := hslash p List.mem_cons_self
    cases ps with
    | nil => exact ⟨add_final_ne_nil r p, settled_add hr hp true⟩
    | cons q qs =>
      exact ih (by simp) (fun s hs => hslash s (List.mem_cons_of_mem _ hs))
        (settled_add hr hp false)

/-- What is read of a path of the web is settled, and there is one segment at least. -/
theorem settled_of_read (text : List Char) :
    (read .web text).segments ≠ [] ∧ ∀ s ∈ (read .web text).segments, Settled s := by
  unfold read
  extract_lets slashed behind r
  have hslashed : ∀ c ∈ slashed, c ≠ '\\' := by
    intro c hc
    obtain ⟨d, -, rfl⟩ := List.mem_map.1 ((List.dropWhile_sublist _).subset hc)
    split
    · decide
    · next hd =>
      rintro rfl
      exact hd rfl
  have hbehind : behind ⊆ slashed := by
    intro c hc
    unfold behind at hc
    split at hc
    · exact List.mem_of_mem_drop hc
    · exact hc
  have hpieces : ∀ p ∈ Text.pieces '/' behind, ∀ c ∈ p, c ≠ '/' ∧ c ≠ '\\' := by
    intro p hp c hc
    obtain ⟨hne, hmem⟩ := Text.of_mem_pieces hp hc
    exact ⟨hne, hslashed c (hbehind hmem)⟩
  exact settled_follow (Text.pieces_ne_nil _ _) hpieces (by simp)

/-! ## Writing a path and reading it -/

/-- Segments written behind slashes are segments with slashes in between, behind one more. -/
theorem text_eq_joinWith {segments : List (List Char)} (h : segments ≠ []) :
    text segments = '/' :: Text.joinWith ['/'] segments := by
  induction segments with
  | nil => exact absurd rfl h
  | cons s r ih =>
    cases r with
    | nil => simp [text, Text.joinWith]
    | cons t r =>
      have hr := ih (by simp)
      rw [text] at hr
      rw [text, List.flatMap_cons, hr]
      simp [Text.joinWith]

/-- **A path of settled segments is read as it was written.** -/
theorem read_text {segments : List (List Char)} (hne : segments ≠ [])
    (h : ∀ s ∈ segments, Settled s) : read .web (text segments) = ⟨segments, false⟩ := by
  have hjoin := text_eq_joinWith hne
  have hpieces : Text.pieces '/' (Text.joinWith ['/'] segments) = segments :=
    Text.pieces_joinWith hne fun s hs hmem => ((h s hs).plain _ hmem).1 rfl
  have hslash : ∀ c ∈ text segments, (if SchemeKind.web.isSlash c then '/' else c) = c := by
    intro c hc
    obtain ⟨s, hs, hc⟩ := List.mem_flatMap.1 hc
    rcases List.mem_cons.1 hc with rfl | hc
    · rfl
    · have hplain := (h s hs).plain c hc
      rw [if_neg]
      simp [SchemeKind.isSlash, hplain.1, hplain.2.1]
  have hmap : (text segments).map (fun c => if SchemeKind.web.isSlash c then '/' else c) =
      text segments := (List.map_congr_left hslash).trans (List.map_id _)
  have hdrop : (text segments).dropWhile isPassedOver = text segments := by
    rw [hjoin]
    rfl
  have hbehind : (if (text segments).head? = some '/' then (text segments).drop 1
      else text segments) = Text.joinWith ['/'] segments := by
    rw [hjoin]
    rfl
  simp only [read, hmap, hdrop, hbehind, hpieces, follow_of_settled h]
  rfl

end Path
end ToolRelay.Url
