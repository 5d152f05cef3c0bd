import Mathlib
import ToolRelay.Proofs.Octets
import ToolRelay.Url.Form

/-!
# Form queries are read back

Whatever the keys and values of a list are, the query that is written for them is decoded into the
same list (`Form.decode_encode`). Nothing in a key or a value can end it: `&`, `=` and `#` are
always percent encoded, and a plus sign stands for a space only. The ground of it is that percent
encoding is undone by `octets`, for every set of characters that holds the percent sign itself.
-/

set_option autoImplicit false

namespace ToolRelay.Url

/-! ## Percent encoding -/

/-- A digit in hexadecimal has its value. -/
theorem hexValue_hexDigit {n : Nat} (h : n < 16) : hexValue? (hexDigit n) = some n := by
  revert n
  decide

/-- A digit in hexadecimal is a letter or a digit. -/
theorem isAlphanum_hexDigit {n : Nat} (h : n < 16) : (hexDigit n).isAlphanum = true := by
  revert n
  decide

/-- A character of an encoded octet is a percent sign or a digit. -/
theorem mem_encodeOctet {b : UInt8} {c : Char} (h : c ∈ encodeOctet b) :
    c = '%' ∨ ∃ n < 16, c = hexDigit n := by
  have hb := b.toNat_lt
  simp only [encodeOctet, List.mem_cons, List.not_mem_nil, or_false] at h
  rcases h with h | h | h
  · exact .inl h
  · exact .inr ⟨b.toNat / 16, by omega, h⟩
  · exact .inr ⟨b.toNat % 16, by omega, h⟩

/-- Any character but the percent sign stands for itself, whatever follows. -/
theorem octets_cons {c : Char} (h : c ≠ '%') (l : List Char) :
    octets (c :: l) = Text.Utf8.encodeChar c ++ octets l := by
  match l with
  | [] => simp [octets]
  | [d] => simp [octets]
  | d :: e :: r => rw [octets, if_neg h]

/-- An encoded octet is read back. -/
theorem octets_encodeOctet (b : UInt8) (l : List Char) :
    octets (encodeOctet b ++ l) = b :: octets l := by
  have hb := b.toNat_lt
  have hhigh := hexValue_hexDigit (show b.toNat / 16 < 16 by omega)
  have hlow := hexValue_hexDigit (show b.toNat % 16 < 16 by omega)
  have hvalue : b.toNat / 16 * 16 + b.toNat % 16 = b.toNat := by omega
  simp only [encodeOctet, List.cons_append, List.nil_append]
  rw [octets, if_pos rfl, hhigh, hlow]
  simp only [hvalue]
  simp

/-- Encoded octets are read back. -/
theorem octets_flatMap_encodeOctet (bs : List UInt8) (l : List Char) :
    octets (bs.flatMap encodeOctet ++ l) = bs ++ octets l := by
  induction bs with
  | nil => rfl
  | cons b bs ih =>
    rw [List.flatMap_cons, List.append_assoc, octets_encodeOctet, ih, List.cons_append]

/-- A text that was percent encoded stands for its octets, if percent signs were encoded too. -/
theorem octets_encode {set : Char → Bool} (hset : set '%' = true) (l : List Char) :
    octets (encode set l) = Text.Utf8.encode l := by
  induction l with
  | nil => rfl
  | cons c l ih =>
    rw [encode] at ih
    rw [encode, Text.Utf8.encode, List.flatMap_cons, List.flatMap_cons, encodeChar]
    split
    · rw [octets_flatMap_encodeOctet, ih, Text.Utf8.encode]
    · next hc =>
      have hne : c ≠ '%' := by
        rintro rfl
        exact hc hset
      rw [List.singleton_append, octets_cons hne, ih, Text.Utf8.encode]

namespace Form

/-! ## Keys and values -/

/-- What is left of an encoded part are plain characters, plus signs and percent signs. -/
theorem mem_encodePart {s : String} {c : Char} (h : c ∈ encodePart s) :
    isPlain c = true ∨ c = '+' ∨ c = '%' := by
  obtain ⟨d, -, hd⟩ := List.mem_flatMap.1 h
  unfold encodeChar at hd
  split at hd
  · exact .inr (.inl (List.mem_singleton.1 hd))
  · unfold Url.encodeChar at hd
    split at hd
    · obtain ⟨b, -, hb⟩ := List.mem_flatMap.1 hd
      rcases mem_encodeOctet hb with hc | ⟨n, hn, rfl⟩
      · exact .inr (.inr hc)
      · left
        rw [isPlain, isAlphanum_hexDigit hn, Bool.true_or]
    · next hplain =>
      rw [List.mem_singleton.1 hd]
      left
      simpa using hplain

/-- A character that stands for something in a query does not occur in a key or a value. -/
theorem not_mem_encodePart (s : String) {c : Char} (hplain : isPlain c = false) (hplus : c ≠ '+')
    (hpercent : c ≠ '%') : c ∉ encodePart s := by
  intro h
  rcases mem_encodePart h with h | h | h
  · rw [hplain] at h
    cases h
  · exact hplus h
  · exact hpercent h

/-- A plus sign read as a space. -/
def spaced (c : Char) : Char :=
  if c = '+' then ' ' else c

/-- An encoded part with its plus signs read as spaces is the part with everything encoded but plain
characters and spaces. -/
theorem map_spaced_encodePart (s : String) :
    (encodePart s).map spaced = Url.encode (fun c => !isPlain c && c != ' ') s.toList := by
  have hchar : ∀ c, (encodeChar c).map spaced =
      Url.encodeChar (fun c => !isPlain c && c != ' ') c := by
    intro c
    by_cases hspace : c = ' '
    · subst hspace
      rfl
    have hne : (c != ' ') = true := by simpa using hspace
    rw [encodeChar, if_neg hspace, Url.encodeChar, Url.encodeChar, hne, Bool.and_true]
    split
    · -- percent signs and digits are no plus signs
      have hself : ∀ d ∈ (Text.Utf8.encodeChar c).flatMap encodeOctet, spaced d = d := by
        intro d hd
        obtain ⟨b, -, hb⟩ := List.mem_flatMap.1 hd
        rcases mem_encodeOctet hb with rfl | ⟨n, hn, rfl⟩
        · rfl
        · have hdigit := isAlphanum_hexDigit hn
          rw [spaced, if_neg]
          intro hplus
          rw [hplus] at hdigit
          exact absurd hdigit (by decide)
      exact (List.map_congr_left hself).trans (List.map_id _)
    · next hplain =>
      have hplus : c ≠ '+' := by
        rintro rfl
        exact hplain rfl
      simp [spaced, hplus]
  rw [encodePart, Url.encode, List.map_flatMap]
  exact List.flatMap_congr fun c _ => hchar c

/-- An encoded part of a form is read back. -/
theorem decodePart_encodePart (s : String) : decodePart (encodePart s) = s := by
  show String.ofList (Text.Utf8.decodeLossy (octets ((encodePart s).map spaced))) = s
  rw [map_spaced_encodePart, octets_encode (by decide), Text.Utf8.decodeLossy_encode,
    String.ofList_toList]

/-- The first equals sign of an encoded pair is the one between the key and the value. -/
theorem decodePair_encodePair (p : String × String) : decodePair (encodePair p) = p := by
  have hkey : ∀ c ∈ encodePart p.1, (decide (c ≠ '=')) = true := by
    intro c hc
    have hne : c ≠ '=' := by
      rintro rfl
      exact not_mem_encodePart p.1 (by decide) (by decide) (by decide) hc
    simpa using hne
  have hbefore : (encodePair p).takeWhile (· ≠ '=') = encodePart p.1 := by
    rw [encodePair, List.takeWhile_append_of_pos hkey]
    simp
  have hbehind : (encodePair p).dropWhile (· ≠ '=') = '=' :: encodePart p.2 := by
    rw [encodePair, List.dropWhile_append_of_pos hkey]
    simp
  rw [decodePair, hbefore, hbehind, List.drop_one, List.tail_cons, decodePart_encodePart,
    decodePart_encodePart]

/-! ## Queries -/

/-- An encoded pair consists of plain characters, plus signs, percent signs and an equals sign. -/
theorem mem_encodePair {p : String × String} {c : Char} (h : c ∈ encodePair p) :
    isPlain c = true ∨ c = '+' ∨ c = '%' ∨ c = '=' := by
  rw [encodePair, List.mem_append, List.mem_cons] at h
  have hpart : ∀ s, c ∈ encodePart s → isPlain c = true ∨ c = '+' ∨ c = '%' ∨ c = '=' := by
    intro s hs
    have hcases := mem_encodePart hs
    tauto
  rcases h with h | h | h
  · exact hpart _ h
  · exact .inr (.inr (.inr h))
  · exact hpart _ h

/-- A query holds plain characters, and few others. -/
theorem mem_encode {pairs : List (String × String)} {c : Char} (h : c ∈ encode pairs) :
    isPlain c = true ∨ c ∈ ['+', '%', '=', '&'] := by
  rcases Text.of_mem_joinWith h with h | ⟨part, hpart, hc⟩
  · rw [List.mem_singleton.1 h]
    exact .inr (by decide)
  · obtain ⟨p, -, rfl⟩ := List.mem_map.1 hpart
    rcases mem_encodePair hc with h | rfl | rfl | rfl
    · exact .inl h
    all_goals exact .inr (by decide)

/-- A query does not hold the character that would begin a fragment. -/
theorem hash_not_mem_encode (pairs : List (String × String)) : '#' ∉ encode pairs := by
  intro h
  rcases mem_encode h with h | h
  · exact absurd h (by decide)
  · exact absurd h (by decide)

/-- **A query is decoded into the keys and values that it was written for.** -/
theorem decode_encode (pairs : List (String × String)) : decode (encode pairs) = pairs := by
  cases pairs with
  | nil => rfl
  | cons p ps =>
    have hseparate : ∀ q ∈ (p :: ps).map encodePair, '&' ∉ q := by
      intro q hq hmem
      obtain ⟨pair, -, rfl⟩ := List.mem_map.1 hq
      rcases mem_encodePair hmem with h | h
      · exact absurd h (by decide)
      · exact absurd h (by decide)
    have hfull : ∀ q ∈ (p :: ps).map encodePair, (!q.isEmpty) = true := by
      intro q hq
      obtain ⟨pair, -, rfl⟩ := List.mem_map.1 hq
      simp [encodePair]
    rw [decode, encode, Text.pieces_joinWith (by simp) hseparate, List.filter_eq_self.2 hfull,
      List.map_map]
    have hpair : decodePair ∘ encodePair = id := funext decodePair_encodePair
    rw [hpair, List.map_id]

end Form
end ToolRelay.Url
