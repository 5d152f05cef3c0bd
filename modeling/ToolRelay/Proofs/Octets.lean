import Mathlib
import ToolRelay.Text.Utf8

/-!
# UTF-8 is read back

The octets of a text are read as the characters of the text, with no gap among them. A character is
read by itself: whatever octets follow, they are read from the state between two characters
(`run_encodeChar`).
-/

set_option autoImplicit false

namespace ToolRelay.Text.Utf8

/-- A number below 256 is an octet of that number. -/
theorem toNat_toUInt8 {n : Nat} (h : n < 256) : n.toUInt8.toNat = n := by
  simpa using h

/-- An octet of a number is compared by the number. -/
theorem toUInt8_le_iff {n : Nat} (h : n < 256) (b : UInt8) : n.toUInt8 ≤ b ↔ n ≤ b.toNat := by
  rw [UInt8.le_iff_toNat_le, toNat_toUInt8 h]

/-- An octet is compared with that of a number by the number. -/
theorem le_toUInt8_iff {n : Nat} (h : n < 256) (b : UInt8) : b ≤ n.toUInt8 ↔ b.toNat ≤ n := by
  rw [UInt8.le_iff_toNat_le, toNat_toUInt8 h]

/-- An octet of a number is less than another if the number is. -/
theorem toUInt8_lt_iff {n : Nat} (h : n < 256) (b : UInt8) : n.toUInt8 < b ↔ n < b.toNat := by
  rw [UInt8.lt_iff_toNat_lt, toNat_toUInt8 h]

/-- An octet of a number is another one if the number is the same. -/
theorem toUInt8_eq_iff {n : Nat} (h : n < 256) (b : UInt8) : n.toUInt8 = b ↔ n = b.toNat := by
  rw [← UInt8.toNat_inj, toNat_toUInt8 h]

/-! ## The first octet -/

/-- Octets of ASCII are whole characters. -/
theorem lead_one {n : Nat} (h : n < 0x80) : Lead.of n.toUInt8 = .single := by
  have h' : n.toUInt8 < 0x80 := (toUInt8_lt_iff (by omega) _).2 h
  rw [Lead.of, if_pos h']

/-- These octets announce one more. -/
theorem lead_two {n : Nat} (hlow : 0xC2 ≤ n) (hhigh : n < 0xE0) :
    Lead.of n.toUInt8 = .more 1 0x80 0xBF (n - 0xC0) := by
  have h : n < 256 := by omega
  simp only [Lead.of, toUInt8_lt_iff h, toNat_toUInt8 h, UInt8.reduceToNat]
  rw [if_neg (by omega), if_neg (by omega), if_pos (by omega)]

/-- Behind a lead of three octets the second one is bounded so that the number is neither too small
for three octets nor that of a surrogate. -/
theorem lead_three (n second : Nat) (hlow : 0xE0 ≤ n) (hhigh : n < 0xF0) (hsecond : 0x80 ≤ second)
    (hsecond' : second ≤ 0xBF) (hlong : n = 0xE0 → 0xA0 ≤ second)
    (hsurrogate : n = 0xED → second ≤ 0x9F) :
    ∃ low high, Lead.of n.toUInt8 = .more 2 low high (n - 0xE0) ∧ low.toNat ≤ second ∧
      second ≤ high.toNat := by
  have h : n < 256 := by omega
  simp only [Lead.of, toUInt8_lt_iff h, toUInt8_eq_iff h, toNat_toUInt8 h, UInt8.reduceToNat]
  rw [if_neg (by omega), if_neg (by omega), if_neg (by omega)]
  split
  · next hfirst => exact ⟨_, _, rfl, hlong hfirst, hsecond'⟩
  · split
    · next hfirst => exact ⟨_, _, rfl, hsecond, hsurrogate hfirst⟩
    · exact ⟨_, _, rfl, hsecond, hsecond'⟩

/-- Behind a lead of four octets the second one is bounded so that the number is neither too small
for four octets nor above the last character. -/
theorem lead_four (n second : Nat) (hlow : 0xF0 ≤ n) (hhigh : n ≤ 0xF4) (hsecond : 0x80 ≤ second)
    (hsecond' : second ≤ 0xBF) (hlong : n = 0xF0 → 0x90 ≤ second)
    (hlast : n = 0xF4 → second ≤ 0x8F) :
    ∃ low high, Lead.of n.toUInt8 = .more 3 low high (n - 0xF0) ∧ low.toNat ≤ second ∧
      second ≤ high.toNat := by
  have h : n < 256 := by omega
  simp only [Lead.of, toUInt8_lt_iff h, toUInt8_eq_iff h, toNat_toUInt8 h, UInt8.reduceToNat]
  rw [if_neg (by omega), if_neg (by omega), if_neg (by omega), if_neg (by omega),
    if_neg (by omega), if_neg (by omega)]
  split
  · next hfirst => exact ⟨_, _, rfl, hlong hfirst, hsecond'⟩
  · split
    · exact ⟨_, _, rfl, hsecond, hsecond'⟩
    · rw [if_pos (by omega)]
      exact ⟨_, _, rfl, hsecond, hlast (by omega)⟩

/-! ## The state machine -/

/-- Octets are read one after the other. -/
theorem run_cons (s : State) (b : UInt8) (rest : List UInt8) :
    s.run (b :: rest) = (s.step b).1 ++ (s.step b).2.run rest := rfl

/-- A lead puts a character under way. -/
theorem run_lead {b low high : UInt8} {count bits : Nat} (h : Lead.of b = .more count low high bits)
    (rest : List UInt8) :
    State.between.run (b :: rest) = State.run ⟨count, low, high, bits⟩ rest := by
  have hstep : State.between.step b = ([], ⟨count, low, high, bits⟩) := by
    simp [State.step, State.between, State.start, h]
  rw [run_cons, hstep, List.nil_append]

/-- The last octet of a character completes it. -/
theorem run_last {low high : UInt8} {value octet : Nat} (hlow : low.toNat ≤ octet)
    (hhigh : octet ≤ high.toNat) (rest : List UInt8) :
    State.run ⟨1, low, high, value⟩ (octet.toUInt8 :: rest) =
      some (Char.ofNat (value * 64 + (octet - 0x80))) :: State.between.run rest := by
  have h : octet < 256 := lt_of_le_of_lt hhigh high.toNat_lt
  have hstep : State.step ⟨1, low, high, value⟩ octet.toUInt8 =
      ([some (Char.ofNat (value * 64 + (octet - 0x80)))], .between) := by
    simp [State.step, le_toUInt8_iff h, toUInt8_le_iff h, toNat_toUInt8 h, hlow, hhigh]
  rw [run_cons, hstep]
  rfl

/-- An octet within a character adds its bits. -/
theorem run_next {low high : UInt8} {value octet count : Nat} (hlow : low.toNat ≤ octet)
    (hhigh : octet ≤ high.toNat) (rest : List UInt8) :
    State.run ⟨count + 2, low, high, value⟩ (octet.toUInt8 :: rest) =
      State.run ⟨count + 1, 0x80, 0xBF, value * 64 + (octet - 0x80)⟩ rest := by
  have h : octet < 256 := lt_of_le_of_lt hhigh high.toNat_lt
  have hstep : State.step ⟨count + 2, low, high, value⟩ octet.toUInt8 =
      ([], ⟨count + 1, 0x80, 0xBF, value * 64 + (octet - 0x80)⟩) := by
    simp [State.step, le_toUInt8_iff h, toUInt8_le_iff h, toNat_toUInt8 h, hlow, hhigh]
  rw [run_cons, hstep, List.nil_append]

/-! ## Characters and texts -/

/-- The number of a character is no surrogate and not above the last character. -/
theorem toNat_valid (c : Char) : c.toNat < 0xD800 ∨ 0xDFFF < c.toNat ∧ c.toNat < 0x110000 :=
  c.valid

/-- Every character has an octet. -/
theorem encodeChar_ne_nil (c : Char) : encodeChar c ≠ [] := by
  unfold encodeChar
  dsimp only
  split
  · simp
  · split
    · simp
    · split <;> simp

/-- An octet of a character is the character itself, or lies beyond ASCII. -/
theorem of_mem_encodeChar {c : Char} {b : UInt8} (h : b ∈ encodeChar c) :
    b.toNat = c.toNat ∨ 0x80 ≤ b.toNat := by
  have hvalid := toNat_valid c
  have hbeyond : ∀ n, 0x80 ≤ n → n < 256 → 0x80 ≤ n.toUInt8.toNat := by
    intro n hle hlt
    rwa [toNat_toUInt8 hlt]
  unfold encodeChar at h
  dsimp only at h
  split at h
  · left
    rw [List.mem_singleton.1 h, toNat_toUInt8 (by omega)]
  · right
    split at h
    · simp only [List.mem_cons, List.not_mem_nil, or_false] at h
      rcases h with rfl | rfl <;> exact hbeyond _ (by omega) (by omega)
    · split at h
      · simp only [List.mem_cons, List.not_mem_nil, or_false] at h
        rcases h with rfl | rfl | rfl <;> exact hbeyond _ (by omega) (by omega)
      · simp only [List.mem_cons, List.not_mem_nil, or_false] at h
        rcases h with rfl | rfl | rfl | rfl <;> exact hbeyond _ (by omega) (by omega)

/-- The octets of a character are read as the character. -/
theorem run_encodeChar (c : Char) (rest : List UInt8) :
    State.between.run (encodeChar c ++ rest) = some c :: State.between.run rest := by
  have hvalid := toNat_valid c
  -- in each length the bits that the octets share out make up the number of the character again
  have hchar : ∀ n, n = c.toNat → Char.ofNat n = c := by
    rintro n rfl
    exact Char.ofNat_toNat c
  have hBF : (0xBF : UInt8).toNat = 0xBF := rfl
  have h80 : (0x80 : UInt8).toNat = 0x80 := rfl
  unfold encodeChar
  dsimp only
  split
  · next hone =>
    have hstep : State.between.step c.toNat.toUInt8 = ([some c], .between) := by
      simp [State.step, State.between, State.start, lead_one hone,
        Nat.mod_eq_of_lt (show c.toNat < 256 by omega)]
    rw [List.singleton_append, run_cons, hstep]
    rfl
  · split
    · next htwo =>
      simp only [List.cons_append, List.nil_append]
      rw [run_lead (lead_two (by omega) (by omega)), run_last (by omega) (by omega),
        hchar _ (by omega)]
    · split
      · next hthree =>
        simp only [List.cons_append, List.nil_append]
        obtain ⟨low, high, hlead, hlow, hhigh⟩ := lead_three (0xE0 + c.toNat / 4096)
          (0x80 + c.toNat / 64 % 64) (by omega) (by omega) (by omega) (by omega) (by omega)
          (by omega)
        rw [run_lead hlead, run_next hlow hhigh, run_last (by omega) (by omega),
          hchar _ (by omega)]
      · simp only [List.cons_append, List.nil_append]
        obtain ⟨low, high, hlead, hlow, hhigh⟩ := lead_four (0xF0 + c.toNat / 262144)
          (0x80 + c.toNat / 4096 % 64) (by omega) (by omega) (by omega) (by omega) (by omega)
          (by omega)
        rw [run_lead hlead, run_next hlow hhigh, run_next (by omega) (by omega),
          run_last (by omega) (by omega), hchar _ (by omega)]

/-- The octets of a text are read as its characters. -/
theorem chunks_encode (l : List Char) : chunks (encode l) = l.map some := by
  show State.between.run (l.flatMap encodeChar) = l.map some
  induction l with
  | nil => rfl
  | cons c r ih => rw [List.flatMap_cons, run_encodeChar, ih, List.map_cons]

/-- An encoded text is decoded without a loss. -/
theorem decodeLossy_encode (l : List Char) : decodeLossy (encode l) = l := by
  rw [decodeLossy, chunks_encode, List.map_map]
  exact List.map_id l

end ToolRelay.Text.Utf8
