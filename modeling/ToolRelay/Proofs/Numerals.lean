import ToolRelay.Proofs.Decimals
import ToolRelay.Proofs.Trimming

/-!
# Numerals of integers

A numeral of an integer has the digits of its absolute value behind a sign and any number of zeros,
and a text spells the integer if it holds such a numeral and nothing else but white space around it.
Digits are a numeral always (`Decimal.exists_zeros`), so an integer of 64 bits is read from the texts
that spell it and from no others (`Decimal.int64?_trim_eq_some_iff`).
-/

set_option autoImplicit false

namespace ToolRelay.Decimal

/-- The signs that a numeral of an integer can have. Zero can have any. -/
inductive Signed (n : Int) : List Char → Prop
  | minus (nonpos : n ≤ 0) : Signed n ['-']
  | plus (nonneg : 0 ≤ n) : Signed n ['+']
  | unsigned (nonneg : 0 ≤ n) : Signed n []

/-- Whether a text is a numeral of an integer: a sign, any zeros, and the digits of its absolute
value. -/
def IsNumeral (l : List Char) (n : Int) : Prop :=
  ∃ sign zeros, Signed n sign ∧ l = sign ++ (List.replicate zeros '0' ++ ofNat n.natAbs)

/-- Whether a text is a numeral of an integer with any white space around it. -/
def Spells (l : List Char) (n : Int) : Prop :=
  ∃ before numeral behind, l = before ++ numeral ++ behind ∧ IsNumeral numeral n ∧
    Text.IsSpace before ∧ Text.IsSpace behind

variable {l : List Char}

/-! ## Digits behind zeros -/

/-- One more digit at the end makes the value ten times as large, and its own value more. -/
theorem valueFrom_concat (before : Nat) (l : List Char) (c : Char) :
    valueFrom before (l ++ [c]) = valueFrom before l * 10 + (c.toNat - 48) :=
  List.foldl_concat _ _ _ _

/-- Zeros in front do not count. -/
theorem valueFrom_zeros (zeros : Nat) (l : List Char) :
    valueFrom 0 (List.replicate zeros '0' ++ l) = valueFrom 0 l := by
  induction zeros with
  | zero => rfl
  | succ zeros ih => exact ih

/-- A number below ten is written with one digit. -/
theorem ofNat_of_lt {n : Nat} (h : n < 10) : ofNat n = [n.digitChar] :=
  Nat.toDigits_of_lt_base h

/-- A digit is the one of its value. -/
theorem digitChar_of_isDigit {c : Char} (h : isDigit c = true) : (c.toNat - 48).digitChar = c := by
  obtain ⟨hlow, hhigh⟩ := toNat_of_isDigit h
  apply Char.toNat_inj.1
  rw [Nat.toNat_digitChar_of_lt_ten (by omega)]
  omega

/-- A digit behind a number other than zero makes a longer number. -/
theorem ofNat_concat {n : Nat} {c : Char} (hn : 0 < n) (hc : isDigit c = true) :
    ofNat (n * 10 + (c.toNat - 48)) = ofNat n ++ [c] := by
  obtain ⟨hlow, hhigh⟩ := toNat_of_isDigit hc
  have hlt : c.toNat - 48 < 10 := by omega
  have happend := Nat.toDigits_append_toDigits (by decide : 1 < 10) hn hlt
  rw [Nat.toDigits_of_lt_base hlt, digitChar_of_isDigit hc, Nat.mul_comm] at happend
  exact happend.symm

/-- Digits are zeros and then the number that they have the value of. -/
theorem exists_zeros (hne : l ≠ []) (hdigits : ∀ c ∈ l, isDigit c = true) :
    ∃ zeros, l = List.replicate zeros '0' ++ ofNat (valueFrom 0 l) := by
  induction l using List.reverseRecOn with
  | nil => exact absurd rfl hne
  | append_singleton front c ih =>
    have hc : isDigit c = true := hdigits c (by simp)
    obtain ⟨hlow, hhigh⟩ := toNat_of_isDigit hc
    have hsingle : ofNat (c.toNat - 48) = [c] := by
      rw [ofNat_of_lt (by omega), digitChar_of_isDigit hc]
    rw [valueFrom_concat]
    by_cases hfront : front = []
    · refine ⟨0, ?_⟩
      rw [hfront, valueFrom, List.foldl_nil, Nat.zero_mul, Nat.zero_add, hsingle]
      rfl
    · obtain ⟨zeros, hzeros⟩ := ih hfront fun d hd => hdigits d (List.mem_append_left _ hd)
      rcases Nat.eq_zero_or_pos (valueFrom 0 front) with hzero | hpos
      · -- the zero that the front is written by is one zero more before the last digit
        refine ⟨zeros + 1, ?_⟩
        rw [hzero, ofNat_of_lt (by decide)] at hzeros
        rw [hzero, Nat.zero_mul, Nat.zero_add, hsingle, List.replicate_succ']
        exact congrArg (· ++ [c]) hzeros
      · refine ⟨zeros, ?_⟩
        rw [ofNat_concat hpos hc, ← List.append_assoc, ← hzeros]

/-- A number with zeros in front consists of digits. -/
theorem isDigit_of_mem_zeros {zeros n : Nat} {c : Char}
    (h : c ∈ List.replicate zeros '0' ++ ofNat n) : isDigit c = true := by
  rcases List.mem_append.1 h with h | h
  · rw [List.eq_of_mem_replicate h]
    decide
  · exact List.all_eq_true.1 (all_isDigit_ofNat n) c h

/-- A number is read from its digits behind any zeros. -/
theorem digits?_eq_some_iff_zeros {n : Nat} :
    digits? l = some n ↔ ∃ zeros, l = List.replicate zeros '0' ++ ofNat n := by
  rw [digits?_eq_some_iff]
  constructor
  · rintro ⟨hne, hdigits, rfl⟩
    exact exists_zeros hne hdigits
  · rintro ⟨zeros, rfl⟩
    refine ⟨?_, fun c hc => isDigit_of_mem_zeros hc, ?_⟩
    · simp [ofNat]
    · rw [valueFrom_zeros, valueFrom_ofNat]

/-! ## Integers -/

/-- Behind a minus sign stand digits up to the bound. -/
theorem int64?_minus (digits : List Char) : int64? ('-' :: digits) =
    ((digits? digits).filter (· ≤ 0x8000000000000000)).map fun n : Nat => -(n : Int) := by
  rw [int64?]
  cases (digits? digits).filter (· ≤ 0x8000000000000000) <;> rfl

/-- Without a minus sign stands a natural number up to the bound. -/
theorem int64?_of_ne_minus (h : ∀ digits, l ≠ '-' :: digits) :
    int64? l = (natural? 0x7FFFFFFFFFFFFFFF l).map fun n : Nat => (n : Int) := by
  unfold int64?
  split
  · next digits => exact absurd rfl (h digits)
  · rfl

/-- A whole number has numerals with a plus sign and without a sign. -/
theorem denotes_iff {n : Nat} : Denotes l n ↔
    ∃ sign zeros, (sign = [] ∨ sign = ['+']) ∧
      l = sign ++ (List.replicate zeros '0' ++ ofNat n) := by
  unfold Denotes
  simp only [← digits?_eq_some_iff, digits?_eq_some_iff_zeros]
  constructor
  · rintro ⟨digits, rfl | rfl, zeros, rfl⟩
    · exact ⟨[], zeros, .inl rfl, rfl⟩
    · exact ⟨['+'], zeros, .inr rfl, rfl⟩
  · rintro ⟨sign, zeros, rfl | rfl, rfl⟩
    · exact ⟨_, .inl rfl, zeros, rfl⟩
    · exact ⟨_, .inr rfl, zeros, rfl⟩

/-- Behind a minus sign the digits of a numeral have the value without its sign. -/
theorem isNumeral_minus_iff {digits : List Char} {n : Int} :
    IsNumeral ('-' :: digits) n ↔ ∃ m : Nat, digits? digits = some m ∧ n = -m := by
  simp only [digits?_eq_some_iff_zeros]
  constructor
  · rintro ⟨sign, zeros, hsign, hl⟩
    cases hsign with
    | minus nonpos => exact ⟨n.natAbs, ⟨zeros, (List.cons.inj hl).2⟩, by omega⟩
    | plus => cases hl
    | unsigned =>
      -- a minus sign is no digit
      have hmem : '-' ∈ List.replicate zeros '0' ++ ofNat n.natAbs := by
        rw [← List.nil_append (List.replicate _ _ ++ _), ← hl]
        exact List.mem_cons_self
      exact absurd (isDigit_of_mem_zeros hmem) (by decide)
  · rintro ⟨m, ⟨zeros, rfl⟩, rfl⟩
    refine ⟨['-'], zeros, .minus (by omega), ?_⟩
    rw [Int.natAbs_neg, Int.natAbs_natCast]
    rfl

/-- Without a minus sign a numeral denotes a natural number. -/
theorem isNumeral_iff_of_ne_minus (h : ∀ digits, l ≠ '-' :: digits) {n : Int} :
    IsNumeral l n ↔ ∃ m : Nat, Denotes l m ∧ n = m := by
  simp only [denotes_iff]
  constructor
  · rintro ⟨sign, zeros, hsign, hl⟩
    cases hsign with
    | minus => exact absurd hl (h _)
    | plus nonneg => exact ⟨n.natAbs, ⟨['+'], zeros, .inr rfl, hl⟩, by omega⟩
    | unsigned nonneg => exact ⟨n.natAbs, ⟨[], zeros, .inl rfl, hl⟩, by omega⟩
  · rintro ⟨m, ⟨sign, zeros, hsign, rfl⟩, rfl⟩
    refine ⟨sign, zeros, ?_, rfl⟩
    rcases hsign with rfl | rfl
    · exact .unsigned (by omega)
    · exact .plus (by omega)

/-- An integer is read from its numerals if it is one of 64 bits, the sign among them. -/
theorem int64?_eq_some_iff {n : Int} : int64? l = some n ↔
    (-0x8000000000000000 ≤ n ∧ n < 0x8000000000000000) ∧ IsNumeral l n := by
  by_cases hminus : ∃ digits, l = '-' :: digits
  · obtain ⟨digits, rfl⟩ := hminus
    simp only [int64?_minus, isNumeral_minus_iff, Option.map_eq_some_iff,
      Option.filter_eq_some_iff, decide_eq_true_eq]
    constructor
    · rintro ⟨m, ⟨hdigits, hle⟩, rfl⟩
      exact ⟨by omega, m, hdigits, rfl⟩
    · rintro ⟨hbounds, m, hdigits, rfl⟩
      exact ⟨m, ⟨hdigits, by omega⟩, rfl⟩
  · have hne : ∀ digits, l ≠ '-' :: digits := fun digits heq => hminus ⟨digits, heq⟩
    simp only [int64?_of_ne_minus hne, isNumeral_iff_of_ne_minus hne, Option.map_eq_some_iff,
      natural?_eq_some_iff]
    constructor
    · rintro ⟨m, ⟨hdenotes, hle⟩, rfl⟩
      exact ⟨by omega, m, hdenotes, rfl⟩
    · rintro ⟨hbounds, m, hdenotes, rfl⟩
      exact ⟨m, ⟨hdenotes, by omega⟩, rfl⟩

/-! ## White space around a numeral -/

/-- A numeral has no white space in it. -/
theorem IsNumeral.isBlank_eq_false {n : Int} (h : IsNumeral l n) {c : Char} (hc : c ∈ l) :
    Text.isBlank c = false := by
  obtain ⟨sign, zeros, hsign, rfl⟩ := h
  rcases List.mem_append.1 hc with hc | hc
  · cases hsign with
    | unsigned => cases hc
    | _ =>
      rw [List.mem_singleton.1 hc]
      decide
  · exact isBlank_of_isDigit (isDigit_of_mem_zeros hc)

/-- A text spells a number exactly if it is a numeral without the white space around it. -/
theorem spells_iff {n : Int} : Spells l n ↔ IsNumeral (Text.trim l) n := by
  constructor
  · rintro ⟨before, numeral, behind, rfl, hnumeral, hbefore, hbehind⟩
    rw [Text.trim_append_space hbefore hbehind,
      Text.trim_eq_self fun c hc => hnumeral.isBlank_eq_false hc]
    exact hnumeral
  · intro h
    obtain ⟨before, behind, hl, hbefore, hbehind⟩ := Text.exists_trim l
    exact ⟨before, Text.trim l, behind, hl, h, hbefore, hbehind⟩

/-- Of the integers of 64 bits, a text is read as the one that it spells. -/
theorem int64?_trim_eq_some_iff {n : Int} : int64? (Text.trim l) = some n ↔
    (-0x8000000000000000 ≤ n ∧ n < 0x8000000000000000) ∧ Spells l n := by
  rw [int64?_eq_some_iff, spells_iff]

end ToolRelay.Decimal
