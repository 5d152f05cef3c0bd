import Mathlib
import ToolRelay.Decimal.Digits
import ToolRelay.Text.Blank

/-!
# Decimal text reads back

A written number holds digits only, perhaps behind a minus sign, and reads back as itself. Of the
integers, those of 64 bits do; `Decimal.int64?_ofInt` says that no other does. Whole numbers are read
from more texts than they are written as, and `Decimal.natural?_eq_some_iff` says from which.
-/

set_option autoImplicit false

namespace ToolRelay

/-- A text without white space has nothing to trim. -/
theorem Text.trim_eq_self {l : List Char} (h : ∀ c ∈ l, Text.isBlank c = false) :
    Text.trim l = l := by
  have hdrop : ∀ m : List Char, (∀ c ∈ m, Text.isBlank c = false) →
      m.dropWhile Text.isBlank = m := by
    intro m hm
    cases m with
    | nil => rfl
    | cons c r => simp [hm c List.mem_cons_self]
  rw [Text.trim, Text.trimEnd, Text.trimStart, hdrop l h,
    hdrop l.reverse fun c hc => h c (List.mem_reverse.1 hc), List.reverse_reverse]

namespace Decimal

/-- Digits are those of the library. -/
theorem isDigit_eq (c : Char) : isDigit c = c.isDigit := by
  simp only [isDigit, Char.isDigit, Char.le_def]

/-- The digits lie next to each other. -/
theorem toNat_of_isDigit {c : Char} (h : isDigit c = true) : 48 ≤ c.toNat ∧ c.toNat ≤ 57 := by
  rw [isDigit, Bool.and_eq_true, decide_eq_true_eq, decide_eq_true_eq] at h
  exact h

/-- No digit is blank. -/
theorem isBlank_of_isDigit {c : Char} (h : isDigit c = true) : Text.isBlank c = false := by
  obtain ⟨hlow, hhigh⟩ := toNat_of_isDigit h
  simp only [Text.isBlank, Bool.or_eq_false_iff, Bool.and_eq_false_iff, decide_eq_false_iff_not,
    beq_eq_false_iff_ne]
  omega

/-- A written number holds digits only. -/
theorem all_isDigit_ofNat (n : Nat) : (ofNat n).all isDigit = true := by
  rw [List.all_eq_true]
  intro c hc
  rw [isDigit_eq]
  exact Nat.isDigit_of_mem_toDigits (by decide) (by decide) hc

/-- A written number has the value that it was written for. -/
theorem valueFrom_ofNat (n : Nat) : valueFrom 0 (ofNat n) = n := by
  have hread := Nat.ofDigitChars_ten_toDigits (n := n)
  rw [Nat.ofDigitChars_eq_foldl] at hread
  refine Eq.trans ?_ hread
  -- the two folds multiply by ten from different sides
  simp only [valueFrom, ofNat, Nat.mul_comm]
  rfl

/-- Digits are read as their value, and nothing else is read. -/
theorem digits?_eq_some_iff {l : List Char} {n : Nat} :
    digits? l = some n ↔ l ≠ [] ∧ (∀ c ∈ l, isDigit c = true) ∧ valueFrom 0 l = n := by
  rw [← List.all_eq_true, digits?]
  cases l with
  | nil => simp
  | cons c r => cases (c :: r).all isDigit <;> simp

/-- A written number is read as itself. -/
theorem digits?_ofNat (n : Nat) : digits? (ofNat n) = some n := by
  have hne : (ofNat n).isEmpty = false := by simp [ofNat]
  simp [digits?, hne, all_isDigit_ofNat, valueFrom_ofNat]

/-- A written number begins with a digit. -/
theorem exists_ofNat_eq_cons (n : Nat) : ∃ c r, ofNat n = c :: r ∧ isDigit c = true := by
  cases h : ofNat n with
  | nil => exact absurd h (by simp [ofNat])
  | cons c r =>
    have hall := all_isDigit_ofNat n
    rw [h, List.all_cons, Bool.and_eq_true] at hall
    exact ⟨c, r, rfl, hall.1⟩

/-- Whether a text is a whole number: digits, perhaps behind a plus sign. -/
def Denotes (l : List Char) (n : Nat) : Prop :=
  ∃ digits, (l = digits ∨ l = '+' :: digits) ∧ digits ≠ [] ∧
    (∀ c ∈ digits, isDigit c = true) ∧ valueFrom 0 digits = n

/-- A text is read as the number that it denotes, up to the bound. -/
theorem natural?_eq_some_iff {bound n : Nat} {l : List Char} :
    natural? bound l = some n ↔ Denotes l n ∧ n ≤ bound := by
  have hfilter : ∀ digits, (digits? digits).filter (· ≤ bound) = some n ↔
      digits? digits = some n ∧ n ≤ bound := by
    intro digits
    rw [Option.filter_eq_some_iff, decide_eq_true_eq]
  unfold natural? Denotes
  simp only [hfilter, digits?_eq_some_iff]
  refine and_congr_left fun _ => ?_
  split
  · next r =>
    constructor
    · intro h
      exact ⟨r, .inr rfl, h⟩
    · rintro ⟨digits, rfl | hdigits, h⟩
      · -- a plus sign is no digit
        exact absurd (h.2.1 '+' List.mem_cons_self) (by decide)
      · cases hdigits
        exact h
  · next hplus =>
    constructor
    · intro h
      exact ⟨l, .inl rfl, h⟩
    · rintro ⟨digits, rfl | hdigits, h⟩
      · exact h
      · exact absurd hdigits (hplus digits)

/-- A text that begins with a digit has no sign to be read. -/
theorem int64?_of_isDigit {c : Char} (r : List Char) (h : isDigit c = true) :
    int64? (c :: r) = ((digits? (c :: r)).filter (· ≤ 0x7FFFFFFFFFFFFFFF)).map Int.ofNat := by
  have hminus : c ≠ '-' := by rintro rfl; exact absurd h (by decide)
  have hplus : c ≠ '+' := by rintro rfl; exact absurd h (by decide)
  unfold int64?
  split
  · exact absurd (List.cons.inj ‹_›).1 hminus
  · unfold natural?
    split
    · exact absurd (List.cons.inj ‹_›).1 hplus
    · rfl

/-- An integer is read back from its text if it fits 64 bits with the sign, and is refused
otherwise. -/
theorem int64?_ofInt (n : Int) :
    int64? (ofInt n) =
      if -0x8000000000000000 ≤ n ∧ n < 0x8000000000000000 then some n else none := by
  cases n with
  | ofNat n =>
    obtain ⟨c, r, hcons, hdigit⟩ := exists_ofNat_eq_cons n
    have hread := digits?_ofNat n
    rw [hcons] at hread
    rw [ofInt, hcons, int64?_of_isDigit r hdigit, hread, Int.ofNat_eq_natCast]
    by_cases h : n ≤ 0x7FFFFFFFFFFFFFFF
    · rw [Option.filter_some, if_pos (by simpa using h), if_pos (by omega)]
      rfl
    · rw [Option.filter_some, if_neg (by simpa using h), if_neg (by omega)]
      rfl
  | negSucc n =>
    rw [ofInt, int64?, digits?_ofNat]
    by_cases h : n + 1 ≤ 0x8000000000000000
    · rw [Option.filter_some, if_pos (by simpa using h), if_pos (by omega)]
      exact congrArg some (Int.negSucc_eq n).symm
    · rw [Option.filter_some, if_neg (by simpa using h), if_neg (by omega)]
      rfl

/-- No integer is written as an empty text. -/
theorem ofInt_ne_nil (n : Int) : ofInt n ≠ [] := by
  cases n with
  | ofNat n =>
    obtain ⟨c, r, hcons, -⟩ := exists_ofNat_eq_cons n
    rw [ofInt, hcons]
    exact List.cons_ne_nil c r
  | negSucc n => exact List.cons_ne_nil _ _

/-- A written integer has no white space around it. -/
theorem trim_ofInt (n : Int) : Text.trim (ofInt n) = ofInt n := by
  have hdigits : ∀ m : Nat, ∀ c ∈ ofNat m, Text.isBlank c = false := fun m c hc =>
    isBlank_of_isDigit (List.all_eq_true.1 (all_isDigit_ofNat m) c hc)
  refine Text.trim_eq_self ?_
  cases n with
  | ofNat n => exact hdigits n
  | negSucc n =>
    rintro c (_ | ⟨_, hc⟩)
    · decide
    · exact hdigits (n + 1) c hc

end Decimal
end ToolRelay
