import ToolRelay.Proofs.FileArguments
import ToolRelay.Proofs.Numerals
import ToolRelay.Proofs.References

/-!
# Values that are written and coerced again

What a text is coerced to is written as a file hands it over, and the new text is coerced for the
same type. The value stays as it was: a text that could not be read is written as it is and cannot
be read again, so all that is asked of a type is that its values are read from what is written for
them (`Coercion.stable_of_read`). This holds of integers, truth values and lists. For an integer,
`Coercion.coerce_stable` also says which texts come to which.
-/

set_option autoImplicit false

namespace ToolRelay

/-! ## Lists in a text -/

namespace Text

/-- Joining is the one of the library. -/
theorem joinWith_eq_intercalate (sep : List Char) (ps : List (List Char)) :
    joinWith sep ps = sep.intercalate ps := by
  induction ps with
  | nil => rfl
  | cons p ps ih =>
    cases ps with
    | nil => rw [joinWith, List.intercalate_singleton]
    | cons q qs =>
      have hne : q :: qs ≠ [] := List.cons_ne_nil q qs
      rw [joinWith, ih, List.intercalate_cons_of_ne_nil hne]
      exact hne

/-- The items of a list in a text: what stands between commas, without the white space around it. -/
def items (l : List Char) : List (List Char) :=
  (pieces ',' l).map trim

/-- A text has an item at least. -/
theorem items_ne_nil (l : List Char) : items l ≠ [] := by
  rw [items, ne_eq, List.map_eq_nil_iff]
  exact pieces_ne_nil ',' l

/-- No item holds a comma. -/
theorem comma_not_mem_of_mem_items {l item : List Char} (h : item ∈ items l) : ',' ∉ item := by
  obtain ⟨piece, hpiece, rfl⟩ := List.mem_map.1 h
  intro hcomma
  exact (of_mem_pieces hpiece (trim_subset piece hcomma)).1 rfl

/-- Items that are put together with commas are found again. -/
theorem items_joinWith_items (l : List Char) : items (joinWith [','] (items l)) = items l := by
  have hpieces : pieces ',' (joinWith [','] (items l)) = items l :=
    pieces_joinWith (items_ne_nil l) fun item => comma_not_mem_of_mem_items
  rw [items, hpieces, items, List.map_map]
  exact List.map_congr_left fun piece _ => trim_trim piece

end Text

namespace Coercion

/-! ## Types whose values are read again -/

/-- Whether what texts come to for a type is kept by writing it and coercing what is written. -/
def Stable (type : String) : Prop :=
  ∀ raw, coerce (Argument.fileText (coerce raw type)) type = coerce raw type

/-- A type is stable if each of its values is read again from what is written for it. -/
theorem stable_of_read {type : String} (read : List Char → Option Json)
    (hcoerce : ∀ raw, coerce raw type = (read raw.toList).getD (.str raw))
    (hread : ∀ l v, read l = some v → read (Argument.fileText v).toList = some v) :
    Stable type := by
  intro raw
  rw [hcoerce raw]
  cases hraw : read raw.toList with
  | none =>
    -- the text is written as it is, and it is not read this time either
    have hsame : Argument.fileText (.str raw) = raw := rfl
    rw [Option.getD_none, hsame, hcoerce, hraw, Option.getD_none]
  | some v => rw [Option.getD_some, hcoerce, hread _ v hraw, Option.getD_some]

/-- Integers are stable. -/
theorem stable_integer : Stable "integer" := by
  apply stable_of_read (fun l => (Decimal.int64? (Text.trim l)).map .int) coerce_integer
  intro l v hv
  obtain ⟨n, hn, rfl⟩ := Option.map_eq_some_iff.1 hv
  have hbounds := (Decimal.int64?_eq_some_iff.1 hn).1
  rw [toList_fileText_int, Decimal.trim_ofInt, Decimal.int64?_ofInt, if_pos hbounds]
  rfl

/-- A text for a boolean is one of the words, or stays a text. -/
theorem coerce_boolean (raw : String) : coerce raw "boolean" =
    ((boolean? (lowered (Text.trim raw.toList))).map .bool).getD (.str raw) := by
  simp [coerce]

/-- Booleans are stable. -/
theorem stable_boolean : Stable "boolean" := by
  apply stable_of_read (fun l => (boolean? (lowered (Text.trim l))).map .bool) coerce_boolean
  intro l v hv
  obtain ⟨b, -, rfl⟩ := Option.map_eq_some_iff.1 hv
  cases b <;> rfl

/-- A text for an array is split into its items. -/
theorem coerce_array (raw : String) :
    coerce raw "array" = .texts ((Text.items raw.toList).map String.ofList) := by
  simp [coerce, Json.texts, Text.items]

/-- An array of texts is written with commas in between. -/
theorem toList_fileText_texts (items : List (List Char)) :
    (Argument.fileText (.texts (items.map String.ofList))).toList =
      Text.joinWith [','] items := by
  have hplain : String.toList ∘ Json.plain ∘ Json.str ∘ String.ofList = id := by
    funext item
    exact String.toList_ofList
  simp [Argument.fileText, Json.texts, hplain, Text.joinWith_eq_intercalate]

/-- Arrays are stable. -/
theorem stable_array : Stable "array" := by
  apply stable_of_read (fun l => some (.texts ((Text.items l).map String.ofList))) coerce_array
  rintro l v ⟨⟩
  rw [toList_fileText_texts, Text.items_joinWith_items]

/-- A type that no text is read for is stable. -/
theorem stable_of_not_mem {type : String} (h : type ∉ readWords) : Stable type :=
  stable_of_read (fun _ => none) (coerce_of_not_mem h) nofun

/-- Every type but numbers is stable. -/
theorem stable_of_ne_number {type : String} (h : type ≠ "number") : Stable type := by
  by_cases hread : type ∈ readWords
  · simp only [readWords, List.mem_cons, List.not_mem_nil, or_false] at hread
    rcases hread with rfl | rfl | rfl | rfl
    · exact stable_integer
    · exact absurd rfl h
    · exact stable_boolean
    · exact stable_array
  · exact stable_of_not_mem hread

/-! ## Texts that come to integers -/

/-- A text is read as an integer exactly if it spells one of 64 bits. -/
theorem coerce_integer_eq_int_iff {raw : String} {n : Int} : coerce raw "integer" = .int n ↔
    (-0x8000000000000000 ≤ n ∧ n < 0x8000000000000000) ∧ Decimal.Spells raw.toList n := by
  rw [← Decimal.int64?_trim_eq_some_iff, coerce_integer]
  cases Decimal.int64? (Text.trim raw.toList) <;> simp

/-- A text for an integer stays a text exactly if it is read as none. -/
theorem coerce_integer_eq_str_iff {raw : String} : coerce raw "integer" = .str raw ↔
    ∀ n, coerce raw "integer" ≠ .int n := by
  rw [coerce_integer]
  cases Decimal.int64? (Text.trim raw.toList) <;> simp

/-- **What a text comes to is not changed by writing it and coercing it again**, for any type but that
of numbers. And where an integer is wanted, a text comes to an integer exactly when it is one of 64
bits and the text spells it, with any sign that it can have, any zeros in front and any white space
around; every other text comes to itself. -/
theorem coerce_stable :
    (∀ type, type ≠ "number" → ∀ raw,
      coerce (Argument.fileText (coerce raw type)) type = coerce raw type) ∧
    (∀ (raw : String) (n : Int), coerce raw "integer" = .int n ↔
      (-0x8000000000000000 ≤ n ∧ n < 0x8000000000000000) ∧ Decimal.Spells raw.toList n) ∧
    ∀ raw : String, coerce raw "integer" = .str raw ↔
      ∀ n, -0x8000000000000000 ≤ n ∧ n < 0x8000000000000000 → ¬Decimal.Spells raw.toList n := by
  refine ⟨fun type hnumber => stable_of_ne_number hnumber, ?_, ?_⟩
  · intro raw n
    exact coerce_integer_eq_int_iff
  · intro raw
    simp only [coerce_integer_eq_str_iff, ne_eq, coerce_integer_eq_int_iff, not_and]

/-- The least integer of 64 bits is spelled with a zero too many and white space around it, and the
greatest is the last that is read. -/
theorem coerce_stable_at_limits :
    "array" ≠ "number" ∧
      coerce (Argument.fileText (coerce "a, ,b" "array")) "array" = coerce "a, ,b" "array" ∧
      Decimal.Spells "\u3000-09223372036854775808\n".toList (-0x8000000000000000) ∧
      coerce "\u3000-09223372036854775808\n" "integer" = .int (-0x8000000000000000) ∧
      coerce "9223372036854775808" "integer" = .str "9223372036854775808" ∧
      ∀ n, -0x8000000000000000 ≤ n ∧ n < 0x8000000000000000 →
        ¬Decimal.Spells "9223372036854775808".toList n := by
  have hnumeral : Decimal.IsNumeral "-09223372036854775808".toList (-0x8000000000000000) :=
    ⟨['-'], 1, .minus (by decide), by decide⟩
  have hspells : Decimal.Spells "\u3000-09223372036854775808\n".toList (-0x8000000000000000) :=
    ⟨['\u3000'], "-09223372036854775808".toList, ['\n'], by simp, hnumeral,
      by simp [Text.IsSpace, Text.isBlank], by simp [Text.IsSpace, Text.isBlank]⟩
  have hbeyond : coerce "9223372036854775808" "integer" = .str "9223372036854775808" := rfl
  refine ⟨by decide, coerce_stable.1 "array" (by decide) "a, ,b", hspells, ?_, hbeyond, ?_⟩
  · exact (coerce_stable.2.1 _ _).2 ⟨by decide, hspells⟩
  · exact (coerce_stable.2.2 _).1 hbeyond

end Coercion
end ToolRelay
