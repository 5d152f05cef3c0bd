import ToolRelay.Argument.File
import ToolRelay.Proofs.Decimals
import ToolRelay.Proofs.Description
import ToolRelay.Dispatch

/-!
# Values that go through a file

A file hands every value over as a text, and the type of the parameter turns the text into a value
again. `Coercion.relay` is the way there and back. A value that can be sent at all comes back as it
was if it is a text or an integer of 64 bits (`supplied_relay`); any other value comes back as a
text that its parameter does not admit, unless it is `null` and the parameter admits all texts
(`not_holds_relay`).
-/

set_option autoImplicit false

namespace ToolRelay

/-! ## Reading the file -/

namespace Argument

/-- A new value comes behind one that is there. -/
theorem get?_insertNew {α : Type} (d : Dict α) (k : String) (v : α) (key : String) :
    (d.insertNew k v).get? key = (d.get? key).or (if k = key then some v else none) := by
  unfold Dict.insertNew Dict.contains
  split
  · next h =>
    obtain ⟨w, hw⟩ := Option.isSome_iff_exists.1 h
    by_cases hk : k = key
    · subst hk
      rw [hw, Option.some_or]
    · rw [if_neg hk, Option.or_none]
  · next h =>
    have hnone : d.get? k = none := by simpa using h
    rw [Dict.get?_insert]
    by_cases hk : k = key
    · subst hk
      rw [if_pos rfl, if_pos rfl, hnone, Option.none_or]
    · rw [if_neg hk, if_neg hk, Option.or_none]

/-- Arguments that are known already come before those of the file. -/
theorem get?_withFile (known file : Dict String) (key : String) :
    (withFile known file).get? key = (known.get? key).or (file.get? key) := by
  have hfold : ∀ (l : List (String × String)) (d : Dict String),
      (l.foldl (fun d e => d.insertNew e.1 e.2) d).get? key =
        (d.get? key).or (Dict.find? key l) := by
    intro l
    induction l with
    | nil => simp [Dict.find?]
    | cons e r ih =>
      obtain ⟨k, v⟩ := e
      intro d
      rw [List.foldl_cons, ih, get?_insertNew, Option.or_assoc, Dict.find?]
      by_cases hk : k = key <;> simp [hk]
  exact hfold file.entries known

/-- Where nothing is known the arguments are those of the file. -/
@[simp] theorem withFile_empty (file : Dict String) : withFile .empty file = file :=
  Dict.ext_get? fun key => by rw [get?_withFile, Dict.get?_empty, Option.none_or]

/-- A file with the ending `.json` is not read as YAML. -/
theorem isYamlPath_of_json {path : String} (h : ".json".toList <:+ path.toList) :
    isYamlPath path = false := by
  have hlower : ".json".toList <:+ path.toList.map Char.toLower := by
    obtain ⟨front, hpath⟩ := h
    exact ⟨front.map Char.toLower, by rw [← hpath, List.map_append]; rfl⟩
  -- no ending of YAML files is also one of `.json`, and none is longer
  have hother : ∀ ending ∈ yamlEndings,
      ending.toList.length ≤ ".json".toList.length ∧ ¬ending.toList <:+ ".json".toList := by
    decide
  have hnone : ∀ ending ∈ yamlEndings, ¬ending.toList <:+ path.toList.map Char.toLower :=
    fun ending hending hsuffix => (hother ending hending).2
      (List.suffix_of_suffix_length_le hsuffix hlower (hother ending hending).1)
  simpa [isYamlPath, List.isSuffixOf_iff_suffix] using hnone

/-- A file with an object in JSON holds the texts of its members. -/
theorem loadFile_json {path : String} {octets : List UInt8} {text : List Char} {args : Dict Json}
    (hpath : isYamlPath path = false) (hdecode : Text.Utf8.decode? octets = some text)
    (hread : Json.ofText? (String.ofList text) = some (.ofDict args)) :
    loadFile .empty path (some octets) = .ok (args.map fun _ v => fileText v) := by
  rw [loadFile, fileArguments, Option.bind_some, hdecode]
  simp only [fileValue, hpath, hread, Bool.false_eq_true, if_false, Json.ofDict,
    Dict.ofList_entries, Except.map, withFile_empty]

end Argument

/-! ## There and back -/

namespace Coercion

/-- Whether a value is a text or an integer of 64 bits, the sign among them. -/
def Survives : Json → Prop
  | .str _ => True
  | .int n => -0x8000000000000000 ≤ n ∧ n < 0x8000000000000000
  | _ => False

/-- What a value in a file comes to for a parameter of a range. -/
def relay (range : ValueRange) (v : Json) : Json :=
  coerce (Argument.fileText v) range.word

/-- A text for a text stays as it is. -/
@[simp] theorem coerce_string (raw : String) : coerce raw "string" = .str raw := by
  simp [coerce]

/-- Where an integer is wanted, a text is read as one of 64 bits if it can be. -/
theorem coerce_integer (raw : String) :
    coerce raw "integer" = ((Decimal.int64? (Text.trim raw.toList)).map .int).getD (.str raw) := by
  simp [coerce]

/-- The word of a range is one of two. -/
theorem word_cases (range : ValueRange) : range.word = "string" ∨ range.word = "integer" := by
  induction range with
  | orNull range ih => exact ih
  | _ => simp [ValueRange.word]

/-- From a file, `null` comes back as a text. -/
theorem relay_null (range : ValueRange) : relay range .null = .str "null" := by
  rcases word_cases range with hword | hword <;> rw [relay, hword] <;> rfl

/-- A range with a text in it is described as one of texts. -/
theorem word_of_holds_str {range : ValueRange} {s : String} (h : range.Holds (.str s)) :
    range.word = "string" := by
  induction range with
  | orNull range ih => exact ih (by simpa [ValueRange.Holds] using h)
  | natural bound => simp [ValueRange.Holds] at h
  | _ => rfl

/-- A range with an integer in it is described as one of integers. -/
theorem word_of_holds_int {range : ValueRange} {n : Int} (h : range.Holds (.int n)) :
    range.word = "integer" := by
  induction range with
  | orNull range ih => exact ih (by simpa [ValueRange.Holds] using h)
  | natural bound => rfl
  | _ => simp [ValueRange.Holds] at h

/-- A range with an object in it has a label for its only member, and not all texts. -/
theorem of_holds_obj {range : ValueRange} {members : List (String × Json)}
    (h : range.Holds (.obj members)) :
    range.word = "string" ∧ range.textual = false := by
  induction range with
  | orNull range ih => exact ih (by simpa [ValueRange.Holds] using h)
  | label labels => exact ⟨rfl, rfl⟩
  | _ => simp [ValueRange.Holds] at h

/-- A range holds no values but `null`, texts, integers and objects. -/
theorem shape_of_holds {range : ValueRange} {v : Json} (h : range.Holds v) :
    v = .null ∨ (∃ s, v = .str s) ∨ (∃ n, v = .int n) ∨ ∃ members, v = .obj members := by
  induction range with
  | text => exact .inr (.inl h)
  | natural bound =>
    obtain ⟨n, -, rfl⟩ := h
    exact .inr (.inr (.inl ⟨n, rfl⟩))
  | label labels =>
    obtain ⟨s, -, rfl | rfl⟩ := h
    · exact .inr (.inl ⟨s, rfl⟩)
    · exact .inr (.inr (.inr ⟨_, rfl⟩))
  | orNull range ih => exact h.elim .inl ih

/-- An integer of a file is written in decimal. -/
theorem toList_fileText_int (n : Int) :
    (Argument.fileText (.int n)).toList = Decimal.ofInt n := by
  simp [Argument.fileText, Json.plain, Json.text, Json.chars]

/-- Where an integer is wanted, one of 64 bits comes back as it was and any other as a text. -/
theorem coerce_integer_fileText (n : Int) : coerce (Argument.fileText (.int n)) "integer" =
    if -0x8000000000000000 ≤ n ∧ n < 0x8000000000000000 then .int n
    else .str (Argument.fileText (.int n)) := by
  rw [coerce_integer, toList_fileText_int, Decimal.trim_ofInt, Decimal.int64?_ofInt]
  split <;> rfl

/-- A text that is not empty counts as supplied. -/
theorem supplied_str {s : String} (h : s.toList ≠ []) : Dispatch.supplied (.str s) = true := by
  have hne : s ≠ "" := by
    rintro rfl
    exact h rfl
  simpa [Dispatch.supplied] using hne

/-- A text or an integer of 64 bits that can be sent comes back as it was, as far as it counts as
supplied. -/
theorem supplied_relay {range : ValueRange} {v : Json} (h : Survives v)
    (hv : Dispatch.supplied v = true → range.Holds v) :
    (some (relay range v)).filter Dispatch.supplied = (some v).filter Dispatch.supplied := by
  cases v with
  | str s =>
    -- only the empty text can stand where an integer is wanted, and it counts as nothing there
    by_cases hs : s = ""
    · subst hs
      rcases word_cases range with hword | hword <;> rw [relay, hword] <;> rfl
    · have hword := word_of_holds_str (hv (by simpa [Dispatch.supplied] using hs))
      rw [relay, hword, coerce_string]
      rfl
  | int n =>
    rw [relay, word_of_holds_int (hv rfl), coerce_integer_fileText]
    exact congrArg (fun v => (some v).filter Dispatch.supplied) (if_pos h)
  | _ => exact h.elim

/-- Any other value that can be sent comes back as a text that its parameter does not admit, unless
it is `null` and the parameter admits all texts. -/
theorem not_holds_relay {range : ValueRange} {v : Json} (h : ¬Survives v)
    (hv : Dispatch.supplied v = true → range.Holds v)
    (hlabels : ∀ s ∈ range.labels, s ≠ "null" ∧ s.toList.head? ≠ some '{')
    (htext : v = .null → range.textual = false) :
    Dispatch.supplied (relay range v) = true ∧ ¬range.Holds (relay range v) := by
  cases v with
  | null =>
    rw [relay_null, ValueRange.holds_str_iff, htext rfl]
    refine ⟨rfl, ?_⟩
    rintro (hfalse | hmem)
    · cases hfalse
    · exact (hlabels _ hmem).1 rfl
  | int n =>
    have hword := word_of_holds_int (hv rfl)
    have hrelay : relay range (.int n) = .str (Argument.fileText (.int n)) := by
      rw [relay, hword, coerce_integer_fileText]
      exact if_neg h
    rw [hrelay]
    refine ⟨supplied_str ?_, fun hholds => ?_⟩
    · rw [toList_fileText_int]
      exact Decimal.ofInt_ne_nil n
    · exact absurd (hword.symm.trans (word_of_holds_str hholds)) (by decide)
  | obj members =>
    obtain ⟨hword, hnot⟩ := of_holds_obj (hv rfl)
    have hrelay : relay range (.obj members) = .str (Argument.fileText (.obj members)) := by
      rw [relay, hword, coerce_string]
    have hhead : (Argument.fileText (.obj members)).toList.head? = some '{' := by
      simp [Argument.fileText, Json.plain, Json.text, Json.chars]
    rw [hrelay, ValueRange.holds_str_iff, hnot]
    refine ⟨supplied_str fun hnil => ?_, ?_⟩
    · rw [hnil] at hhead
      cases hhead
    · rintro (hfalse | hmem)
      · cases hfalse
      · exact (hlabels _ hmem).2 hhead
  | str s => exact absurd trivial h
  | bool b => simpa using shape_of_holds (hv rfl)
  | float x => simpa using shape_of_holds (hv rfl)
  | arr items => simpa using shape_of_holds (hv rfl)

end Coercion
end ToolRelay
