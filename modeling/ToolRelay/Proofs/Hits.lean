import ToolRelay.Hit
import ToolRelay.Proofs.Decoding

/-!
# Which values of a reply become records

Whether a value becomes a record is said here once more without decoding it (`Hit.Yields`), and a
list of values becomes the list of their records, in their order and with nothing in place of the
others (`Gathered`). What a search is after are the objects with an address that is not blank
(`Hit.Usable`). The two agree on a value just when it is `Hit.Regular`: an array can yield a record
too, and an object with an address yields none when another known member is no text.
-/

set_option autoImplicit false

namespace ToolRelay

/-- The second list has one item for each item of the first that stands for something, in the same
order, and nothing else. -/
inductive Gathered {α β : Type} (StandsFor : α → β → Prop) : List α → List β → Prop
  | nil : Gathered StandsFor [] []
  | taken {a : α} {b : β} {l : List α} {m : List β} (h : StandsFor a b)
      (rest : Gathered StandsFor l m) : Gathered StandsFor (a :: l) (b :: m)
  | skipped {a : α} {l : List α} {m : List β} (h : ∀ b, ¬StandsFor a b)
      (rest : Gathered StandsFor l m) : Gathered StandsFor (a :: l) m

/-- A list without what stands for nothing is gathered. -/
theorem gathered_filterMap {α β : Type} {StandsFor : α → β → Prop} {f : α → Option β}
    (h : ∀ a b, f a = some b ↔ StandsFor a b) (l : List α) :
    Gathered StandsFor l (l.filterMap f) := by
  induction l with
  | nil => exact .nil
  | cons a r ih =>
    cases hf : f a with
    | none =>
      rw [List.filterMap_cons_none hf]
      refine .skipped (fun b hb => ?_) ih
      rw [← h, hf] at hb
      cases hb
    | some b =>
      rw [List.filterMap_cons_some hf]
      exact .taken ((h a b).1 hf) ih

/-- What a record says is what stands in the fields of a hit; a field that holds no text says
nothing, and the address is a text that is not blank. -/
structure SearchRecord.Tells (r : SearchRecord) (field? : String → Option Json) : Prop where
  url : field? "url" = some (.str r.url)
  usable : Text.blank r.url = false
  title : r.title = Hit.textOf (field? "title")
  content : r.content = Hit.textOf (field? "content")
  engine : r.engine = Hit.textOf (field? "engine")
  publishedDate : r.publishedDate = Hit.textOf (field? "publishedDate")
  imageSource : r.imageSource = Hit.textOf (field? "img_src")
  source : r.source = Hit.textOf (field? "source")

namespace Hit

/-- A text or `null`. -/
abbrev TextOrNull (v : Json) : Prop :=
  (ValueRange.orNull .text).Holds v

/-- The record that a value yields. -/
inductive Yields : Json → SearchRecord → Prop
  | object {members : List (String × Json)} {r : SearchRecord}
      (typed : ∀ e ∈ members, e.1 ∈ fields → TextOrNull e.2)
      (tells : r.Tells fun name => Dict.find? name members) : Yields (.obj members) r
  | row {items : List Json} {r : SearchRecord} (short : items.length ≤ fields.length)
      (typed : ∀ v ∈ items, TextOrNull v)
      (tells : r.Tells fun name => (fields.zip items).lookup name) : Yields (.arr items) r

/-! ## Decoding a hit -/

/-- A field is without fault exactly if it is a text or null. -/
theorem fault?_eq_none_iff (v : Json) : fault? v = none ↔ TextOrNull v := by
  have hdecode := (Kind.optional .text).exists_decode_iff v
  rw [show (Kind.optional .text).range = .orNull .text from rfl] at hdecode
  rw [TextOrNull, ← hdecode, fault?, decodeField]
  cases (Kind.optional .text).decode v <;> simp

/-- A field has a text exactly if it is one. -/
theorem textOf_eq_some_iff {v : Option Json} {s : String} :
    textOf v = some s ↔ v = some (.str s) := by
  cases v with
  | none => simp [textOf]
  | some v => cases v <;> simp [textOf, Json.str?]

/-- An object is decoded exactly if each of the fields in it is a text or null. -/
theorem decode_obj_eq_ok_iff {members : List (String × Json)} {h : Hit} :
    decode (.obj members) = .ok h ↔
      (∀ e ∈ members, e.1 ∈ fields → TextOrNull e.2) ∧
        ofFields (fun name => Dict.find? name members) = h := by
  have hfaults : (members.findSome? fun e => if e.1 ∈ fields then fault? e.2 else none) = none ↔
      ∀ e ∈ members, e.1 ∈ fields → TextOrNull e.2 := by
    rw [List.findSome?_eq_none_iff]
    refine forall₂_congr fun e _ => ?_
    rw [← fault?_eq_none_iff]
    simp
  rw [← hfaults, decode]
  split
  · next e hfault => simp [hfault]
  · next hfault => simp [hfault]

/-- An array is decoded exactly if it has no more than the fields, each of them a text or null. -/
theorem decode_arr_eq_ok_iff {items : List Json} {h : Hit} :
    decode (.arr items) = .ok h ↔
      (items.length ≤ fields.length ∧ ∀ v ∈ items, TextOrNull v) ∧
        ofFields (fun name => (fields.zip items).lookup name) = h := by
  rw [decode]
  by_cases hshort : items.length ≤ fields.length
  · have hfaults : items.findSome? fault? = none ↔ ∀ v ∈ items, TextOrNull v := by
      rw [List.findSome?_eq_none_iff]
      exact forall₂_congr fun v _ => fault?_eq_none_iff v
    have hlong : ¬fields.length < items.length := Nat.not_lt.2 hshort
    rw [List.take_of_length_le hshort, ← hfaults]
    split
    · next e hfault => simp [hfault]
    · next hfault => simp [hfault, hlong, hshort]
  · have hlong : fields.length < items.length := Nat.not_le.1 hshort
    split <;> simp [hlong, hshort]

/-- A hit has a record exactly if its fields tell one. -/
theorem toRecord?_ofFields_eq_some_iff {field? : String → Option Json} {r : SearchRecord} :
    (ofFields field?).toRecord? = some r ↔ r.Tells field? := by
  rw [toRecord?, show (ofFields field?).url = textOf (field? "url") from rfl]
  cases hurl : textOf (field? "url") with
  | none =>
    simp only [reduceCtorEq, false_iff]
    intro htells
    rw [textOf_eq_some_iff.2 htells.url] at hurl
    cases hurl
  | some url =>
    rw [textOf_eq_some_iff] at hurl
    dsimp only
    split
    · next hblank =>
      simp only [reduceCtorEq, false_iff]
      intro htells
      cases htells.url.symm.trans hurl
      exact absurd hblank (by simp [htells.usable])
    · next hblank =>
      rw [Option.some.injEq]
      constructor
      · rintro rfl
        exact ⟨hurl, by simpa using hblank, rfl, rfl, rfl, rfl, rfl, rfl⟩
      · rintro ⟨hurl', -, h₁, h₂, h₃, h₄, h₅, h₆⟩
        cases hurl.symm.trans hurl'
        cases r
        simp_all [ofFields]

/-- A value has a record exactly if it yields it. -/
theorem record?_eq_some_iff (v : Json) (r : SearchRecord) : record? v = some r ↔ Yields v r := by
  rw [record?]
  cases v with
  | obj members =>
    constructor
    · intro h
      split at h
      · next hit hdecode =>
        obtain ⟨htyped, rfl⟩ := decode_obj_eq_ok_iff.1 hdecode
        exact .object htyped (toRecord?_ofFields_eq_some_iff.1 h)
      · cases h
    · rintro ⟨htyped, htells⟩
      rw [decode_obj_eq_ok_iff.2 ⟨htyped, rfl⟩]
      exact toRecord?_ofFields_eq_some_iff.2 htells
  | arr items =>
    constructor
    · intro h
      split at h
      · next hit hdecode =>
        obtain ⟨⟨hshort, htyped⟩, rfl⟩ := decode_arr_eq_ok_iff.1 hdecode
        exact .row hshort htyped (toRecord?_ofFields_eq_some_iff.1 h)
      · cases h
    · rintro (_ | ⟨hshort, htyped, htells⟩)
      rw [decode_arr_eq_ok_iff.2 ⟨⟨hshort, htyped⟩, rfl⟩]
      exact toRecord?_ofFields_eq_some_iff.2 htells
  | _ =>
    simp only [decode, reduceCtorEq, false_iff]
    rintro ⟨⟩

/-! ## Usable hits -/

/-- An object with an address that is not blank. -/
def Usable (v : Json) : Prop :=
  ∃ members url, v = .obj members ∧ Dict.find? "url" members = some (.str url) ∧
    Text.blank url = false

/-- An array that lists the known members of a hit with an address that is not blank. -/
structure IsRow (items : List Json) : Prop where
  short : items.length ≤ fields.length
  typed : ∀ v ∈ items, TextOrNull v
  address : ∃ url, items[1]? = some (.str url) ∧ Text.blank url = false

/-- Whether a value is treated for what it is: the known members of a usable object are texts or
`null`, and an array does not pass for a hit. -/
def Regular : Json → Prop
  | .obj members => Usable (.obj members) → ∀ e ∈ members, e.1 ∈ fields → TextOrNull e.2
  | .arr items => ¬IsRow items
  | _ => True

/-- There is a record for what stands in the fields exactly when there is an address among them. -/
theorem exists_tells_iff (field? : String → Option Json) :
    (∃ r : SearchRecord, r.Tells field?) ↔
      ∃ url, field? "url" = some (.str url) ∧ Text.blank url = false := by
  constructor
  · rintro ⟨r, htells⟩
    exact ⟨r.url, htells.url, htells.usable⟩
  · rintro ⟨url, hurl, husable⟩
    exact ⟨⟨_, url, _, _, _, _, _⟩, hurl, husable, rfl, rfl, rfl, rfl, rfl, rfl⟩

/-- The address is the second item of an array. -/
theorem lookup_url_zip (items : List Json) : (fields.zip items).lookup "url" = items[1]? := by
  match items with
  | [] => rfl
  | [_] => rfl
  | _ :: v :: _ => simp [fields, List.lookup]

/-- An object yields a record exactly if its fields have their types and it can be used. -/
theorem exists_yields_obj_iff {members : List (String × Json)} :
    (∃ r, Yields (.obj members) r) ↔
      (∀ e ∈ members, e.1 ∈ fields → TextOrNull e.2) ∧ Usable (.obj members) := by
  have husable : Usable (.obj members) ↔
      ∃ r : SearchRecord, r.Tells fun name => Dict.find? name members := by
    rw [exists_tells_iff]
    simp [Usable]
  rw [husable]
  constructor
  · rintro ⟨r, htyped, htells⟩
    exact ⟨htyped, r, htells⟩
  · rintro ⟨htyped, r, htells⟩
    exact ⟨r, .object htyped htells⟩

/-- An array yields a record exactly if it is a row. -/
theorem exists_yields_arr_iff {items : List Json} :
    (∃ r, Yields (.arr items) r) ↔ IsRow items := by
  constructor
  · rintro ⟨r, _ | ⟨hshort, htyped, htells⟩⟩
    obtain ⟨url, hurl, husable⟩ := (exists_tells_iff _).1 ⟨r, htells⟩
    rw [lookup_url_zip] at hurl
    exact ⟨hshort, htyped, url, hurl, husable⟩
  · rintro ⟨hshort, htyped, url, hurl, husable⟩
    rw [← lookup_url_zip] at hurl
    obtain ⟨r, htells⟩ := (exists_tells_iff fun name => (fields.zip items).lookup name).2
      ⟨url, hurl, husable⟩
    exact ⟨r, .row hshort htyped htells⟩

/-- No array counts as usable. -/
theorem not_usable_arr (items : List Json) : ¬Usable (.arr items) := by
  rintro ⟨members, url, heq, -⟩
  cases heq

/-- **The records are those of the values that yield one, in their order**, and a value yields a
record for being a usable hit, or none for not being one, exactly when it is regular. -/
theorem records_gathered (values : List Json) :
    Gathered Yields values (records values) ∧
      ∀ v : Json, ((∃ r, Yields v r) ↔ Usable v) ↔ Regular v := by
  refine ⟨gathered_filterMap record?_eq_some_iff values, fun v => ?_⟩
  cases v with
  | obj members =>
    rw [exists_yields_obj_iff, Regular]
    constructor
    · intro h husable
      exact (h.2 husable).1
    · intro htyped
      exact ⟨fun h => h.2, fun husable => ⟨htyped husable, husable⟩⟩
  | arr items =>
    rw [exists_yields_arr_iff, Regular]
    constructor
    · intro h hrow
      exact not_usable_arr items (h.1 hrow)
    · intro hrow
      exact ⟨fun h => absurd h hrow, fun husable => absurd husable (not_usable_arr items)⟩
  | _ =>
    -- neither an object nor an array: not usable, and without a record
    refine iff_of_true ⟨?_, ?_⟩ trivial
    · rintro ⟨r, ⟨⟩⟩
    · rintro ⟨members, url, heq, -⟩
      cases heq

/-- An array of a title and an address yields a record without being an object, and an object with
an address is passed over for a title that is a number. -/
theorem records_row_and_untyped :
    records [.arr [.str "T", .str "https://a.example"]] =
        [⟨some "T", "https://a.example", none, none, none, none, none⟩] ∧
      ¬Usable (.arr [.str "T", .str "https://a.example"]) ∧
      records [.obj [("title", .int 5), ("url", .str "https://a.example")]] = [] ∧
      Usable (.obj [("title", .int 5), ("url", .str "https://a.example")]) :=
  ⟨rfl, not_usable_arr _, rfl, _, _, rfl, rfl, by decide⟩

end Hit
end ToolRelay
