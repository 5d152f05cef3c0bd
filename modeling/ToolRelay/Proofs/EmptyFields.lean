import ToolRelay.Proofs.ResultCount

/-!
# Records with empty fields

A record may say nothing in a field, or say the empty text. A template looks at a field only through
`Template.present`, which takes the one for the other, so a text is the same for records whose
fields are all made `present` (`Layout.lines_filled`), and records that differ in empty fields only
have the same text. A record with no fields to show has the lines of a bare address.
-/

set_option autoImplicit false

namespace ToolRelay

namespace SearchRecord

/-- The record with nothing in place of every empty field. -/
def filled (r : SearchRecord) : SearchRecord where
  title := Template.present r.title
  url := r.url
  content := Template.present r.content
  engine := Template.present r.engine
  publishedDate := Template.present r.publishedDate
  imageSource := Template.present r.imageSource
  source := Template.present r.source

/-- Whether a field is the same, or was empty and is left out. -/
inductive FieldCleared : Option String → Option String → Prop
  | same (field : Option String) : FieldCleared field field
  | cleared : FieldCleared (some "") none

/-- The second record is the first one without some of its empty fields. -/
structure Cleared (r s : SearchRecord) : Prop where
  title : FieldCleared r.title s.title
  url : s.url = r.url
  content : FieldCleared r.content s.content
  engine : FieldCleared r.engine s.engine
  publishedDate : FieldCleared r.publishedDate s.publishedDate
  imageSource : FieldCleared r.imageSource s.imageSource
  source : FieldCleared r.source s.source

/-- Whether a record has nothing but an address: its other fields are empty or left out. -/
def Bare (r : SearchRecord) : Prop :=
  ∀ field ∈ [r.title, r.content, r.engine, r.publishedDate, r.imageSource, r.source],
    field = none ∨ field = some ""

/-- A cleared field is shown like the field. -/
theorem FieldCleared.present {f g : Option String} (h : FieldCleared f g) :
    Template.present g = Template.present f := by
  cases h with
  | same => rfl
  | cleared => rfl

/-- A cleared record has the same fields to show. -/
theorem Cleared.filled {r s : SearchRecord} (h : r.Cleared s) : s.filled = r.filled := by
  unfold SearchRecord.filled
  rw [h.title.present, h.url, h.content.present, h.engine.present, h.publishedDate.present,
    h.imageSource.present, h.source.present]

/-- Cleared records have the same fields to show. -/
theorem map_filled_of_cleared {rs ss : List SearchRecord} (h : List.Forall₂ Cleared rs ss) :
    ss.map SearchRecord.filled = rs.map SearchRecord.filled := by
  induction h with
  | nil => rfl
  | cons hcleared _ ih => rw [List.map_cons, List.map_cons, hcleared.filled, ih]

/-- A bare record has an address to show and nothing else. -/
theorem Bare.filled {r : SearchRecord} (h : r.Bare) :
    r.filled = ⟨none, r.url, none, none, none, none, none⟩ := by
  have hpresent : ∀ field ∈
      [r.title, r.content, r.engine, r.publishedDate, r.imageSource, r.source],
      Template.present field = none := by
    intro field hfield
    rcases h field hfield with rfl | rfl <;> rfl
  simp only [List.forall_mem_cons] at hpresent
  obtain ⟨htitle, hcontent, hengine, hdate, himage, hsource, -⟩ := hpresent
  rw [SearchRecord.filled, htitle, hcontent, hengine, hdate, himage, hsource]

end SearchRecord

namespace Template

/-- What is shown of a field is shown as it is. -/
@[simp] theorem present_present (field : Option String) :
    present (present field) = present field := by
  unfold present
  rw [Option.filter_filter]
  simp

/-- A record is laid out by the fields that it has to show. -/
theorem lines_filled (l : Layout) (index : Nat) (r : SearchRecord) :
    l.lines index r.filled = l.lines index r := by
  obtain ⟨title, url, content, engine, publishedDate, imageSource, source⟩ := r
  unfold SearchRecord.filled Layout.lines
  simp only [present_present]

/-- Records are laid out by the fields that they have to show. -/
theorem blocks_map_filled (l : Layout) (index : Nat) (rs : List SearchRecord) :
    l.blocks index (rs.map SearchRecord.filled) = l.blocks index rs := by
  induction rs generalizing index with
  | nil => rfl
  | cons r rs ih =>
    rw [List.map_cons, Layout.blocks, ih, Layout.block, lines_filled, Layout.blocks, Layout.block]

/-- Records are rendered by the fields that they have to show. -/
theorem render_map_filled (t : Template) (query : String) (rs : List SearchRecord) :
    t.render query (.records (rs.map SearchRecord.filled)) = t.render query (.records rs) := by
  simp only [render, Layout.render, blocks_map_filled, List.isEmpty_map]

/-- The lines of a record that has nothing but an address. -/
def Layout.bareLines (l : Layout) (index : Nat) (url : String) : List String :=
  ["### " ++ number index ++ ". No title"] ++
    (if l.image then ["**Image URL:** " ++ url, "**Page URL:** " ++ url]
     else if l.registry then ["**Registry:** " ++ registryLabel url, "**URL:** " ++ url]
     else ["**URL:** " ++ url])

/-- A bare record is laid out in the lines for its address. -/
theorem lines_of_bare (l : Layout) (index : Nat) {r : SearchRecord} (h : r.Bare) :
    l.lines index r = l.bareLines index r.url := by
  have htitle : "### " ++ number index ++ ". " ++ "No title" =
      "### " ++ number index ++ ". No title" := by
    rw [String.append_assoc]
    rfl
  rw [← lines_filled, h.filled]
  unfold Layout.lines Layout.bareLines
  by_cases himage : l.image = true
  · simp [himage, present, htitle]
  · by_cases hregistry : l.registry = true <;> simp [himage, hregistry, present, htitle]

/-- **An empty field is the same as none.** Records have the same text when some of their empty
fields are left out, in whatever template. And where a record has nothing but an address, its part of
the text is its number in place of a title, the lines for the address with that for the registry or
the image if the template has one, and the empty line. -/
theorem empty_fields_unshown (t : Template) (query : String) :
    (∀ rs ss, List.Forall₂ SearchRecord.Cleared rs ss →
      t.render query (.records ss) = t.render query (.records rs)) ∧
    ∀ l, t.layout? = some l → ∀ before r behind, SearchRecord.Bare r →
      t.render query (.records (before ++ r :: behind)) =
        .ok ("## " ++ l.heading ++ " for: " ++ inQuotes query ++ "\n\n" ++ l.blocks 1 before ++
          (String.join ((l.bareLines (before.length + 1) r.url).map (· ++ "\n")) ++ "\n") ++
          l.blocks (before.length + 2) behind) := by
  constructor
  · intro rs ss hcleared
    rw [← render_map_filled t query ss, SearchRecord.map_filled_of_cleared hcleared,
      render_map_filled]
  · intro l hl before r behind hbare
    have hindex : 1 + before.length = before.length + 1 := Nat.add_comm 1 before.length
    rw [render, hl]
    dsimp only
    rw [Layout.render, if_neg (by simp), blocks_append, Layout.blocks, Layout.block, hindex,
      lines_of_bare l _ hbare]
    simp only [String.append_assoc]

/-- A package with a title and a content, and other fields empty or left out. -/
def packageAt (title content : Option String) : SearchRecord :=
  ⟨title, "https://crates.io/x", content, none, some "", none, some ""⟩

/-- A package whose title and content are empty shows what it shows without them. -/
theorem empty_fields_unshown_package :
    packages.render "x" (.records [packageAt none none]) =
        packages.render "x" (.records [packageAt (some "") (some "")]) ∧
      packages.render "x" (.records [packageAt (some "") (some "")]) =
        .ok ("## Package Results for: \"x\"\n\n### 1. No title\n**Registry:** crates.io\n" ++
          "**URL:** https://crates.io/x\n\n") := by
  have hcleared : (packageAt (some "") (some "")).Cleared (packageAt none none) :=
    ⟨.cleared, rfl, .cleared, .same _, .same _, .same _, .same _⟩
  have hbare : (packageAt (some "") (some "")).Bare := by
    unfold SearchRecord.Bare
    decide
  obtain ⟨hsame, htext⟩ := empty_fields_unshown packages "x"
  refine ⟨hsame _ _ (.cons hcleared .nil), (htext _ rfl [] _ [] hbare).trans ?_⟩
  decide +kernel

end Template
end ToolRelay
