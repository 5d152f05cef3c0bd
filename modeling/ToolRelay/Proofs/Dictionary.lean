import Mathlib
import ToolRelay.Dict

/-!
# Looking up in a dictionary

A dictionary is known by what it holds under each key (`Dict.ext_get?`), so every way of building
one is described by what a lookup in it gives. `mem_iff_find?` is the bridge: in a list with
distinct keys an entry is a member exactly when a lookup finds it. The rest of the file reads
filters, maps, merges and lists of entries through that.
-/

set_option autoImplicit false

namespace ToolRelay.Dict

variable {α β : Type}

/-! ## Lists of entries -/

/-- What is found is there. -/
theorem mem_of_find? {key : String} {value : α} {l : List (String × α)}
    (h : find? key l = some value) : (key, value) ∈ l := by
  induction l with
  | nil => simp [find?] at h
  | cons e r ih =>
    obtain ⟨k, v⟩ := e
    unfold find? at h
    split at h
    · next hk =>
      cases h
      exact hk ▸ List.mem_cons_self
    · exact List.mem_cons_of_mem _ (ih h)

/-- Among distinct keys, a lookup finds exactly the entries. -/
theorem mem_iff_find? {l : List (String × α)} (distinct : (l.map (·.1)).Nodup)
    {key : String} {value : α} : (key, value) ∈ l ↔ find? key l = some value := by
  refine ⟨fun h => ?_, mem_of_find?⟩
  induction l with
  | nil => simp at h
  | cons e r ih =>
    obtain ⟨k, v⟩ := e
    rw [List.map_cons, List.nodup_cons] at distinct
    rcases List.mem_cons.1 h with heq | hmem
    · cases heq
      simp [find?]
    · -- the first entry has another key, so the lookup goes on
      have hk : k ≠ key := by
        rintro rfl
        exact distinct.1 (List.mem_map.2 ⟨_, hmem, rfl⟩)
      rw [find?, if_neg hk]
      exact ih distinct.2 hmem

/-- Nothing is found exactly under keys that are not there. -/
theorem find?_eq_none_iff {key : String} {l : List (String × α)} :
    find? key l = none ↔ key ∉ l.map (·.1) := by
  induction l with
  | nil => simp [find?]
  | cons e r ih =>
    obtain ⟨k, v⟩ := e
    by_cases hk : k = key
    · simp [find?, hk]
    · rw [find?, if_neg hk, ih, List.map_cons, List.mem_cons, not_or]
      exact ⟨fun h => ⟨Ne.symm hk, h⟩, fun h => h.2⟩

/-- What is found in two lists is found in the first, or else in the second. -/
theorem find?_append (key : String) (l m : List (String × α)) :
    find? key (l ++ m) = (find? key l).or (find? key m) := by
  induction l with
  | nil => simp [find?]
  | cons e r ih =>
    obtain ⟨k, v⟩ := e
    by_cases hk : k = key <;> simp [find?, hk, ih]

/-- Among distinct keys, the order of the entries does not matter to a lookup. -/
theorem find?_reverse {l : List (String × α)} (distinct : (l.map (·.1)).Nodup) (key : String) :
    find? key l.reverse = find? key l := by
  have distinct' : (l.reverse.map (·.1)).Nodup := by
    rw [List.map_reverse, List.Nodup, List.pairwise_reverse]
    exact distinct.imp Ne.symm
  apply Option.ext
  intro value
  rw [← mem_iff_find? distinct', ← mem_iff_find? distinct, List.mem_reverse]

/-- A lookup among entries that are changed by their values alone, or left out. -/
theorem find?_filterMap {l : List (String × α)} (distinct : (l.map (·.1)).Nodup)
    (f : α → Option β) (key : String) :
    find? key (l.filterMap fun (k, v) => (f v).map fun w => (k, w)) = (find? key l).bind f := by
  induction l with
  | nil => rfl
  | cons e r ih =>
    obtain ⟨k, v⟩ := e
    rw [List.map_cons, List.nodup_cons] at distinct
    have hrest := ih distinct.2
    by_cases hk : k = key
    · subst hk
      -- no later entry has the key, also if this one is left out
      have hnone : find? k r = none := find?_eq_none_iff.2 distinct.1
      rw [hnone, Option.bind_none] at hrest
      cases hf : f v <;> simp [find?, hf, hrest]
    · cases hf : f v <;> simp [find?, hf, hk, hrest]

/-- A lookup among entries of which the values are changed. -/
theorem find?_map (f : String → α → β) (key : String) (l : List (String × α)) :
    find? key (l.map fun (k, v) => (k, f k v)) = (find? key l).map (f key) := by
  induction l with
  | nil => rfl
  | cons e r ih =>
    obtain ⟨k, v⟩ := e
    by_cases hk : k = key
    · subst hk
      simp [find?]
    · simp [find?, hk, ih]

/-- Entries that are left out leave the other keys in order. -/
theorem map_fst_filterMap_sublist (l : List (String × α)) (f : α → Option β) :
    List.Sublist ((l.filterMap fun (k, v) => (f v).map fun w => (k, w)).map (·.1))
      (l.map (·.1)) := by
  induction l with
  | nil => exact List.Sublist.refl _
  | cons e r ih =>
    cases hf : f e.2 with
    | none => simpa [hf] using ih.cons _
    | some w => simpa [hf] using ih

/-- A lookup is a search for the first entry with the key. -/
theorem find?_entry_eq (name : String) (l : List (String × α)) :
    (l.find? fun e => e.1 == name) = (find? name l).map fun v => (name, v) := by
  induction l with
  | nil => rfl
  | cons e r ih =>
    obtain ⟨k, v⟩ := e
    by_cases hk : k = name
    · subst hk
      simp [find?]
    · simp [find?, hk, ih]

/-- Where names are distinct, an item is found under its own name. -/
theorem find?_name_eq_some {name : α → String} {l : List α} (distinct : (l.map name).Nodup) {x : α}
    (h : x ∈ l) : (l.find? fun y => name y == name x) = some x := by
  obtain ⟨found, hfound⟩ : ∃ found, (l.find? fun y => name y == name x) = some found := by
    rw [← Option.isSome_iff_exists, List.find?_isSome]
    exact ⟨x, h, beq_self_eq_true (name x)⟩
  have hname : name found = name x := by simpa using List.find?_some hfound
  rw [hfound, List.inj_on_of_nodup_map distinct (List.mem_of_find?_eq_some hfound) h hname]

/-! ## Dictionaries -/

/-- A dictionary has different keys. -/
theorem nodup_keys (d : Dict α) : (d.entries.map (·.1)).Nodup := by
  rw [List.Nodup, List.pairwise_map]
  refine d.ordered.imp fun {a b} hlt heq => ?_
  exact String.lt_irrefl _ (heq ▸ hlt)

/-- The entries of a dictionary are what lookups in it find. -/
theorem mem_entries_iff {d : Dict α} {key : String} {value : α} :
    (key, value) ∈ d.entries ↔ d.get? key = some value :=
  mem_iff_find? d.nodup_keys

/-- A filtered dictionary has the values that pass. -/
@[simp] theorem get?_filter (d : Dict α) (keep : String → α → Bool) (key : String) :
    (d.filter keep).get? key = (d.get? key).filter (keep key) := by
  apply Option.ext
  intro value
  rw [← mem_entries_iff, Option.filter_eq_some_iff, ← mem_entries_iff]
  exact List.mem_filter

/-- A mapped dictionary has the mapped values. -/
@[simp] theorem get?_map (d : Dict α) (f : String → α → β) (key : String) :
    (d.map f).get? key = (d.get? key).map (f key) :=
  find?_map f key d.entries

/-- Entries that are inserted one after the other: the last one of a key counts. -/
theorem get?_foldl_insert (l : List (String × α)) (d : Dict α) (key : String) :
    (l.foldl (fun d (k, v) => d.insert k v) d).get? key =
      (find? key l.reverse).or (d.get? key) := by
  induction l generalizing d with
  | nil => simp [find?]
  | cons e r ih =>
    obtain ⟨k, v⟩ := e
    rw [List.foldl_cons, ih, List.reverse_cons, find?_append, get?_insert]
    by_cases hk : k = key <;> cases find? key r.reverse <;> simp [find?, hk]

/-- What a dictionary holds that was made of entries: the last one of a key. -/
theorem get?_ofList_reverse (l : List (String × α)) (key : String) :
    (ofList l).get? key = find? key l.reverse := by
  rw [ofList, get?_foldl_insert]
  simp

/-- What a dictionary holds that was made of entries with distinct keys. -/
theorem get?_ofList {l : List (String × α)} (distinct : (l.map (·.1)).Nodup) (key : String) :
    (ofList l).get? key = find? key l := by
  rw [get?_ofList_reverse, find?_reverse distinct]

/-- What a dictionary of a list has stands in the list. -/
theorem mem_of_get?_ofList {l : List (String × α)} {key : String} {value : α}
    (h : (ofList l).get? key = some value) : (key, value) ∈ l := by
  rw [get?_ofList_reverse] at h
  exact List.mem_reverse.1 (mem_of_find? h)

/-- Later entries do not change what a dictionary holds under a key that they do not have. -/
theorem get?_ofList_append {l m : List (String × α)} {key : String} (h : key ∉ m.map (·.1)) :
    (ofList (l ++ m)).get? key = (ofList l).get? key := by
  have hnone : find? key m.reverse = none := by
    rwa [find?_eq_none_iff, List.map_reverse, List.mem_reverse]
  rw [get?_ofList_reverse, get?_ofList_reverse, List.reverse_append, find?_append, hnone,
    Option.none_or]

/-- The keys of a dictionary that was made of entries are those of the entries. -/
theorem mem_keys_ofList {l : List (String × α)} {key : String} :
    key ∈ (ofList l).entries.map (·.1) ↔ key ∈ l.map (·.1) := by
  rw [← Decidable.not_iff_not, ← find?_eq_none_iff]
  rw [show find? key (ofList l).entries = (ofList l).get? key from rfl, get?_ofList_reverse,
    find?_eq_none_iff, List.map_reverse, List.mem_reverse]

/-- A dictionary is made of its entries. -/
@[simp] theorem ofList_entries (d : Dict α) : ofList d.entries = d :=
  ext_get? fun key => get?_ofList d.nodup_keys key

/-- Changing the values of entries changes those of the dictionary that is made of them. -/
theorem ofList_map (f : String → α → β) (l : List (String × α)) :
    ofList (l.map fun (k, v) => (k, f k v)) = (ofList l).map f := by
  refine ext_get? fun key => ?_
  rw [get?_map, get?_ofList_reverse, get?_ofList_reverse, ← List.map_reverse, find?_map]

end ToolRelay.Dict
