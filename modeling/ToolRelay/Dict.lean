/-!
# Dictionaries in key order

A `Dict` holds one value for each of its keys and lists them in the order of the keys. Two
dictionaries with the same value under every key are equal (`Dict.ext_get?`), whatever order they
were built in.
-/

set_option autoImplicit false

namespace ToolRelay

/-- Values under text keys, in strictly increasing order of the keys. -/
structure Dict (α : Type) where
  entries : List (String × α)
  ordered : entries.Pairwise (fun a b => a.1 < b.1)

namespace Dict

variable {α β : Type}

/-- A dictionary is settled by its entries. -/
theorem ext {d e : Dict α} (h : d.entries = e.entries) : d = e := by
  cases d; cases e; cases h; rfl

instance [DecidableEq α] : DecidableEq (Dict α) := fun d e =>
  if h : d.entries = e.entries then isTrue (ext h) else isFalse fun he => h (he ▸ rfl)

instance [Repr α] : Repr (Dict α) := ⟨fun d n => reprPrec d.entries n⟩

/-- The dictionary with no keys. -/
def empty : Dict α := ⟨[], .nil⟩

instance : Inhabited (Dict α) := ⟨empty⟩

/-- The value that a list of entries holds first under a key. -/
def find? (key : String) : List (String × α) → Option α
  | [] => none
  | (k, v) :: r => if k = key then some v else find? key r

/-- The value under a key. -/
def get? (d : Dict α) (key : String) : Option α :=
  find? key d.entries

/-- Whether the key has a value. -/
def contains (d : Dict α) (key : String) : Bool :=
  (d.get? key).isSome

/-- The keys in order. -/
def keys (d : Dict α) : List String :=
  d.entries.map (·.1)

/-- Whether there is no key. -/
def isEmpty (d : Dict α) : Bool :=
  d.entries.isEmpty

/-- Puts a value under a key of entries in key order. -/
def put (key : String) (value : α) : List (String × α) → List (String × α)
  | [] => [(key, value)]
  | (k, v) :: r =>
    if key < k then (key, value) :: (k, v) :: r
    else if key = k then (key, value) :: r
    else (k, v) :: put key value r

/-- Of two different keys one comes before the other. -/
theorem lt_of_not_lt {a b : String} (h : ¬a < b) (hne : a ≠ b) : b < a := by
  rcases Std.lt_trichotomy a b with h' | h' | h'
  · exact absurd h' h
  · exact absurd h' hne
  · exact h'

/-- An entry is the new one or was there before. -/
theorem mem_put {key : String} {value : α} {l : List (String × α)} {e : String × α}
    (h : e ∈ put key value l) : e = (key, value) ∨ e ∈ l := by
  induction l with
  | nil => simpa [put] using h
  | cons a r ih =>
    obtain ⟨k, v⟩ := a
    unfold put at h
    split at h
    · simpa using h
    · split at h
      · rcases List.mem_cons.1 h with h | h
        · exact .inl h
        · exact .inr (List.mem_cons_of_mem _ h)
      · rcases List.mem_cons.1 h with h | h
        · exact .inr (h ▸ List.mem_cons_self)
        · rcases ih h with h | h
          · exact .inl h
          · exact .inr (List.mem_cons_of_mem _ h)

/-- Entries in order stay in order with one more. -/
theorem pairwise_put {key : String} {value : α} {l : List (String × α)}
    (h : l.Pairwise (fun a b => a.1 < b.1)) :
    (put key value l).Pairwise (fun a b => a.1 < b.1) := by
  induction l with
  | nil => simp [put]
  | cons a r ih =>
    obtain ⟨k, v⟩ := a
    have hk := List.pairwise_cons.1 h
    unfold put
    split
    · next hlt =>
      refine List.pairwise_cons.2 ⟨fun e he => ?_, h⟩
      rcases List.mem_cons.1 he with he | he
      · exact he ▸ hlt
      · exact String.lt_trans hlt (hk.1 e he)
    · next hlt =>
      split
      · next heq =>
        exact List.pairwise_cons.2 ⟨fun e he => heq ▸ hk.1 e he, hk.2⟩
      · next hne =>
        refine List.pairwise_cons.2 ⟨fun e he => ?_, ih hk.2⟩
        rcases mem_put he with he | he
        · exact he ▸ lt_of_not_lt hlt hne
        · exact hk.1 e he

/-- The dictionary with a value put under a key, in place of the one there. -/
def insert (d : Dict α) (key : String) (value : α) : Dict α :=
  ⟨put key value d.entries, pairwise_put d.ordered⟩

/-- The dictionary with a value under a key that had none; a key in use keeps its value. -/
def insertNew (d : Dict α) (key : String) (value : α) : Dict α :=
  if d.contains key then d else d.insert key value

/-- The dictionary of a list of entries; the last entry of a key counts. -/
def ofList (l : List (String × α)) : Dict α :=
  l.foldl (fun d (k, v) => d.insert k v) empty

/-- The entries that pass a test. -/
def filter (d : Dict α) (keep : String → α → Bool) : Dict α :=
  ⟨d.entries.filter fun (k, v) => keep k v, d.ordered.sublist List.filter_sublist⟩

/-- The dictionary without a key. -/
def erase (d : Dict α) (key : String) : Dict α :=
  d.filter fun k _ => k != key

/-- The dictionary with every value changed. -/
def map (d : Dict α) (f : String → α → β) : Dict β :=
  ⟨d.entries.map fun (k, v) => (k, f k v), by
    rw [List.pairwise_map]
    exact d.ordered⟩

/-- Under the key of the new entry stands its value, and under any other key what stood there. -/
theorem find?_put (key key' : String) (value : α) (l : List (String × α)) :
    find? key' (put key value l) = if key = key' then some value else find? key' l := by
  induction l with
  | nil => simp [put, find?]
  | cons a r ih =>
    obtain ⟨k, v⟩ := a
    unfold put
    split
    · simp [find?]
    · split
      · next h => subst h; by_cases hk : key = key' <;> simp [find?, hk]
      · next hne =>
        by_cases hk : k = key'
        · subst hk; simp [find?, hne]
        · simp [find?, hk, ih]

/-- A key that was put in gives its value, and every other key what it gave before. -/
theorem get?_insert (d : Dict α) (key key' : String) (value : α) :
    (d.insert key value).get? key' = if key = key' then some value else d.get? key' :=
  find?_put key key' value d.entries

/-- The empty dictionary has nothing under any key. -/
@[simp] theorem get?_empty (key : String) : (empty : Dict α).get? key = none := rfl

/-- A key before all others is not found. -/
theorem find?_eq_none_of_lt {key : String} {l : List (String × α)}
    (h : ∀ e ∈ l, key < e.1) : find? key l = none := by
  induction l with
  | nil => rfl
  | cons a r ih =>
    obtain ⟨k, v⟩ := a
    have hk : key < k := h _ List.mem_cons_self
    have hne : k ≠ key := fun e => String.lt_irrefl key (e ▸ hk)
    simp only [find?, if_neg hne]
    exact ih fun e he => h e (List.mem_cons_of_mem _ he)

/-- Ordered entries in which the same is found are the same. -/
theorem entries_eq_of_find? {l m : List (String × α)}
    (hl : l.Pairwise (fun a b => a.1 < b.1)) (hm : m.Pairwise (fun a b => a.1 < b.1))
    (h : ∀ key, find? key l = find? key m) : l = m := by
  induction l generalizing m with
  | nil =>
    cases m with
    | nil => rfl
    | cons b s => have := h b.1; simp [find?] at this
  | cons a r ih =>
    obtain ⟨k, v⟩ := a
    cases m with
    | nil => have := h k; simp [find?] at this
    | cons b s =>
      obtain ⟨k', v'⟩ := b
      have hl' := List.pairwise_cons.1 hl
      have hm' := List.pairwise_cons.1 hm
      have hkk : k = k' := by
        rcases Std.lt_trichotomy k k' with hlt | heq | hgt
        · have := h k
          rw [find?_eq_none_of_lt (l := (k', v') :: s)
            (fun e he => by
              rcases List.mem_cons.1 he with he | he
              · exact he ▸ hlt
              · exact String.lt_trans hlt (hm'.1 e he))] at this
          simp [find?] at this
        · exact heq
        · have := h k'
          rw [find?_eq_none_of_lt (l := (k, v) :: r)
            (fun e he => by
              rcases List.mem_cons.1 he with he | he
              · exact he ▸ hgt
              · exact String.lt_trans hgt (hl'.1 e he))] at this
          simp [find?] at this
      subst hkk
      have hv : v = v' := by simpa [find?] using h k
      subst hv
      congr 1
      refine ih hl'.2 hm'.2 fun key => ?_
      by_cases hk : k = key
      · subst hk
        rw [find?_eq_none_of_lt hl'.1, find?_eq_none_of_lt hm'.1]
      · simpa [find?, hk] using h key

/-- Dictionaries are equal when they give the same value under every key. -/
theorem ext_get? {d e : Dict α} (h : ∀ key, d.get? key = e.get? key) : d = e :=
  ext (entries_eq_of_find? d.ordered e.ordered h)

end Dict
end ToolRelay
