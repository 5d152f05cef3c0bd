import Mathlib
import ToolRelay.Profile

/-!
# Registering one operation after the other

An operation is registered unless its name is taken, and a registration that fails leaves the
registry as it was. So what a registry holds after any number of registrations is the first
operation of each name, in the order in which they came (`Registry.specs_after`). A lookup in it is
a search among all operations that were ever to be registered, those that failed included.
-/

set_option autoImplicit false

namespace ToolRelay

/-! ## The case of letters -/

/-- Whether two characters are the same but for the case of a letter of ASCII. -/
def SameLetter (a b : Char) : Prop :=
  a = b ∨ (a.isUpper = true ∧ b.toNat = a.toNat + 32) ∨
    (b.isUpper = true ∧ a.toNat = b.toNat + 32)

/-- The capitals of ASCII lie next to each other. -/
theorem isUpper_iff (c : Char) : c.isUpper = true ↔ 65 ≤ c.toNat ∧ c.toNat ≤ 90 := by
  simp [Char.isUpper, UInt32.le_iff_toNat_le, ← Char.toNat_val]

/-- A capital in small lies 32 further on. -/
theorem toNat_toLower (c : Char) :
    c.toLower.toNat = if 65 ≤ c.toNat ∧ c.toNat ≤ 90 then c.toNat + 32 else c.toNat := by
  split
  · next h =>
    have hvalid : (c.toNat + 32).isValidChar := .inl (by omega)
    rw [Char.toLower_eq_of_isUpper ((isUpper_iff c).2 h), Char.toNat_ofNat, if_pos hvalid]
  · next h => rw [Char.toLower_eq_of_not_isUpper (mt (isUpper_iff c).1 h)]

/-- Characters are the same in small letters exactly if they are the same letter. -/
theorem toLower_eq_iff (a b : Char) : a.toLower = b.toLower ↔ SameLetter a b := by
  rw [SameLetter, isUpper_iff, isUpper_iff, ← Char.toNat_inj, ← Char.toNat_inj, toNat_toLower,
    toNat_toLower]
  split <;> split <;> omega

namespace Registry

/-- Names that are the same in small letters are the same letter by letter but for the case. -/
theorem lower_eq_iff (s t : String) :
    lower s = lower t ↔ List.Forall₂ SameLetter s.toList t.toList := by
  rw [lower, lower, ← List.forall₂_eq_eq_eq, List.forall₂_map_left_iff, List.forall₂_map_right_iff]
  simp only [toLower_eq_iff]

/-! ## One registration -/

/-- The registry that a registration leaves behind, whether it fails or not. -/
def left (r : Registry) (s : Spec) : Registry :=
  match (register s).run r with
  | .ok _ r' => r'
  | .error _ r' => r'

/-- A registration fails because the name is taken, and has changed nothing by then; or it puts the
operation behind the others. -/
theorem register_cases (r : Registry) (s : Spec) :
    (s.name ∈ r.names ∧ (register s).run r = .error (.duplicate s.name) r) ∨
      (s.name ∉ r.names ∧ ∃ r', (register s).run r = .ok () r' ∧ r'.specs = r.specs ++ [s]) := by
  have hrun : (register s).run r = (if h : r.lookup s.name = none then set (r.add s h)
      else throw (RegistryError.duplicate s.name) : EStateM RegistryError Registry Unit).run r := rfl
  by_cases hlookup : r.lookup s.name = none
  · right
    refine ⟨not_mem_names_of_lookup_eq_none hlookup, r.add s hlookup, ?_, rfl⟩
    rw [hrun, dif_pos hlookup]
    rfl
  · left
    obtain ⟨other, hother⟩ := Option.ne_none_iff_exists'.1 hlookup
    have hname : other.name = s.name := by simpa using List.find?_some hother
    refine ⟨List.mem_map.2 ⟨other, List.mem_of_find?_eq_some hother, hname⟩, ?_⟩
    rw [hrun, dif_neg hlookup]
    rfl

/-- A name that is taken is not registered once more. -/
theorem left_of_mem {r : Registry} {s : Spec} (h : s.name ∈ r.names) : r.left s = r := by
  rcases register_cases r s with ⟨-, hrun⟩ | ⟨hfree, -⟩
  · rw [left, hrun]
  · exact absurd h hfree

/-- An operation whose name is free comes behind the others. -/
theorem specs_left_of_not_mem {r : Registry} {s : Spec} (h : s.name ∉ r.names) :
    (r.left s).specs = r.specs ++ [s] := by
  rcases register_cases r s with ⟨htaken, -⟩ | ⟨-, r', hrun, hspecs⟩
  · exact absurd htaken h
  · rw [left, hrun]
    exact hspecs

/-- A registration fails exactly if the name is taken, for that reason, and without a trace. -/
theorem run_register_eq_error_iff {r r' : Registry} {s : Spec} {e : RegistryError} :
    (register s).run r = .error e r' ↔
      e = .duplicate s.name ∧ s.name ∈ r.names ∧ r' = r := by
  rcases register_cases r s with ⟨htaken, hrun⟩ | ⟨hfree, registered, hrun, -⟩
  · rw [hrun]
    simp [htaken, eq_comm]
  · rw [hrun]
    simp [hfree]

/-! ## Any number of registrations -/

/-- The registry after operations were to be registered one after the other. -/
def after (calls : List Spec) : Registry :=
  calls.foldl left empty

/-- The operations of which no earlier one has the name, in order. -/
def firsts (calls : List Spec) : List Spec :=
  (calls.zipIdx.filter fun (s, i) => s.name ∉ (calls.take i).map (·.name)).map (·.1)

/-- The last registration comes behind all others. -/
theorem after_concat (calls : List Spec) (s : Spec) :
    after (calls ++ [s]) = (after calls).left s :=
  List.foldl_concat left empty s calls

/-- One more operation is the first of its name unless the name has come before. -/
theorem firsts_concat (calls : List Spec) (s : Spec) :
    firsts (calls ++ [s]) =
      firsts calls ++ if s.name ∈ calls.map (·.name) then [] else [s] := by
  -- what stands before an operation is the same with one more behind them all
  have hfilter : (calls.zipIdx.filter fun (t, i) =>
        t.name ∉ ((calls ++ [s]).take i).map (·.name)) =
      calls.zipIdx.filter fun (t, i) => t.name ∉ (calls.take i).map (·.name) := by
    refine List.filter_congr fun ⟨t, i⟩ he => ?_
    have hlt : i < calls.length := by
      have := List.snd_lt_add_of_mem_zipIdx he
      omega
    dsimp only
    rw [List.take_append_of_le_length hlt.le]
  rw [firsts, List.zipIdx_append, List.filter_append, List.map_append, hfilter, ← firsts]
  congr 1
  by_cases hs : s.name ∈ calls.map (·.name) <;> simp [hs]

/-- The names that are taken are those of all operations that were to be registered. -/
theorem mem_names_after (calls : List Spec) (name : String) :
    name ∈ (after calls).names ↔ name ∈ calls.map (·.name) := by
  induction calls using List.reverseRecOn with
  | nil => exact Iff.rfl
  | append_singleton calls s ih =>
    rw [after_concat, List.map_append, List.mem_append, ← ih, List.map_singleton,
      List.mem_singleton]
    by_cases hs : s.name ∈ (after calls).names
    · rw [left_of_mem hs]
      refine ⟨.inl, ?_⟩
      rintro (h | rfl)
      · exact h
      · exact hs
    · rw [names, specs_left_of_not_mem hs, List.map_append, List.mem_append,
        List.map_singleton, List.mem_singleton]
      exact Iff.rfl

/-- What is registered in the end is the first operation of each name. -/
theorem specs_after (calls : List Spec) : (after calls).specs = firsts calls := by
  induction calls using List.reverseRecOn with
  | nil => rfl
  | append_singleton calls s ih =>
    rw [after_concat, firsts_concat, ← ih]
    by_cases hs : s.name ∈ (after calls).names
    · rw [left_of_mem hs, if_pos ((mem_names_after calls s.name).1 hs), List.append_nil]
    · rw [specs_left_of_not_mem hs, if_neg (mt (mem_names_after calls s.name).2 hs)]

/-- A search by name among the registered operations finds the first of all that were to be
registered. -/
theorem find?_specs_after (test : String → Bool) (calls : List Spec) :
    (after calls).specs.find? (fun s => test s.name) = calls.find? fun s => test s.name := by
  induction calls using List.reverseRecOn with
  | nil => rfl
  | append_singleton calls s ih =>
    rw [after_concat, List.find?_append, ← ih]
    by_cases hs : s.name ∈ (after calls).names
    · rw [left_of_mem hs]
      cases hfound : (after calls).specs.find? fun t => test t.name with
      | some t => rfl
      | none =>
        -- the operation that has the name already does not pass the test, so this one does not
        obtain ⟨t, ht, hname⟩ := List.mem_map.1 hs
        have htest := List.find?_eq_none.1 hfound t ht
        rw [hname] at htest
        rw [Option.none_or, List.find?_singleton, if_neg htest]
    · rw [specs_left_of_not_mem hs, List.find?_append]

/-- **The first registration of a name counts.** Whatever was to be registered before, a
registration fails exactly if an earlier one had the name, then for that reason, and the registry
stays as it was. What is registered is the first operation of each name in order, under distinct
names. A lookup finds the first operation of exactly the name; for people it falls back on the first
one whose name is the same but for the case of letters. -/
theorem first_registration_counts (calls : List Spec) :
    (∀ s e r, (register s).run (after calls) = .error e r ↔
      e = .duplicate s.name ∧ (∃ earlier ∈ calls, earlier.name = s.name) ∧ r = after calls) ∧
    (∀ s e r, (register s).run (after calls) = .error e r → after (calls ++ [s]) = after calls) ∧
    (after calls).specs = firsts calls ∧
    (after calls).names.Nodup ∧
    (∀ name, (after calls).lookup name = calls.find? fun s => s.name == name) ∧
    (∀ name, (after calls).find? name =
      ((after calls).lookup name).or (calls.find? fun s => lower s.name == lower name)) ∧
    ∀ s t, lower s = lower t ↔ List.Forall₂ SameLetter s.toList t.toList := by
  refine ⟨?_, ?_, specs_after calls, (after calls).distinct, ?_, ?_, lower_eq_iff⟩
  · intro s e r
    rw [run_register_eq_error_iff, mem_names_after, List.mem_map]
  · intro s e r herror
    rw [after_concat, left_of_mem (run_register_eq_error_iff.1 herror).2.1]
  · intro name
    exact find?_specs_after (· == name) calls
  · intro name
    rw [Registry.find?, ← find?_specs_after (fun other => lower other == lower name) calls]
    cases (after calls).lookup name <;> rfl

/-- Where no name comes twice, every operation is the first of its name. -/
theorem firsts_eq_self {calls : List Spec} (h : (calls.map (·.name)).Nodup) :
    firsts calls = calls := by
  induction calls using List.reverseRecOn with
  | nil => rfl
  | append_singleton calls s ih =>
    rw [List.map_append, List.map_singleton, List.nodup_append] at h
    have hs : s.name ∉ calls.map (·.name) := by
      intro hmem
      exact h.2.2 _ hmem _ List.mem_cons_self rfl
    rw [firsts_concat, ih h.1, if_neg hs]

end Registry

/-- The registry of a profile is what comes of registering its operations one after the other. -/
theorem Profile.registry_eq_after (p : Profile) :
    p.registry = .after (p.operations.map Operation.spec) := by
  have hnodup : ((p.operations.map Operation.spec).map (·.name)).Nodup := p.registry.distinct
  have hspecs : (Registry.after (p.operations.map Operation.spec)).specs =
      p.operations.map Operation.spec := by
    rw [Registry.specs_after, Registry.firsts_eq_self hnodup]
  cases hafter : Registry.after (p.operations.map Operation.spec) with
  | mk specs distinct =>
    rw [hafter] at hspecs
    subst hspecs
    rfl

end ToolRelay
