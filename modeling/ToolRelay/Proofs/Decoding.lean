import ToolRelay.Argument.Signature
import ToolRelay.Proofs.Dictionary

/-!
# What decoding accepts

Which arguments a signature decodes is said here a second time, without decoding anything: a
`ValueRange` lists the values that a parameter admits, and a `ParameterRule` adds its name and
whether it must be there. `Signature.exists_decode_iff` is the agreement of the two. The other
result, `Signature.decode_congr`, is that decoding looks at the parameters of the signature and at
nothing else, down to which error it reports.
-/

set_option autoImplicit false

namespace ToolRelay

/-! ## Results with a value that is changed -/

section

variable {α β ε : Type} {x : Except ε α} {f : α → β}

/-- A mapped result is that of something. -/
theorem map_eq_ok_iff {b : β} : x.map f = .ok b ↔ ∃ a, x = .ok a ∧ f a = b := by
  cases x <;> simp [Except.map]

/-- Two steps succeed exactly if one does and then the other. -/
theorem bind_eq_ok_iff {g : α → Except ε β} {b : β} :
    x.bind g = .ok b ↔ ∃ a, x = .ok a ∧ g a = .ok b := by
  cases x <;> simp [Except.bind]

/-- Mapping keeps errors. -/
theorem map_eq_error_iff {e : ε} : x.map f = .error e ↔ x = .error e := by
  cases x <;> simp [Except.map]

end

/-! ## Ranges and rules -/

/-- The values that a parameter admits. -/
inductive ValueRange
  | text
  /-- The natural numbers up to a bound. -/
  | natural (bound : Nat)
  | label (labels : List String)
  /-- The values of a range, and `null`. -/
  | orNull (range : ValueRange)
  deriving DecidableEq, Repr

/-- Whether a value lies in the range. A label is given as a text, or as an object whose only member
has that name and the value `null`. -/
def ValueRange.Holds : ValueRange → Json → Prop
  | .text, v => ∃ s, v = .str s
  | .natural bound, v => ∃ n : Nat, n ≤ bound ∧ v = .int n
  | .label labels, v => ∃ s ∈ labels, v = .str s ∨ v = .obj [(s, .null)]
  | .orNull range, v => v = .null ∨ range.Holds v

/-- Whether every text lies in the range. -/
def ValueRange.textual : ValueRange → Bool
  | .text => true
  | .orNull range => range.textual
  | _ => false

/-- The labels in the range. -/
def ValueRange.labels : ValueRange → List String
  | .label labels => labels
  | .orNull range => range.labels
  | _ => []

/-- The largest number in a range of numbers. -/
def ValueRange.bound : ValueRange → Nat
  | .natural bound => bound
  | .orNull range => range.bound
  | _ => 0

/-- A text lies in the range if all texts do, or if it is a label. -/
theorem ValueRange.holds_str_iff (range : ValueRange) (s : String) :
    range.Holds (.str s) ↔ range.textual = true ∨ s ∈ range.labels := by
  induction range with
  | orNull range ih => simpa [Holds, textual, labels] using ih
  | _ => simp [Holds, textual, labels]

/-- What is asked of the argument of a name. -/
structure ParameterRule where
  name : String
  required : Bool
  range : ValueRange
  deriving DecidableEq, Repr

/-- Whether the arguments keep the rule: one that is required is there, and one that is there lies
in the range. -/
def ParameterRule.Fits (r : ParameterRule) (args : Dict Json) : Prop :=
  (r.required = true → args.contains r.name = true) ∧
    ∀ v, args.get? r.name = some v → r.range.Holds v

/-! ## Values -/

/-- A text finds a label exactly if it is one of them. -/
theorem Labels.exists_find?_iff {α : Type} (ls : Labels α) (s : String) :
    (∃ x, ls.find? s = some x) ↔ s ∈ ls.all := by
  rw [← Option.isSome_iff_exists, Labels.find?, List.find?_isSome, Labels.all, List.mem_map]
  simp only [beq_iff_eq]

namespace Kind

/-- The values that a kind of argument admits. -/
def range : {α : Type} → Kind α → ValueRange
  | _, .text => .text
  | _, .natural width => .natural width.bound
  | _, .label ls => .label ls.all
  | _, .optional kind => .orNull kind.range

/-- A text is decoded from a text and from nothing else. -/
theorem decode_text_eq_ok_iff {v : Json} {s : String} :
    Kind.text.decode v = .ok s ↔ v = .str s := by
  cases v <;> simp [decode]

/-- A number is decoded from an integer up to the bound and from nothing else. -/
theorem decode_natural_eq_ok_iff {width : Width} {v : Json} {n : Nat} :
    (Kind.natural width).decode v = .ok n ↔ n ≤ width.bound ∧ v = .int n := by
  cases v with
  | int m =>
    simp only [decode, Json.int.injEq]
    split
    · simp only [Except.ok.injEq]
      omega
    · simp only [reduceCtorEq, false_iff]
      omega
  | _ => simp [decode]

/-- An argument that may be `null` stands for nothing or for what its kind reads. -/
theorem decode_optional_eq_ok_iff {α : Type} {kind : Kind α} {v : Json} {x : Option α} :
    (Kind.optional kind).decode v = .ok x ↔
      (v = .null ∧ x = none) ∨ (v ≠ .null ∧ ∃ y, kind.decode v = .ok y ∧ x = some y) := by
  by_cases hnull : v = .null
  · subst hnull
    simp [decode, eq_comm]
  · have hmap : (Kind.optional kind).decode v = (kind.decode v).map some := by
      cases v <;> simp_all [decode]
    rw [hmap, map_eq_ok_iff]
    simp [hnull, eq_comm]

/-- A label is read exactly when it is one of those listed, in either spelling. -/
theorem exists_decodeLabel_iff {α : Type} (ls : Labels α) (v : Json) :
    (∃ x, decodeLabel ls v = .ok x) ↔ (ValueRange.label ls.all).Holds v := by
  unfold decodeLabel ValueRange.Holds
  split
  · next s =>
    rw [show (∃ t ∈ ls.all, Json.str s = .str t ∨ Json.str s = .obj [(t, .null)]) ↔ s ∈ ls.all by
      simp, ← Labels.exists_find?_iff]
    cases ls.find? s <;> simp
  · next s content =>
    -- the two spellings meet here: a known label still needs `null` behind it
    cases hs : ls.find? s with
    | none =>
      have hmem : s ∉ ls.all := by
        rw [← Labels.exists_find?_iff, hs]
        simp
      simp only [reduceCtorEq, exists_false, false_or, false_iff, not_exists, not_and]
      intro t ht heq
      cases heq
      exact hmem ht
    | some x =>
      have hmem : s ∈ ls.all := (Labels.exists_find?_iff ls s).1 ⟨x, hs⟩
      cases content <;> simp [hmem]
  · next members h =>
    simp only [reduceCtorEq, exists_false, false_or, false_iff, not_exists, not_and]
    intro t _ heq
    cases heq
    exact h t .null rfl
  · next h _ h' =>
    simp only [reduceCtorEq, exists_false, false_iff, not_exists, not_and, not_or]
    exact fun t _ => ⟨fun heq => h t heq, fun heq => h' _ heq⟩

/-- An argument is read exactly when it lies in the range of its kind. -/
theorem exists_decode_iff {α : Type} (kind : Kind α) (v : Json) :
    (∃ x, kind.decode v = .ok x) ↔ kind.range.Holds v := by
  induction kind with
  | text => simp only [decode_text_eq_ok_iff, range, ValueRange.Holds]
  | natural width => simp only [decode_natural_eq_ok_iff, range, ValueRange.Holds]
  | label ls => exact exists_decodeLabel_iff ls v
  | optional kind ih =>
    simp only [decode_optional_eq_ok_iff, range, ValueRange.Holds, ← ih]
    by_cases hnull : v = .null
    · simp [hnull]
    · simp only [hnull, false_and, false_or, ne_eq, not_false_eq_true, true_and]
      exact ⟨fun ⟨_, y, hy, _⟩ => ⟨y, hy⟩, fun ⟨y, hy⟩ => ⟨some y, y, hy, rfl⟩⟩

end Kind

/-! ## Parameters -/

namespace Parameter

variable {α : Type}

/-- What is asked of the argument of a parameter. -/
def rule (p : Parameter α) : ParameterRule :=
  ⟨p.name, p.fallback.isNone, p.kind.range⟩

/-- A parameter has the value of its argument, or the fallback if the argument is not there. -/
theorem read_eq_ok_iff {p : Parameter α} {args : Dict Json} {x : α} :
    p.read args = .ok x ↔
      (∃ v, args.get? p.name = some v ∧ p.kind.decode v = .ok x) ∨
        (args.get? p.name = none ∧ p.fallback = some x) := by
  unfold read
  cases args.get? p.name with
  | some v => simp
  | none => cases p.fallback <;> simp

/-- A parameter has a value exactly when the arguments keep its rule. -/
theorem exists_read_iff (p : Parameter α) (args : Dict Json) :
    (∃ x, p.read args = .ok x) ↔ p.rule.Fits args := by
  unfold read ParameterRule.Fits rule Dict.contains
  cases args.get? p.name with
  | some v => simpa using p.kind.exists_decode_iff v
  | none => cases p.fallback <;> simp

/-- A parameter is read from what stands under its name only. -/
theorem read_congr (p : Parameter α) {a b : Dict Json} (h : a.get? p.name = b.get? p.name) :
    p.read a = p.read b := by
  unfold read
  rw [h]

end Parameter

/-! ## Signatures -/

namespace Signature

/-- What is asked of the arguments, in the order of the signature. -/
def rules : {α : Type} → Signature α → List ParameterRule
  | _, .nil => []
  | _, .cons p rest => p.rule :: rest.rules

/-- The rules of a signature have its names. -/
theorem map_name_rules {α : Type} (sig : Signature α) : sig.rules.map (·.name) = sig.names := by
  induction sig with
  | nil => rfl
  | cons p rest ih => simp [rules, names, Parameter.rule, ih]

/-- The required names are those of the rules that require something. -/
theorem mem_requiredNames_iff {α : Type} (sig : Signature α) (name : String) :
    name ∈ sig.requiredNames ↔ ∃ r ∈ sig.rules, r.required = true ∧ r.name = name := by
  induction sig with
  | nil => simp [requiredNames, rules]
  | cons p rest ih =>
    simp only [requiredNames, rules, List.mem_cons, exists_eq_or_imp, ← ih, Parameter.rule]
    split
    · next h => simp [h, eq_comm]
    · next h => simp [h]

/-- Required parameters are parameters. -/
theorem requiredNames_subset {α : Type} (sig : Signature α) {name : String}
    (h : name ∈ sig.requiredNames) : name ∈ sig.names := by
  obtain ⟨r, hr, -, rfl⟩ := (mem_requiredNames_iff sig name).1 h
  rw [← map_name_rules]
  exact List.mem_map_of_mem hr

/-- Reading a signature is reading its parameters, each for itself. -/
theorem read_cons_eq_ok_iff {α β : Type} (p : Parameter α) (rest : Signature β) (args : Dict Json)
    (x : α) (y : β) :
    (cons p rest).read args = .ok (x, y) ↔ p.read args = .ok x ∧ rest.read args = .ok y := by
  rw [read]
  cases p.read args <;> cases rest.read args <;> simp

/-- The arguments come to something exactly when they keep every rule. -/
theorem exists_read_iff {α : Type} (sig : Signature α) (args : Dict Json) :
    (∃ x, sig.read args = .ok x) ↔ ∀ r ∈ sig.rules, r.Fits args := by
  induction sig with
  | nil => simp [read, rules]
  | cons p rest ih =>
    simp only [rules, List.mem_cons, forall_eq_or_imp, ← ih, ← p.exists_read_iff, Prod.exists,
      read_cons_eq_ok_iff]
    exact ⟨fun ⟨x, y, hx, hy⟩ => ⟨⟨x, hx⟩, ⟨y, hy⟩⟩, fun ⟨⟨x, hx⟩, ⟨y, hy⟩⟩ => ⟨x, y, hx, hy⟩⟩

/-- A value in the range of its parameter is no fault. -/
theorem fault?_eq_none {α : Type} (sig : Signature α) {name : String} {v : Json}
    (h : ∀ r ∈ sig.rules, r.name = name → r.range.Holds v) : sig.fault? name v = none := by
  induction sig with
  | nil => rfl
  | cons p rest ih =>
    simp only [rules, List.mem_cons, forall_eq_or_imp] at h
    rw [fault?]
    split
    · next hname =>
      obtain ⟨x, hx⟩ := (p.kind.exists_decode_iff v).2 (h.1 hname)
      rw [hx]
    · exact ih h.2

/-- What a signature does not list is no fault. -/
theorem fault?_of_not_mem {α : Type} (sig : Signature α) {name : String} (v : Json)
    (h : name ∉ sig.names) : sig.fault? name v = none := by
  refine fault?_eq_none sig fun r hr hname => absurd ?_ h
  rw [← map_name_rules, ← hname]
  exact List.mem_map_of_mem hr

/-- The first fault among the arguments, in the order of their names. -/
def firstFault? {α : Type} (sig : Signature α) (args : Dict Json) : Option DecodeError :=
  args.entries.findSome? fun e => sig.fault? e.1 e.2

/-- Decoding is reading once no argument is at fault. -/
theorem decode_eq {α : Type} (sig : Signature α) (args : Dict Json) :
    sig.decode args = (sig.firstFault? args).elim (sig.read args) .error := by
  unfold decode
  split
  · next e h =>
    rw [show sig.firstFault? args = some e from h]
    rfl
  · next h =>
    rw [show sig.firstFault? args = none from h]
    rfl

/-- What the arguments come to when they are decoded is what they come to when they are read. -/
theorem read_of_decode {α : Type} {sig : Signature α} {args : Dict Json} {x : α}
    (h : sig.decode args = .ok x) : sig.read args = .ok x := by
  rw [decode_eq] at h
  cases hfault : sig.firstFault? args with
  | none => rwa [hfault] at h
  | some e =>
    rw [hfault] at h
    cases h

/-- Arguments that keep every rule have no fault, so decoding them is reading them. -/
theorem decode_eq_read {α : Type} (sig : Signature α) {args : Dict Json}
    (h : ∀ r ∈ sig.rules, r.Fits args) : sig.decode args = sig.read args := by
  have hfault : sig.firstFault? args = none := by
    rw [firstFault?, List.findSome?_eq_none_iff]
    rintro ⟨name, v⟩ hmem
    refine fault?_eq_none sig fun r hr hname => (h r hr).2 v ?_
    rw [hname]
    exact Dict.mem_entries_iff.1 hmem
  rw [decode_eq, hfault]
  rfl

/-- The arguments are decoded exactly when they keep every rule. -/
theorem exists_decode_iff {α : Type} (sig : Signature α) (args : Dict Json) :
    (∃ x, sig.decode args = .ok x) ↔ ∀ r ∈ sig.rules, r.Fits args := by
  constructor
  · rintro ⟨x, hx⟩
    exact (exists_read_iff sig args).1 ⟨x, read_of_decode hx⟩
  · intro h
    rw [decode_eq_read sig h]
    exact (exists_read_iff sig args).2 h

/-! ## Nothing but the parameters counts -/

/-- Reading depends on the arguments of the signature's names only. -/
theorem read_congr {α : Type} (sig : Signature α) {a b : Dict Json}
    (h : ∀ name ∈ sig.names, a.get? name = b.get? name) : sig.read a = sig.read b := by
  induction sig with
  | nil => rfl
  | cons p rest ih =>
    simp only [names, List.mem_cons, forall_eq_or_imp] at h
    rw [read, read, p.read_congr h.1, ih h.2]

/-- The first fault is the same when arguments that are not at fault are left out. -/
theorem firstFault?_filter {α : Type} (sig : Signature α) (args : Dict Json)
    (keep : String → Json → Bool)
    (h : ∀ name v, args.get? name = some v → keep name v = false → sig.fault? name v = none) :
    sig.firstFault? (args.filter keep) = sig.firstFault? args := by
  suffices hlist : ∀ l : List (String × Json), l ⊆ args.entries →
      ((l.filter fun e => keep e.1 e.2).findSome? fun e => sig.fault? e.1 e.2) =
        l.findSome? fun e => sig.fault? e.1 e.2 from hlist args.entries (List.Subset.refl _)
  intro l hl
  induction l with
  | nil => rfl
  | cons e r ih =>
    obtain ⟨name, v⟩ := e
    have hrest := ih fun e he => hl (List.mem_cons_of_mem _ he)
    by_cases hkeep : keep name v = true
    · simp [hkeep, List.findSome?_cons, hrest]
    · -- an entry that is left out is not at fault
      have hnone := h name v (Dict.mem_entries_iff.1 (hl List.mem_cons_self)) (by simpa using hkeep)
      simp [hkeep, hnone, hrest]

/-- Decoding depends on the arguments of the signature's names only. This holds of the errors too:
the first fault in the order of the names is a fault of one of them. -/
theorem decode_congr {α : Type} (sig : Signature α) {a b : Dict Json}
    (h : ∀ name ∈ sig.names, a.get? name = b.get? name) : sig.decode a = sig.decode b := by
  have hdeclared : (a.filter fun name _ => decide (name ∈ sig.names)) =
      b.filter fun name _ => decide (name ∈ sig.names) := by
    apply Dict.ext_get?
    intro key
    apply Option.ext
    intro v
    simp only [Dict.get?_filter, Option.filter_eq_some_iff, decide_eq_true_eq]
    exact and_congr_left fun hkey => by rw [h key hkey]
  have hfault : ∀ args : Dict Json,
      sig.firstFault? (args.filter fun name _ => decide (name ∈ sig.names)) =
        sig.firstFault? args := by
    intro args
    refine firstFault?_filter sig args _ fun name v _ hkeep => ?_
    exact fault?_of_not_mem sig v (by simpa using hkeep)
  rw [decode_eq, decode_eq, ← hfault a, ← hfault b, hdeclared, read_congr sig h]

end Signature
end ToolRelay
