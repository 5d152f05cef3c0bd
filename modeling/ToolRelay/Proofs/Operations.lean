import ToolRelay.Proofs.Description
import ToolRelay.Proofs.Planning
import ToolRelay.Text.Blank

/-!
# What the operations have in common

Facts that hold of every operation of every profile, and that only a look at each of the twelve can
show: what a signature must be like to be described, what is required, what may be left out, and how
labels and names are written. From the first of them, the text for a parameter comes to a value of
the type that its range is described by (`Coercion.get?_arguments`).
-/

set_option autoImplicit false

namespace ToolRelay

instance : (range : ValueRange) → Decidable range.Listed
  | .text => isTrue trivial
  | .natural _ => isTrue trivial
  | .label labels => inferInstanceAs (Decidable (labels ≠ []))
  | .orNull range => instDecidableListed range

namespace Profile

variable {p : Profile} {op : Operation}

/-- The signatures of all operations can be described. -/
theorem describable (hop : op ∈ p.operations) : op.signature.Describable := by
  refine ⟨?_, ?_, ?_⟩
  · cases p, op, hop using Profile.operation_cases <;> decide
  · cases p, op, hop using Profile.operation_cases <;> decide
  · rw [rules_eq_parameterRules hop]
    cases p, op, hop using Profile.operation_cases <;> decide

/-- No label reads `null`, and none begins like an object. -/
theorem labels_ne (hop : op ∈ p.operations) :
    ∀ r ∈ op.signature.rules, ∀ s ∈ r.range.labels, s ≠ "null" ∧ s.toList.head? ≠ some '{' := by
  rw [rules_eq_parameterRules hop]
  cases p, op, hop using Profile.operation_cases <;> decide

/-- No label is listed twice. -/
theorem nodup_labels (hop : op ∈ p.operations) :
    ∀ r ∈ op.signature.rules, r.range.labels.Nodup := by
  rw [rules_eq_parameterRules hop]
  cases p, op, hop using Profile.operation_cases <;> decide

/-- What operations require are texts. -/
theorem range_of_required (hop : op ∈ p.operations) :
    ∀ r ∈ op.signature.rules, r.required = true → r.range = .text := by
  rw [rules_eq_parameterRules hop]
  cases p, op, hop using Profile.operation_cases <;> decide

/-- What operations describe as integers are natural numbers that may be left out. -/
theorem natural_of_word (hop : op ∈ p.operations) :
    ∀ r ∈ op.signature.rules, r.range.word = "integer" →
      r.required = false ∧ r.range = .natural r.range.bound := by
  rw [rules_eq_parameterRules hop]
  cases p, op, hop using Profile.operation_cases <;> decide

/-- The name of an operation has no white space around it. -/
theorem trimmed_name (hop : op ∈ p.operations) : Text.trimmed op.name = op.name := by
  cases p, op, hop using Profile.operation_cases <;> decide

end Profile

/-- A declared argument is read from its text for the word of its range. -/
theorem Coercion.get?_arguments {p : Profile} {op : Operation} (hop : op ∈ p.operations)
    {r : ParameterRule} (hr : r ∈ op.signature.rules) (provided : Dict String) :
    (arguments op.spec provided).get? r.name =
      (provided.get? r.name).map fun raw => coerce raw r.range.word := by
  have htype := Operation.typeOf_spec (Profile.describable hop) hr
  rw [arguments, Dict.get?_map, htype]

end ToolRelay
