import ToolRelay.Operation

/-!
# Registries

A registry lists operations in the order of their registration, no two of them with one name. It
looks operations up by their exact name, or, for people, up to the case of ASCII letters.
-/

set_option autoImplicit false

namespace ToolRelay

/-- Operations with distinct names, in the order of registration. -/
structure Registry where
  specs : List Spec
  distinct : (specs.map (·.name)).Nodup

/-- Why an operation cannot be registered. -/
inductive RegistryError
  | duplicate (name : String)
  | malformedSchema (name : String) (fault : SchemaFault)
  deriving DecidableEq, Repr

/-- The text of the error. -/
def RegistryError.message : RegistryError → String
  | .duplicate name => "operation already registered: " ++ name
  | .malformedSchema name fault =>
    "malformed input schema for " ++ name ++ ": " ++ fault.reason

namespace Registry

/-- The registry with no operations. -/
def empty : Registry := ⟨[], .nil⟩

/-- The names in the order of registration. -/
def names (r : Registry) : List String :=
  r.specs.map (·.name)

/-- How many operations there are. -/
def size (r : Registry) : Nat :=
  r.specs.length

/-- The operation of exactly this name. -/
def lookup (r : Registry) (name : String) : Option Spec :=
  r.specs.find? fun s => s.name == name

/-- A name that is not found is not taken. -/
theorem not_mem_names_of_lookup_eq_none {r : Registry} {name : String}
    (h : r.lookup name = none) : name ∉ r.names := by
  intro hm
  obtain ⟨s, hs, rfl⟩ := List.mem_map.1 hm
  have := List.find?_eq_none.1 h s hs
  simp at this

/-- The registry with an operation of another name behind the others. -/
def add (r : Registry) (s : Spec) (h : r.lookup s.name = none) : Registry where
  specs := r.specs ++ [s]
  distinct := by
    rw [List.map_append, List.map_singleton, List.nodup_append]
    refine ⟨r.distinct, by simp, ?_⟩
    intro a ha b hb hab
    rw [List.mem_singleton.1 hb] at hab
    exact not_mem_names_of_lookup_eq_none h (hab ▸ ha)

/-- Registers an operation behind the others, unless its name is taken. -/
def register (s : Spec) : EStateM RegistryError Registry Unit := do
  let r ← get
  if h : r.lookup s.name = none then set (r.add s h) else throw (.duplicate s.name)

/-- A letter in small, for the letters of ASCII. -/
def lower (s : String) : List Char :=
  s.toList.map Char.toLower

/-- The operation of exactly this name, or else the first whose name differs only in the case of
ASCII letters. -/
def find? (r : Registry) (name : String) : Option Spec :=
  match r.lookup name with
  | some s => some s
  | none => r.specs.find? fun s => lower s.name == lower name

end Registry
end ToolRelay
