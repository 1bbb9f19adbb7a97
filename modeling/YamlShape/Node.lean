/-
# YamlShape.Node -- the tree that shapes are inferred from

A document is a tree of scalars, sequences and mappings.  A scalar keeps its
literal as text, so that no number is ever rounded; a mapping keeps its entries
in source order and may repeat a key; a value under an application tag is only
known by that tag.
-/
namespace YamlShape

set_option autoImplicit false

/-- What a scalar was read as. -/
inductive ScalarKind where
  | string
  | integer
  | float
  | bool
  | null
  deriving DecidableEq

/-- A value of a document. -/
inductive Node where
  | scalar (kind : ScalarKind) (literal : String)
  | sequence (items : List Node)
  | mapping (entries : List (String × Node))
  | unknown (tag : String)

/-- The entries of a mapping. -/
abbrev Entries := List (String × Node)

namespace Node

/-- The null scalar, the body of an empty document. -/
def null : Node := .scalar .null "null"

/-- An entry's value is smaller than the list that holds the entry. -/
theorem sizeOf_value_lt {entries : Entries} {entry : String × Node} (member : entry ∈ entries) :
    sizeOf entry.2 < sizeOf entries := by
  have within := List.sizeOf_lt_of_mem member
  cases entry
  simp at within ⊢
  omega

/-- Induction on a value: a property of the items of a sequence and of the values
of a mapping carries over to the whole. -/
@[elab_as_elim]
theorem induction {motive : Node → Prop}
    (scalar : ∀ kind literal, motive (.scalar kind literal))
    (sequence : ∀ items, (∀ item ∈ items, motive item) → motive (.sequence items))
    (mapping : ∀ entries, (∀ entry ∈ entries, motive entry.2) → motive (.mapping entries))
    (unknown : ∀ tag, motive (.unknown tag)) : ∀ node, motive node
  | .scalar kind literal => scalar kind literal
  | .sequence items => sequence items fun item _ => induction scalar sequence mapping unknown item
  | .mapping entries =>
    mapping entries fun entry _ => induction scalar sequence mapping unknown entry.2
  | .unknown tag => unknown tag
termination_by node => sizeOf node
decreasing_by
  · have := List.sizeOf_lt_of_mem ‹item ∈ items›
    simp only [Node.sequence.sizeOf_spec]
    omega
  · have := sizeOf_value_lt ‹entry ∈ entries›
    simp only [Node.mapping.sizeOf_spec]
    omega

end Node

end YamlShape
