/-
# YamlShape.Proofs.Inference -- the type of a value and the mapping it leads to

`Inference.typed` gives both at once.  Here is how they go together, for every
kind of value:

* the type does not depend on the path (`typed_fst_path`);
* a mapping leads to itself, in the place where it lies, and a sequence to an
  element; nothing else leads anywhere (`slot_of_typed`);
* a type is a reference by value exactly where a filled mapping is held
  directly, and refers to the name of its key (`typed_eq_recordRef_iff`).
-/
import YamlShape.Inference

namespace YamlShape

set_option autoImplicit false

namespace Node

def isMapping : Node → Bool
  | .mapping _ => true
  | _ => false

def isSequence : Node → Bool
  | .sequence _ => true
  | _ => false

end Node

namespace Inference

variable {optionality : Optionality} {path : List String} {slot : Slot} {key : String}
  {node : Node}

theorem typed_fst_path (path other : List String) :
    (typed optionality path slot key node).1 = (typed optionality other slot key node).1 := by
  fun_induction typed optionality path slot key node with
  | case3 slot key first rest element found eq ih =>
      simp only [eq] at ih
      simp only [typed, ih]
  | _ => rfl

/-- The key names the record, so of its entries only matters whether there are any. -/
theorem typed_fst_mapping (entries : Entries) :
    (typed optionality path slot key (.mapping entries)).1 =
      if entries.isEmpty then .genericMap else .recordRef (Name.recordNameFor key) := by
  cases entries <;> rfl

/-- What a mapping leads to lies where the mapping lies; what a sequence leads to
is an element; no other value leads anywhere. -/
theorem slot_of_typed {found : Discovery}
    (discovered : (typed optionality path slot key node).2 = some found) :
    node.isMapping = true ∧ node.isSequence = false ∧ found.slot = slot ∨
      node.isMapping = false ∧ node.isSequence = true ∧ found.slot = .element := by
  fun_induction typed optionality path slot key node with
  | case3 slot key first rest element found' eq ih =>
      refine .inr ⟨rfl, rfl, ?_⟩
      have inner := ih (by simpa [eq] using discovered)
      exact inner.elim (·.2.2) (·.2.2)
  | case5 slot key entry rest =>
      obtain rfl := Option.some.inj discovered
      exact .inl ⟨rfl, rfl, rfl⟩
  | case1 => simp at discovered
  | case2 => simp at discovered
  | case4 => simp at discovered
  | case6 => simp at discovered

theorem slot_of_field {found : Discovery}
    (discovered : (typed optionality path .field key node).2 = some found) :
    decide (found.slot = .element) = node.isSequence ∧
      decide (found.slot = .field) = node.isMapping := by
  rcases slot_of_typed discovered with ⟨held, plain, same⟩ | ⟨held, plain, same⟩ <;>
    simp [held, plain, same]

theorem scalarType_ne_recordRef (kind : ScalarKind) (name : String) :
    scalarType optionality slot kind ≠ .recordRef name := by
  cases kind <;> cases optionality <;> cases slot <;> simp [scalarType, scalarName]

/-- A value is referred to by its own record exactly where it is a filled
mapping. -/
theorem typed_eq_recordRef_iff {name : String} :
    (typed optionality path slot key node).1 = .recordRef name ↔
      (∃ entries, entries ≠ [] ∧ node = .mapping entries) ∧ name = Name.recordNameFor key := by
  fun_cases typed optionality path slot key node with
  | case1 slot key kind literal => simp [scalarType_ne_recordRef]
  | case2 => simp
  | case3 => simp
  | case4 => simp
  | case5 slot key entry rest => simp [eq_comm]
  | case6 => simp

end Inference

end YamlShape
