/-
# YamlShape.Inference -- the type of one value

`typed` gives the type of a value and, where the value leads to a non-empty
mapping, that mapping as a `Discovery`.  A sequence is typed by its first
element alone, at any depth; whatever follows is never looked at.

The record of a mapping is not built here: the type only refers to it by name,
and the discovery says under which path, and from which kind of place, it is
still to be visited.

* `typed_snd_entries_lt`: a discovered mapping is smaller than the value it was
  found in, so visiting discoveries comes to an end;
* `inferSlot_eq`: an inference that runs on gives these types, and keeps the
  discoveries in the order in which it made them.
-/
import YamlShape.Node
import YamlShape.Options
import YamlShape.Name
import YamlShape.Record

namespace YamlShape

set_option autoImplicit false

/-! ## Places and discoveries -/

/-- Where a value sits: held by a mapping's entry, or reached through the first
elements of sequences. -/
inductive Slot where
  | field
  | element
  deriving DecidableEq

/-- A non-empty mapping that needs a record of its own, and the path to visit it
under. -/
structure Discovery where
  path : List String
  slot : Slot
  entries : Entries

namespace Inference

/-! ## Types -/

/-- The name of a scalar's type.  Null says nothing about its type. -/
def scalarName : ScalarKind → Option String
  | .string => some "string"
  | .integer => some "int"
  | .float => some "float64"
  | .bool => some "bool"
  | .null => none

/-- The type of a scalar.  Only a scalar that a field holds directly is put
behind a pointer. -/
def scalarType (optionality : Optionality) (slot : Slot) (kind : ScalarKind) : TypeExpr :=
  match scalarName kind with
  | none => .any
  | some name =>
    match optionality, slot with
    | .pointer, .field => .optional (.scalar name)
    | _, _ => .scalar name

/-- The type of the value under `key` on `path`, and the mapping it leads to. -/
def typed (optionality : Optionality) (path : List String) :
    Slot → String → Node → TypeExpr × Option Discovery
  | slot, _, .scalar kind _ => (scalarType optionality slot kind, none)
  | _, _, .sequence [] => (.slice .any, none)
  | _, _, .sequence (first :: _) =>
    let (element, found) := typed optionality path .element "" first
    (.slice element, found)
  | _, _, .mapping [] => (.genericMap, none)
  | slot, key, .mapping (entry :: rest) =>
    (.recordRef (Name.recordNameFor key), some ⟨path ++ [key], slot, entry :: rest⟩)
  | _, _, .unknown _ => (.any, none)

theorem typed_snd_entries_lt {optionality : Optionality} {path : List String} {slot : Slot}
    {key : String} {node : Node} {found : Discovery}
    (discovered : (typed optionality path slot key node).2 = some found) :
    sizeOf found.entries < sizeOf node := by
  fun_induction typed optionality path slot key node with
  | case3 slot key first rest element found' eq ih =>
    have smaller := ih (by simpa [eq] using discovered)
    simp only [Node.sequence.sizeOf_spec, List.cons.sizeOf_spec]
    omega
  | case5 slot key entry rest =>
    simp only [Option.some.injEq] at discovered
    subst discovered
    simp only [Node.mapping.sizeOf_spec]
    omega
  | case1 => simp at discovered
  | case2 => simp at discovered
  | case4 => simp at discovered
  | case6 => simp at discovered

end Inference

/-! ## A running inference -/

/-- Types values one after the other and collects the mappings that they lead
to, in the order of the calls. -/
structure Inference where
  optionality : Optionality
  discoveries : List Discovery := []

namespace Inference

/-- Types the value under `key` on `path`, and puts the mapping that it leads to behind
those that were found before. -/
def inferSlot (inference : Inference) (path : List String) :
    Slot → String → Node → TypeExpr × Inference
  | slot, _, .scalar kind _ => (scalarType inference.optionality slot kind, inference)
  | _, _, .sequence [] => (.slice .any, inference)
  | _, _, .sequence (first :: _) =>
    let (element, inference) := inference.inferSlot path .element "" first
    (.slice element, inference)
  | _, _, .mapping [] => (.genericMap, inference)
  | slot, key, .mapping (entry :: rest) =>
    let found : Discovery := ⟨path ++ [key], slot, entry :: rest⟩
    (.recordRef (Name.recordNameFor key),
      { inference with discoveries := inference.discoveries ++ [found] })
  | _, _, .unknown _ => (.any, inference)

/-- What was found before plays no part in the type, and is kept in front. -/
theorem inferSlot_eq (inference : Inference) (path : List String) (slot : Slot) (key : String)
    (node : Node) :
    inference.inferSlot path slot key node =
      ((typed inference.optionality path slot key node).1,
        ⟨inference.optionality, inference.discoveries
          ++ (typed inference.optionality path slot key node).2.toList⟩) := by
  fun_induction typed inference.optionality path slot key node with
  | case3 slot key first rest element found eq ih =>
    simp only [eq] at ih
    simp only [inferSlot, ih]
  | _ => simp [inferSlot]

/-- Types the value that an entry holds under `key`. -/
def infer (inference : Inference) (path : List String) (key : String) (node : Node) :
    TypeExpr × Inference :=
  inference.inferSlot path .field key node

theorem infer_eq (inference : Inference) (path : List String) (key : String) (node : Node) :
    inference.infer path key node =
      ((typed inference.optionality path .field key node).1,
        ⟨inference.optionality, inference.discoveries
          ++ (typed inference.optionality path .field key node).2.toList⟩) :=
  inferSlot_eq inference path .field key node

/-- Hands over the discoveries made so far. -/
def take (inference : Inference) : List Discovery × Inference :=
  (inference.discoveries, { inference with discoveries := [] })

end Inference

end YamlShape
