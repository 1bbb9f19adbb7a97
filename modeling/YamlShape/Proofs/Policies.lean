/-
# YamlShape.Proofs.Policies -- what the emptiness policy and the tag key change

Neither has a say in what is visited or how it is typed.  So two runs over the same
documents in one mode register the records of the same mappings, however many of these
overwrote each other on the way, and the records agree in all but the marks of fields
that may be left out (`Record.unmarked`).

The tag key does not touch the marks either.  The wider policy adds marks, and only to
numbers: it differs from the canonical one on numeric literals alone, and a number held
by a field is typed as one (`isNumber_of_isEmpty_ne`).
-/
import YamlShape.Proofs.TwoRuns

namespace YamlShape

set_option autoImplicit false

open List (Forall₂)

/-! ## Marks -/

/-- A field as it is when its value is not empty. -/
def Field.unmarked (field : Field) : Field :=
  { field with omitEmpty := false }

def Record.unmarked (record : Record) : Record :=
  { record with fields := record.fields.map Field.unmarked }

/-- The type of a number that a field holds, as it is or behind a pointer. -/
def TypeExpr.IsNumber (type : TypeExpr) : Prop :=
  ∃ name ∈ ["int", "float64"], type = .scalar name ∨ type = .optional (.scalar name)

/-- A field of the canonical policy and one of the wider policy: a mark that is there
stays, and only a number gains one. -/
structure MarkedMore (canonical wider : Field) : Prop where
  kept : canonical.omitEmpty = true → wider.omitEmpty = true
  number : canonical.omitEmpty ≠ wider.omitEmpty → canonical.type.IsNumber

/-! ## The policies on one value -/

/-- The policies tell numbers apart and nothing else. -/
theorem Node.eq_number_of_isEmpty_ne {node : Node}
    (differ : node.isEmpty .canonical ≠ node.isEmpty .zeroValues) :
    ∃ literal, node = .scalar .integer literal ∨ node = .scalar .float literal := by
  cases node with
  | scalar kind literal =>
      cases kind with
      | integer => exact ⟨literal, .inl rfl⟩
      | float => exact ⟨literal, .inr rfl⟩
      | _ => exact absurd rfl differ
  | _ => exact absurd rfl differ

namespace Inference

theorem isNumber_typed_number (optionality : Optionality) (path : List String) (slot : Slot)
    (key literal : String) {kind : ScalarKind} (number : kind = .integer ∨ kind = .float) :
    (typed optionality path slot key (.scalar kind literal)).1.IsNumber := by
  have wrapped : ∀ name, scalarName kind = some name →
      scalarType optionality slot kind = .scalar name ∨
        scalarType optionality slot kind = .optional (.scalar name) := by
    intro name named
    rw [scalarType, named]
    cases optionality <;> cases slot <;> simp
  rcases number with rfl | rfl
  · exact ⟨"int", by simp, wrapped "int" rfl⟩
  · exact ⟨"float64", by simp, wrapped "float64" rfl⟩

/-- A value that the policies judge differently is typed as a number. -/
theorem isNumber_of_isEmpty_ne (optionality : Optionality) (path : List String) (slot : Slot)
    (key : String) {node : Node}
    (differ : node.isEmpty .canonical ≠ node.isEmpty .zeroValues) :
    (typed optionality path slot key node).1.IsNumber := by
  obtain ⟨literal, rfl | rfl⟩ := node.eq_number_of_isEmpty_ne differ
  · exact isNumber_typed_number optionality path slot key literal (.inl rfl)
  · exact isNumber_typed_number optionality path slot key literal (.inr rfl)

end Inference

/-! ## The policies on one run -/

section Policies

variable {options other : Options} (mode : options.optionality = other.optionality)

include mode

namespace Walk

theorem map_unmarked_fields (entries : Entries) :
    (fields options [] entries).map Field.unmarked = (fields other [] entries).map Field.unmarked := by
  rw [fields, fields, List.map_map, List.map_map, mode]
  rfl

theorem fields_eq_of_emptiness (policy : options.emptiness = other.emptiness)
    (entries : Entries) : fields options [] entries = fields other [] entries := by
  rw [fields, fields, mode, policy]

theorem markedMore_fields (canonical : options.emptiness = .canonical)
    (wider : other.emptiness = .zeroValues) (entries : Entries) :
    Forall₂ MarkedMore (fields options [] entries) (fields other [] entries) := by
  rw [fields, fields, canonical, wider, ← mode, List.forall₂_map_left_iff,
    List.forall₂_map_right_iff]
  refine List.forall₂_same.2 fun entry _ => ⟨?_, ?_⟩
  · intro marked
    exact Node.isEmpty_zeroValues_of_canonical marked
  · intro differ
    exact Inference.isNumber_of_isEmpty_ne _ _ _ _ differ

end Walk

namespace Generation

theorem map_unmarked_get?_run (documents : List Node) (name : String) :
    ((run documents options).registry.get? name).map Record.unmarked =
      ((run documents other).registry.get? name).map Record.unmarked := by
  have step := forall₂_writes_options options other documents
  refine map_eq_of_rel ?_ (rel_get?_run step (keepsNames_ofOneMapping options other) name)
  rintro ⟨_, _⟩ ⟨_, _⟩ ⟨rfl, entries, rfl, rfl⟩
  rw [Record.unmarked, Record.unmarked, Walk.map_unmarked_fields mode]

theorem registry_run_eq_of_emptiness (policy : options.emptiness = other.emptiness)
    (documents : List Node) :
    (run documents options).registry = (run documents other).registry := by
  have written : writes options documents = writes other documents := by
    rw [← List.forall₂_eq_eq_eq (α := Record)]
    refine (forall₂_writes_options options other documents).imp ?_
    rintro ⟨_, _⟩ ⟨_, _⟩ ⟨rfl, entries, rfl, rfl⟩
    rw [Walk.fields_eq_of_emptiness mode policy]
  rw [run, run, registryOf_eq, registryOf_eq, written]

theorem rel_markedMore_run (canonical : options.emptiness = .canonical)
    (wider : other.emptiness = .zeroValues) (documents : List Node) (name : String) :
    Option.Rel (fun left right => Forall₂ MarkedMore left.fields right.fields)
      ((run documents options).registry.get? name) ((run documents other).registry.get? name) := by
  have step := forall₂_writes_options options other documents
  refine rel_imp ?_ (rel_get?_run step (keepsNames_ofOneMapping options other) name)
  rintro ⟨_, _⟩ ⟨_, _⟩ ⟨_, entries, rfl, rfl⟩
  exact Walk.markedMore_fields mode canonical wider entries

end Generation

end Policies

/-- The JSON view shows the registry in the order of the roots, and nothing else. -/
theorem Generation.schema_congr {left right : Generation}
    (registry : left.registry = right.registry) (roots : left.rootNames = right.rootNames) :
    left.schema = right.schema := by
  rw [schema, schema, orderedRecords, orderedRecords, presentRoots, presentRoots, registry, roots]

/-- **The emptiness policy and the tag key change nothing but what they are for.**  Two
runs over the same documents, in one mode, have the same root names and register the same
names in the same order; the records under each name agree in all but the marks of their
fields.  Under one policy the registries are equal, and the JSON views too, whatever the
tag keys are.  From the canonical policy to the wider one no mark is lost, and only
numbers gain one. -/
theorem policies_change_only_marks (documents : List Node) {options other : Options}
    (mode : options.optionality = other.optionality) :
    (Generation.run documents options).rootNames = (Generation.run documents other).rootNames ∧
    (Generation.run documents options).registry.keys =
      (Generation.run documents other).registry.keys ∧
    (∀ name, ((Generation.run documents options).registry.get? name).map Record.unmarked =
      ((Generation.run documents other).registry.get? name).map Record.unmarked) ∧
    (options.emptiness = other.emptiness →
      (Generation.run documents options).registry = (Generation.run documents other).registry ∧
      (Generation.run documents options).schema = (Generation.run documents other).schema) ∧
    (options.emptiness = .canonical → other.emptiness = .zeroValues → ∀ name,
      Option.Rel (fun left right => Forall₂ MarkedMore left.fields right.fields)
        ((Generation.run documents options).registry.get? name)
        ((Generation.run documents other).registry.get? name)) := by
  have step := Generation.forall₂_writes_options options other documents
  refine ⟨rfl, Generation.keys_run_eq step (keepsNames_ofOneMapping options other),
    Generation.map_unmarked_get?_run mode documents, ?_, ?_⟩
  · intro policy
    have registry := Generation.registry_run_eq_of_emptiness mode policy documents
    exact ⟨registry, Generation.schema_congr registry rfl⟩
  · intro canonical wider name
    exact Generation.rel_markedMore_run mode canonical wider documents name

/-- Zeros that pointers lead to are marked by the wider policy, an empty text by both, and
a list of zeros by neither. -/
theorem policies_of_zero_literals :
    let documents : List Node :=
      [.mapping [("count", .scalar .integer "0"), ("ratio", .scalar .float "0.0"),
        ("note", .scalar .string ""), ("sizes", .sequence [.scalar .integer "0"])]]
    let canonical : Options := { optionality := .pointer }
    let wider : Options := { tagKey := "yaml", optionality := .pointer, emptiness := .zeroValues }
    let record (zero : Bool) : Record := { name := "Document", fields := [
      { sourceKey := "count", type := .optional (.scalar "int"), omitEmpty := zero },
      { sourceKey := "ratio", type := .optional (.scalar "float64"), omitEmpty := zero },
      { sourceKey := "note", type := .optional (.scalar "string"), omitEmpty := true },
      { sourceKey := "sizes", type := .slice (.scalar "int"), omitEmpty := false }] }
    canonical.optionality = wider.optionality ∧
      (Generation.run documents canonical).registry.get? "Document" = some (record false) ∧
      (Generation.run documents wider).registry.get? "Document" = some (record true) ∧
      (∀ name, Option.Rel (fun left right => Forall₂ MarkedMore left.fields right.fields)
        ((Generation.run documents canonical).registry.get? name)
        ((Generation.run documents wider).registry.get? name)) ∧
      (Generation.run documents wider).schema =
        (Generation.run documents { wider with tagKey := "" }).schema := by
  intro documents canonical wider record
  have written : ∀ options : Options, Generation.writes options documents =
      [{ name := "Document", fields := Walk.fields options [] [("count", .scalar .integer "0"),
        ("ratio", .scalar .float "0.0"), ("note", .scalar .string ""),
        ("sizes", .sequence [.scalar .integer "0"])] }] := by
    intro options
    simp [documents, Generation.writes, Generation.rootNamesOf, Walk.rootName,
      Walk.documentRoot, Walk.bodyWrites, Node.isMapping, Walk.writes_mapping, Node.isSequence,
      Walk.writes]
  have mode : canonical.optionality = wider.optionality := rfl
  refine ⟨mode, ?_, ?_, ?_, ?_⟩
  · rw [Generation.get?_run, written]
    decide +kernel
  · rw [Generation.get?_run, written]
    decide +kernel
  · exact (policies_change_only_marks documents mode).2.2.2.2 rfl rfl
  · have untagged : wider.optionality = ({ wider with tagKey := "" } : Options).optionality := rfl
    exact ((policies_change_only_marks documents untagged).2.2.2.1 rfl).2

end YamlShape
