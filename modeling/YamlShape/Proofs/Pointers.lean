/-
# YamlShape.Proofs.Pointers -- what pointer mode changes

Pointer mode puts a star before the type of a scalar that a field holds directly, and
does nothing else (`pointers_add_only_stars`).  The two modes name and register alike,
so their runs are compared record by record: that of pointer mode is the other one
with stars added (`Record.starred`).

Whether a scalar gets a star is decided by its slot.  Within a sequence both modes
type alike (`typed_element_eq`), which is why no star is ever found in a slice.
-/
import YamlShape.Proofs.TwoRuns

namespace YamlShape

set_option autoImplicit false

open List (Forall₂)

/-! ## Stars -/

namespace TypeExpr

/-- The type in pointer mode of a field that has a type in value mode. -/
def starred : TypeExpr → TypeExpr
  | .scalar name => .optional (.scalar name)
  | type => type

/-- There is no star in the type. -/
def Plain : TypeExpr → Prop
  | .optional _ => False
  | .slice element => element.Plain
  | _ => True

theorem starred_of_plain {type : TypeExpr} (plain : type.Plain) :
    type.starred.Plain ∨ ∃ name, type.starred = .optional (.scalar name) := by
  cases type with
  | scalar name => exact .inr ⟨name, rfl⟩
  | optional => exact plain.elim
  | _ => exact .inl plain

end TypeExpr

def Field.starred (field : Field) : Field :=
  { field with type := field.type.starred }

def Record.starred (record : Record) : Record :=
  { record with fields := record.fields.map Field.starred }

/-! ## The two modes on one value -/

namespace Inference

variable {path : List String} {slot : Slot} {key : String}

theorem scalarType_pointer (kind : ScalarKind) :
    scalarType .pointer .field kind = (scalarType .value .field kind).starred := by
  cases kind <;> rfl

theorem scalarType_element (optionality other : Optionality) (kind : ScalarKind) :
    scalarType optionality .element kind = scalarType other .element kind := by
  cases kind <;> cases optionality <;> cases other <;> rfl

theorem typed_element_eq (optionality other : Optionality) (node : Node) :
    (typed optionality path .element key node).1 = (typed other path .element key node).1 := by
  induction node using Node.induction generalizing key with
  | scalar kind => exact scalarType_element optionality other kind
  | unknown => rfl
  | mapping entries => cases entries <;> rfl
  | sequence items ih =>
      cases items with
      | nil => rfl
      | cons first rest =>
          rw [typed, typed]
          exact congrArg TypeExpr.slice (ih first List.mem_cons_self)

/-- Pointer mode adds a star to the type that a field has in value mode. -/
theorem typed_pointer (node : Node) :
    (typed .pointer path .field key node).1 = (typed .value path .field key node).1.starred := by
  match node with
  | .scalar kind _ => exact scalarType_pointer kind
  | .sequence [] => rfl
  | .sequence (first :: _) =>
      rw [typed, typed]
      exact congrArg TypeExpr.slice (typed_element_eq .pointer .value first)
  | .mapping [] => rfl
  | .mapping (_ :: _) => rfl
  | .unknown _ => rfl

theorem plain_typed_value (node : Node) : (typed .value path slot key node).1.Plain := by
  induction node using Node.induction generalizing slot key with
  | scalar kind => cases kind <;> cases slot <;> trivial
  | unknown => trivial
  | mapping entries => cases entries <;> trivial
  | sequence items ih =>
      cases items with
      | nil => trivial
      | cons first rest =>
          rw [typed]
          exact ih first List.mem_cons_self

end Inference

/-! ## The two modes on one run -/

section Modes

variable (options : Options)

/-- The same options in value mode. -/
def Options.values : Options := { options with optionality := .value }

/-- The same options in pointer mode. -/
def Options.pointers : Options := { options with optionality := .pointer }

/-- A record of value mode and one of pointer mode that differ by stars. -/
def DifferByStars (value pointer : Record) : Prop :=
  pointer = value.starred

theorem keepsNames_differByStars : KeepsNames DifferByStars := by
  rintro value pointer rfl
  rfl

theorem Walk.fields_pointers (entries : Entries) :
    fields options.pointers [] entries = (fields options.values [] entries).map Field.starred := by
  rw [fields, fields, List.map_map]
  refine List.map_congr_left fun entry _ => ?_
  simp only [Function.comp, Field.starred, Options.pointers, Options.values,
    Inference.typed_pointer]

theorem Generation.forall₂_writes_pointers (documents : List Node) :
    Forall₂ DifferByStars (writes options.values documents) (writes options.pointers documents) := by
  refine (forall₂_writes_options options.values options.pointers documents).imp ?_
  rintro ⟨name, _⟩ ⟨_, _⟩ ⟨rfl, entries, rfl, rfl⟩
  rw [DifferByStars, Record.starred, Walk.fields_pointers]

theorem Generation.get?_run_pointers (documents : List Node) (name : String) :
    (run documents options.pointers).registry.get? name =
      ((run documents options.values).registry.get? name).map Record.starred := by
  have pair := rel_get?_run (forall₂_writes_pointers options documents)
    keepsNames_differByStars name
  have same : ((run documents options.values).registry.get? name).map Record.starred =
      ((run documents options.pointers).registry.get? name).map id :=
    map_eq_of_rel (fun _ _ stars => Eq.symm stars) pair
  rw [same, Option.map_id, id]

theorem Generation.plain_of_get?_run_values {documents : List Node} {name : String}
    {record : Record}
    (stands : (run documents options.values).registry.get? name = some record)
    {field : Field} (listed : field ∈ record.fields) : field.type.Plain := by
  obtain ⟨entries, _, typed⟩ := fields_of_get?_run stands
  rw [typed] at listed
  obtain ⟨entry, _, rfl⟩ := List.mem_map.1 listed
  exact Inference.plain_typed_value entry.2

end Modes

/-- **Pointer mode only adds stars to scalars.**  Two runs that differ in the mode have
the same root names and register the same names in the same order.  Under each name
the fields agree in all but their types, and in these by a star before a scalar that a
field holds directly.  So there is no star at all in value mode, and in pointer mode
none but these. -/
theorem pointers_add_only_stars (documents : List Node) (options : Options) :
    (Generation.run documents options.pointers).rootNames =
      (Generation.run documents options.values).rootNames ∧
    (Generation.run documents options.pointers).registry.keys =
      (Generation.run documents options.values).registry.keys ∧
    (∀ name, (Generation.run documents options.pointers).registry.get? name =
      ((Generation.run documents options.values).registry.get? name).map Record.starred) ∧
    (∀ name record, (Generation.run documents options.values).registry.get? name = some record →
      ∀ field ∈ record.fields, field.type.Plain) ∧
    (∀ name record, (Generation.run documents options.pointers).registry.get? name = some record →
      ∀ field ∈ record.fields,
        field.type.Plain ∨ ∃ scalar, field.type = .optional (.scalar scalar)) := by
  have step := Generation.forall₂_writes_pointers options documents
  refine ⟨rfl, (Generation.keys_run_eq step keepsNames_differByStars).symm,
    Generation.get?_run_pointers options documents, ?_, ?_⟩
  · intro name record stands field listed
    exact Generation.plain_of_get?_run_values options stands listed
  · -- a field of pointer mode is a starred one, and value mode has no star to begin with
    intro name record stands field listed
    rw [Generation.get?_run_pointers] at stands
    obtain ⟨value, standsThere, rfl⟩ := Option.map_eq_some_iff.1 stands
    obtain ⟨plainField, inside, rfl⟩ := List.mem_map.1 listed
    have plain := Generation.plain_of_get?_run_values options standsThere inside
    exact TypeExpr.starred_of_plain plain

/-- Of the two fields of this document, only the port gets a star. -/
theorem run_pointers_of_server :
    let documents : List Node :=
      [.mapping [("port", .scalar .integer "80"), ("hosts", .sequence [.scalar .string "a"])]]
    let value : Record := { name := "Document", fields := [
      { sourceKey := "port", type := .scalar "int", omitEmpty := false },
      { sourceKey := "hosts", type := .slice (.scalar "string"), omitEmpty := false }] }
    (Generation.run documents (Options.values {})).registry.get? "Document" = some value ∧
      (Generation.run documents (Options.pointers {})).registry.get? "Document" =
        some value.starred := by
  intro documents value
  have written : Generation.writes (Options.values {}) documents = [value] := by
    simp [documents, value, Generation.writes, Generation.rootNamesOf, Walk.rootName,
      Walk.documentRoot, Walk.bodyWrites, Node.isMapping, Walk.writes_mapping, Node.isSequence,
      Walk.writes, Walk.fields, Inference.typed, Inference.scalarType, Inference.scalarName,
      Options.values, Node.isEmpty]
  have stands :
      (Generation.run documents (Options.values {})).registry.get? "Document" = some value := by
    rw [Generation.get?_run, written]
    rfl
  have starred := (pointers_add_only_stars documents {}).2.2.1 "Document"
  exact ⟨stands, by rw [starred, stands, Option.map_some]⟩

end YamlShape
