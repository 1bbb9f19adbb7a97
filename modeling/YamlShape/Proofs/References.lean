/-
# YamlShape.Proofs.References -- every reference has its declaration

A type may refer to a record, by value or behind slices.  The name it refers to
comes from the key of the entry whose value is typed, the name a record is
registered under from the last key of its path; `run_references_declared` says
that the two meet: after a run every name that a type refers to is registered,
and among the emitted records exactly one declares it.

In the middle of a run references do dangle.  What holds throughout is that a
value's records are closed among themselves (`refersTo_writes`): each record is
written together with all that its types refer to, before or after it.
-/
import Mathlib.Data.List.Nodup
import YamlShape.Proofs.Emission

namespace YamlShape

set_option autoImplicit false

open Name (recordNameFor)

/-! ## References -/

/-- The type is a record of the name, or made of one. -/
def TypeExpr.RefersTo (name : String) : TypeExpr → Prop
  | .scalar _ => False
  | .optional inner => inner.RefersTo name
  | .slice element => element.RefersTo name
  | .recordRef referred => referred = name
  | .genericMap => False
  | .any => False

/-- The type of a field is a record of the name, or made of one. -/
def Record.RefersTo (record : Record) (name : String) : Prop :=
  ∃ field ∈ record.fields, field.type.RefersTo name

namespace Walk

theorem not_refersTo_scalarType (optionality : Optionality) (slot : Slot) (kind : ScalarKind)
    (name : String) : ¬ (Inference.scalarType optionality slot kind).RefersTo name := by
  cases kind <;> cases optionality <;> cases slot <;>
    simp [Inference.scalarType, Inference.scalarName, TypeExpr.RefersTo]

/-- The record that a value's type refers to is among those that its visit writes. -/
theorem refersTo_typed (options : Options) (path : List String) {slot : Slot} {key name : String}
    {node : Node}
    (refers : (Inference.typed options.optionality path slot key node).1.RefersTo name) :
    name ∈ (writes options (recordNameFor key) node).map (·.name) := by
  induction node using Node.induction generalizing slot key with
  | scalar kind literal => exact absurd refers (not_refersTo_scalarType _ _ _ _)
  | unknown tag => exact refers.elim
  | sequence items ih =>
      cases items with
      | nil => exact refers.elim
      | cons first rest =>
          have below := ih first List.mem_cons_self refers
          rw [writes_sequence]
          exact below
  | mapping entries =>
      cases entries with
      | nil => exact refers.elim
      | cons entry rest =>
          obtain rfl : recordNameFor key = name := refers
          exact name_mem_writes options _ (List.cons_ne_nil _ _)

/-- **The records of a value are closed under reference.** -/
theorem refersTo_writes {options : Options} {name referred : String} {node : Node}
    {record : Record} (written : record ∈ writes options name node)
    (refers : record.RefersTo referred) :
    referred ∈ (writes options name node).map (·.name) := by
  induction node using Node.induction generalizing name with
  | scalar => rw [writes] at written; cases written
  | unknown => rw [writes] at written; cases written
  | sequence items ih =>
      cases items with
      | nil => rw [writes] at written; cases written
      | cons first rest =>
          rw [writes_sequence] at written ⊢
          exact ih first List.mem_cons_self written
  | mapping entries ih =>
      by_cases empty : entries = []
      · rw [empty, writes] at written
        cases written
      have inside : ∀ entry ∈ entries,
          referred ∈ (writes options (recordNameFor entry.1) entry.2).map (·.name) →
            referred ∈ (writes options name (.mapping entries)).map (·.name) := by
        intro entry member among
        obtain ⟨other, found, rfl⟩ := List.mem_map.1 among
        exact List.mem_map.2 ⟨other, (mem_writes_mapping empty).2 (.inr ⟨entry, member, found⟩), rfl⟩
      rcases (mem_writes_mapping empty).1 written with rfl | ⟨entry, member, below⟩
      · obtain ⟨field, listed, type⟩ := refers
        obtain ⟨entry, member, rfl⟩ := List.mem_map.1 listed
        exact inside entry member (refersTo_typed options [] type)
      · exact inside entry member (ih entry member below)

end Walk

/-! ## After a run -/

namespace Generation

variable {documents : List Node} {options : Options}

theorem refersTo_run_writes {record : Record} {referred : String}
    (written : record ∈ writes options documents) (refers : record.RefersTo referred) :
    referred ∈ (writes options documents).map (·.name) := by
  obtain ⟨⟨body, root⟩, member, among⟩ := List.mem_flatMap.1 written
  simp only [Walk.bodyWrites] at among
  split at among
  · next mapping =>
    obtain ⟨other, found, rfl⟩ := List.mem_map.1 (Walk.refersTo_writes among refers)
    refine List.mem_map.2 ⟨other, List.mem_flatMap.2 ⟨(body, root), member, ?_⟩, rfl⟩
    simpa only [Walk.bodyWrites, if_pos mapping] using found
  · cases among

theorem registered_of_refersTo {name referred : String} {record : Record}
    (stands : (run documents options).registry.get? name = some record)
    (refers : record.RefersTo referred) : referred ∈ (run documents options).registry.keys :=
  mem_keys_run.2 (refersTo_run_writes (mem_writes_of_get?_run stands) refers)

/-- The root name of a document whose body is a filled mapping is registered. -/
theorem root_registered {index : Nat} {entries : Entries} (filled : entries ≠ [])
    (here : documents[index]? = some (.mapping entries)) :
    Walk.rootName index documents.length (.mapping entries) ∈
      (run documents options).registry.keys := by
  have own := Walk.name_mem_writes options
    (Walk.rootName index documents.length (.mapping entries)) filled
  exact mem_keys_run.2 (List.map_subset _ (bodyWrites_subset_writes here options) own)

/-- Emission declares every registered name once. -/
theorem count_orderedRecords {name : String}
    (registered : name ∈ (run documents options).registry.keys) :
    ((run documents options).orderedRecords.map (·.name)).count name = 1 := by
  refine List.nodup_iff_count_eq_one.1 (nodup_name_orderedRecords documents options) name ?_
  rw [map_name_orderedRecords]
  exact Registry.mem_emissionKeys.2 registered

theorem mem_registry_of_mem_orderedRecords {record : Record}
    (emitted : record ∈ (run documents options).orderedRecords) :
    ∃ name, (run documents options).registry.get? name = some record := by
  obtain ⟨name, _, stands⟩ := List.mem_filterMap.1 emitted
  exact ⟨name, stands⟩

end Generation

/-- **No reference dangles.**  After a run every name that a registered record
refers to is registered, and so is the root name of every document that is a
filled mapping; among the emitted records exactly one declares any name that an
emitted record refers to. -/
theorem run_references_declared (documents : List Node) (options : Options) :
    (∀ name record, (Generation.run documents options).registry.get? name = some record →
      ∀ field ∈ record.fields, ∀ referred, field.type.RefersTo referred →
        (Generation.run documents options).registry.contains referred = true) ∧
    (∀ (index : Nat) (entries : Entries), entries ≠ [] →
      documents[index]? = some (.mapping entries) →
        ∃ root, (Generation.run documents options).rootNames[index]? = some root ∧
          (Generation.run documents options).registry.contains root = true) ∧
    (∀ record ∈ (Generation.run documents options).orderedRecords,
      ∀ field ∈ record.fields, ∀ referred, field.type.RefersTo referred →
        ((Generation.run documents options).orderedRecords.map (·.name)).count referred = 1) := by
  refine ⟨?_, ?_, ?_⟩
  · intro name record stands field listed referred refers
    have registered := Generation.registered_of_refersTo stands ⟨field, listed, refers⟩
    exact OrderedMap.mem_keys_iff_contains.1 registered
  · intro index entries filled here
    refine ⟨_, Generation.rootNames_run here options, ?_⟩
    exact OrderedMap.mem_keys_iff_contains.1 (Generation.root_registered filled here)
  · intro record emitted field listed referred refers
    obtain ⟨name, stands⟩ := Generation.mem_registry_of_mem_orderedRecords emitted
    exact Generation.count_orderedRecords
      (Generation.registered_of_refersTo stands ⟨field, listed, refers⟩)

end YamlShape
