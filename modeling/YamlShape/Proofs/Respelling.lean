/-
# YamlShape.Proofs.Respelling -- without tags, a key is its identifier

Where tags are off, a key reaches the output as an identifier only.  Keys that have the
same identifier are then spellings of one key, and documents that differ in the spelling
of their keys (`Node.Respelled`) give the same text (`untagged_run_of_respelled`).

A key takes four routes through a run: it names the record of the mapping below it, and
the type that refers to this record; as the only key of a document it names the root;
and it is the identifier of a field.  On each of them it is normalized before anything
else is asked of it (`typed_fst_eq`, `forall₂_writes`, `rootName_eq`, `goLine_eq`).
What is left of its spelling is the source key of a field, which only a tag shows.
-/
import YamlShape.Proofs.Blocks
import YamlShape.Proofs.Identifiers
import YamlShape.Proofs.TwoRuns

namespace YamlShape

set_option autoImplicit false

open Name (recordNameFor normalize_normalize)
open List (Forall₂)

theorem Name.recordNameFor_congr {key other : String}
    (same : normalize key = normalize other) :
    recordNameFor key = recordNameFor other := by
  rw [recordNameFor, recordNameFor, same]

/-! ## Values with their keys spelled in another way -/

namespace Node

/-- The keys of mappings at any depth have the same identifiers; all else is equal. -/
inductive Respelled : Node → Node → Prop where
  | scalar (kind : ScalarKind) (literal : String) :
      Respelled (.scalar kind literal) (.scalar kind literal)
  | sequence {left right : List Node} (length : left.length = right.length)
      (items : ∀ pair ∈ left.zip right, Respelled pair.1 pair.2) :
      Respelled (.sequence left) (.sequence right)
  | mapping {left right : Entries}
      (keys : left.map (fun entry => Name.normalize entry.1) =
        right.map fun entry => Name.normalize entry.1)
      (values : ∀ pair ∈ left.zip right, Respelled pair.1.2 pair.2.2) :
      Respelled (.mapping left) (.mapping right)
  | unknown (tag : String) : Respelled (.unknown tag) (.unknown tag)

/-- The value with every key at every depth replaced. -/
def mapKeys (spell : String → String) : Node → Node
  | .scalar kind literal => .scalar kind literal
  | .sequence items => .sequence (items.attach.map fun ⟨item, _⟩ => mapKeys spell item)
  | .mapping entries =>
    .mapping (entries.attach.map fun ⟨entry, _⟩ => (spell entry.1, mapKeys spell entry.2))
  | .unknown tag => .unknown tag
termination_by node => sizeOf node
decreasing_by
  · have := List.sizeOf_lt_of_mem ‹item ∈ items›
    simp only [Node.sequence.sizeOf_spec]
    omega
  · have := sizeOf_value_lt ‹entry ∈ entries›
    simp only [Node.mapping.sizeOf_spec]
    omega

theorem mapKeys_sequence (spell : String → String) (items : List Node) :
    mapKeys spell (.sequence items) = .sequence (items.map (mapKeys spell)) := by
  rw [mapKeys]
  simp only [List.map_subtype, List.unattach_attach]

theorem mapKeys_mapping (spell : String → String) (entries : Entries) :
    mapKeys spell (.mapping entries) =
      .mapping (entries.map fun entry => (spell entry.1, mapKeys spell entry.2)) := by
  rw [mapKeys]
  simp only [List.map_subtype, List.unattach_attach]

/-- Keys may be replaced by others with the same identifiers. -/
theorem respelled_mapKeys {spell : String → String}
    (kept : ∀ key, Name.normalize (spell key) = Name.normalize key) (node : Node) :
    node.Respelled (mapKeys spell node) := by
  induction node using Node.induction with
  | scalar kind literal =>
      rw [mapKeys]
      exact .scalar kind literal
  | unknown tag =>
      rw [mapKeys]
      exact .unknown tag
  | sequence items ih =>
      rw [mapKeys_sequence]
      exact .sequence (by rw [List.length_map]) (forall_mem_zip_map ih)
  | mapping entries ih =>
      rw [mapKeys_mapping]
      refine .mapping ?_ ?_
      · rw [List.map_map]
        exact List.map_congr_left fun entry _ => (kept entry.1).symm
      · exact forall_mem_zip_map ih

namespace Respelled

variable {left right : Node}

theorem kind_eq (respelled : left.Respelled right) :
    left.isSequence = right.isSequence ∧ left.isMapping = right.isMapping := by
  cases respelled <;> exact ⟨rfl, rfl⟩

theorem isEmpty_eq (respelled : left.Respelled right) (policy : Emptiness) :
    left.isEmpty policy = right.isEmpty policy := by
  cases respelled with
  | scalar kind literal => rfl
  | unknown tag => rfl
  | sequence length items =>
      rw [isEmpty, isEmpty, Bool.eq_iff_iff, List.isEmpty_iff_length_eq_zero,
        List.isEmpty_iff_length_eq_zero, length]
  | mapping keys values =>
      have hollow := congrArg List.isEmpty keys
      rwa [List.isEmpty_map, List.isEmpty_map] at hollow

theorem typed_fst_eq (respelled : left.Respelled right) {key other : String}
    (same : Name.normalize key = Name.normalize other) (optionality : Optionality)
    (path : List String) (slot : Slot) :
    (Inference.typed optionality path slot key left).1 =
      (Inference.typed optionality path slot other right).1 := by
  induction respelled generalizing key other slot with
  | scalar kind literal => rfl
  | unknown tag => rfl
  | @sequence left right length items ih =>
      rcases zip_cases length ih with ⟨rfl, rfl⟩ | ⟨first, _, second, _, rfl, rfl, below⟩
      · rfl
      · rw [Inference.typed, Inference.typed]
        exact congrArg TypeExpr.slice (below rfl .element)
  | @mapping left right keys values =>
      have hollow := congrArg List.isEmpty keys
      rw [List.isEmpty_map, List.isEmpty_map] at hollow
      rw [Inference.typed_fst_mapping, Inference.typed_fst_mapping, hollow,
        Name.recordNameFor_congr same]

end Respelled

end Node

/-! ## Records with their keys spelled in another way -/

/-- Two fields differ in nothing but the spelling of their keys. -/
structure Field.Respelled (left right : Field) : Prop where
  identifier : Name.normalize left.sourceKey = Name.normalize right.sourceKey
  type : left.type = right.type
  omitEmpty : left.omitEmpty = right.omitEmpty
  flags : left.flags = right.flags

/-- Two records differ in nothing but the spelling of their fields' keys. -/
structure Record.Respelled (left right : Record) : Prop where
  name : left.name = right.name
  fields : Forall₂ Field.Respelled left.fields right.fields

theorem keepsNames_respelled : KeepsNames Record.Respelled :=
  fun _ _ respelled => respelled.name

/-- Without a tag a field's line shows the key as its identifier. -/
theorem Field.Respelled.goLine_eq {left right : Field} (respelled : left.Respelled right) :
    left.goLine "" = right.goLine "" := by
  rw [Field.goLine, Field.goLine, Field.line, Field.line, respelled.identifier, respelled.type]
  rfl

theorem Record.Respelled.goBlock_eq {left right : Record} (respelled : left.Respelled right) :
    left.goBlock "" = right.goBlock "" := by
  have lines : Forall₂ Eq (left.fields.map (·.goLine "")) (right.fields.map (·.goLine "")) :=
    List.rel_map (fun _ _ pair => pair.goLine_eq) respelled.fields
  rw [List.forall₂_eq_eq_eq] at lines
  rw [Record.goBlock_eq, Record.goBlock_eq, respelled.name, lines]

/-! ## Runs -/

namespace Node.Respelled

variable {left right : Node}

theorem forall₂_fields (options : Options) {left right : Entries}
    (pairs : Forall₂ (fun first second => Name.normalize first.1 = Name.normalize second.1 ∧
      Respelled first.2 second.2) left right) :
    Forall₂ Field.Respelled (Walk.fields options [] left) (Walk.fields options [] right) := by
  refine List.rel_map (fun first second pair => ?_) pairs
  obtain ⟨same, below⟩ := pair
  exact ⟨same, below.typed_fst_eq same _ _ _, below.isEmpty_eq _, rfl⟩

/-- **Respelled values are written in step.**  The induction follows the relation; the
key above a value names its record, and has its identifier in both. -/
theorem forall₂_writes (respelled : left.Respelled right) (options : Options) (name : String) :
    Forall₂ Record.Respelled (Walk.writes options name left) (Walk.writes options name right) := by
  induction respelled generalizing name with
  | scalar kind literal =>
      rw [Walk.writes]
      exact .nil
  | unknown tag =>
      rw [Walk.writes]
      exact .nil
  | @sequence left right length items ih =>
      rcases zip_cases length ih with ⟨rfl, rfl⟩ | ⟨first, _, second, _, rfl, rfl, below⟩
      · rw [Walk.writes]
        exact .nil
      · rw [Walk.writes_sequence, Walk.writes_sequence]
        exact below _
  | @mapping left right keys values ih =>
      have pairs : Forall₂ (fun first second => Name.normalize first.1 = Name.normalize second.1 ∧
          Respelled first.2 second.2 ∧ ∀ name, Forall₂ Record.Respelled
            (Walk.writes options name first.2) (Walk.writes options name second.2)) left right :=
        Walk.forall₂_entries keys fun pair inside => ⟨values pair inside, ih pair inside⟩
      have fields := forall₂_fields options (Walk.forall₂_entries keys values)
      refine Walk.forall₂_writes_mapping (pairs.imp fun first second pair => ?_) ⟨rfl, fields⟩
      obtain ⟨same, below, written⟩ := pair
      rw [Name.recordNameFor_congr same]
      exact ⟨below.kind_eq.1, below.kind_eq.2, written _⟩

/-- The only key of a document names its root by its identifier. -/
theorem rootName_eq (respelled : left.Respelled right) (index total : Nat) :
    Walk.rootName index total left = Walk.rootName index total right := by
  cases respelled with
  | scalar kind literal => rfl
  | unknown tag => rfl
  | sequence length items => rfl
  | @mapping left right keys values =>
      have length : left.length = right.length := by
        simpa only [List.length_map] using congrArg List.length keys
      match left, right, length, keys with
      | [], [], _, _ => rfl
      | [_], [_], _, same =>
          rw [Walk.rootName, Walk.rootName]
          exact Name.recordNameFor_congr (List.cons.inj same).1
      | _ :: _ :: _, _ :: _ :: _, _, _ => rfl

end Node.Respelled

section Runs

variable (options : Options) {left right : List Node}

theorem Generation.rootNamesOf_respelled (respelled : Forall₂ Node.Respelled left right) :
    rootNamesOf left = rootNamesOf right :=
  rootNamesOf_eq (respelled.imp fun _ _ pair => pair.rootName_eq)

theorem Generation.forall₂_writes_respelled (respelled : Forall₂ Node.Respelled left right) :
    Forall₂ Record.Respelled (writes options left) (writes options right) :=
  forall₂_writes (rootNamesOf_respelled respelled)
    (respelled.imp fun _ _ pair root =>
      Walk.forall₂_bodyWrites pair.kind_eq.2 (pair.forall₂_writes options root))

theorem Generation.render_respelled {options : Options} (untagged : options.tagKey = "")
    (respelled : Forall₂ Node.Respelled left right) :
    (run left options).render = (run right options).render := by
  have emitted := forall₂_orderedRecords (forall₂_writes_respelled options respelled)
    keepsNames_respelled (rootNamesOf_respelled respelled)
  have blocks : Forall₂ Eq ((run left options).orderedRecords.map (·.goBlock ""))
      ((run right options).orderedRecords.map (·.goBlock "")) :=
    List.rel_map (fun _ _ pair => pair.goBlock_eq) emitted
  rw [List.forall₂_eq_eq_eq] at blocks
  have tagKeys : (run left options).options.tagKey = "" ∧ (run right options).options.tagKey = "" :=
    ⟨untagged, untagged⟩
  rw [render_eq, render_eq, tagKeys.1, tagKeys.2, blocks]

end Runs

/-- **Without tags, a key matters only through its identifier.**  If the documents of two
runs differ in the spelling of keys that have the same identifiers, and tags are off,
then both give the same text, and register the same names in the same order; the records
under a name differ in the source keys of their fields and in nothing else.  So each key
may be replaced by its identifier beforehand. -/
theorem untagged_run_of_respelled {options : Options} (untagged : options.tagKey = "")
    {left right : List Node} (respelled : Forall₂ Node.Respelled left right) :
    (Generation.run left options).render = (Generation.run right options).render ∧
    (Generation.run left options).registry.keys = (Generation.run right options).registry.keys ∧
    (∀ name, Option.Rel Record.Respelled ((Generation.run left options).registry.get? name)
      ((Generation.run right options).registry.get? name)) ∧
    (Generation.run (left.map (Node.mapKeys Name.normalize)) options).render =
      (Generation.run left options).render := by
  have written := Generation.forall₂_writes_respelled options respelled
  have renamed : Forall₂ Node.Respelled left (left.map (Node.mapKeys Name.normalize)) := by
    rw [List.forall₂_map_right_iff]
    exact List.forall₂_same.2 fun body _ => Node.respelled_mapKeys normalize_normalize body
  exact ⟨Generation.render_respelled untagged respelled,
    Generation.keys_run_eq written keepsNames_respelled,
    Generation.rel_get?_run written keepsNames_respelled,
    (Generation.render_respelled untagged renamed).symm⟩

/-- Keys of every kind in two spellings: the only key of a document, keys of fields, a key
below a sequence, and one of separators alone. -/
theorem untagged_run_of_two_spellings :
    let left : List Node := [.mapping [("user_data", .mapping
      [("e-mail", .scalar .string ""), ("_", .null),
        ("ports", .sequence [.mapping [("\u00DFx", .scalar .integer "1")]])])]]
    let right : List Node := [.mapping [("UserData", .mapping
      [("E__mail", .scalar .string ""), ("--", .null),
        ("Ports", .sequence [.mapping [("SSx", .scalar .integer "1")]])])]]
    let options : Options := { tagKey := "" }
    Forall₂ Node.Respelled left right ∧
      (Generation.run left options).render = (Generation.run right options).render ∧
      (Generation.run left options).registry.keys =
        (Generation.run right options).registry.keys ∧
      (∀ name, Option.Rel Record.Respelled ((Generation.run left options).registry.get? name)
        ((Generation.run right options).registry.get? name)) ∧
      (Generation.run (left.map (Node.mapKeys Name.normalize)) options).render =
        (Generation.run left options).render := by
  intro left right options
  have respelled : Forall₂ Node.Respelled left right := by
    refine .cons (.mapping (by decide +kernel) ?_) .nil
    simp only [List.zip_cons_cons, List.zip_nil_right, List.forall_mem_singleton]
    refine .mapping (by decide +kernel) ?_
    simp only [List.zip_cons_cons, List.zip_nil_right, List.forall_mem_cons]
    refine ⟨.scalar _ _, .scalar _ _, .sequence rfl ?_, by simp⟩
    simp only [List.zip_cons_cons, List.zip_nil_right, List.forall_mem_singleton]
    refine .mapping (by decide +kernel) ?_
    simp only [List.zip_cons_cons, List.zip_nil_right, List.forall_mem_singleton]
    exact .scalar _ _
  exact ⟨respelled, untagged_run_of_respelled rfl respelled⟩

end YamlShape
