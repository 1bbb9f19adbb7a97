/-
# YamlShape.Proofs.Reordering -- the order of keys does not name the records

Whoever permutes the entries of a mapping reorders everything that its visit writes,
and with it which of two colliding records stands and where a name comes first.  So
neither what a registry holds nor the order of its names is kept.  What is kept is the
set of its names (`Reordered.sameNames`), and for the order of emission that is enough:
it depends on the roots and on which names there are, and on nothing else.
-/
import YamlShape.Proofs.TwoRuns
import YamlShape.Proofs.Views

namespace YamlShape

set_option autoImplicit false

open Name (recordNameFor nestedFallback)
open List (Forall₂)

/-! ## Values with their entries permuted -/

/-- The entries of mappings at any depth are permuted; the items of sequences keep
their places. -/
inductive Node.Reordered : Node → Node → Prop where
  | scalar (kind : ScalarKind) (literal : String) :
      Reordered (.scalar kind literal) (.scalar kind literal)
  | sequence {left right : List Node} (length : left.length = right.length)
      (items : ∀ pair ∈ left.zip right, Reordered pair.1 pair.2) :
      Reordered (.sequence left) (.sequence right)
  | mapping {left middle right : Entries} (order : left.Perm middle)
      (keys : middle.map Prod.fst = right.map Prod.fst)
      (values : ∀ pair ∈ middle.zip right, Reordered pair.1.2 pair.2.2) :
      Reordered (.mapping left) (.mapping right)
  | unknown (tag : String) : Reordered (.unknown tag) (.unknown tag)

theorem forall_mem_zip_self {α : Type} {related : α × α → Prop} {items : List α}
    (each : ∀ item ∈ items, related (item, item)) : ∀ pair ∈ items.zip items, related pair := by
  have paired : ∀ pair ∈ items.zip (items.map id), related pair := forall_mem_zip_map each
  rwa [List.map_id] at paired

theorem Node.Reordered.refl (node : Node) : node.Reordered node := by
  induction node using Node.induction with
  | scalar kind literal => exact .scalar kind literal
  | unknown tag => exact .unknown tag
  | sequence items ih => exact .sequence rfl (forall_mem_zip_self ih)
  | mapping entries ih => exact .mapping (.refl _) rfl (forall_mem_zip_self ih)

theorem Node.Reordered.of_perm {left right : Entries} (order : left.Perm right) :
    (Node.mapping left).Reordered (.mapping right) :=
  .mapping order rfl (forall_mem_zip_self fun entry _ => .refl entry.2)

/-- Two lists of records have the same names, in any order and number. -/
def SameNames (left right : List Record) : Prop :=
  ∀ name, name ∈ left.map (·.name) ↔ name ∈ right.map (·.name)

theorem SameNames.refl (records : List Record) : SameNames records records := fun _ => Iff.rfl

theorem SameNames.append {first second third fourth : List Record}
    (earlier : SameNames first second) (later : SameNames third fourth) :
    SameNames (first ++ third) (second ++ fourth) := by
  intro name
  rw [List.map_append, List.map_append, List.mem_append, List.mem_append]
  exact or_congr (earlier name) (later name)

/-! ## The names that a visit writes -/

theorem exists_mem_iff_of_forall₂ {α : Type} {here there : α → Prop} {left right : List α}
    (pairs : Forall₂ (fun first second => here first ↔ there second) left right) :
    (∃ item ∈ left, here item) ↔ ∃ item ∈ right, there item := by
  induction pairs with
  | nil => simp
  | cons pair _ ih =>
      rw [List.exists_mem_cons_iff, List.exists_mem_cons_iff]
      exact or_congr pair ih

/-- The names below a mapping are its own and those below its entries, whatever their
order. -/
theorem Walk.mem_names_mapping {options : Options} {name other : String} {entries : Entries}
    (filled : entries ≠ []) :
    other ∈ (writes options name (.mapping entries)).map (·.name) ↔
      other = name ∨ ∃ entry ∈ entries,
        other ∈ (writes options (recordNameFor entry.1) entry.2).map (·.name) := by
  simp only [List.mem_map, mem_writes_mapping filled]
  constructor
  · rintro ⟨record, rfl | ⟨entry, inside, below⟩, rfl⟩
    · exact .inl rfl
    · exact .inr ⟨entry, inside, record, below, rfl⟩
  · rintro (rfl | ⟨entry, inside, record, below, rfl⟩)
    · exact ⟨_, .inl rfl, rfl⟩
    · exact ⟨record, .inr ⟨entry, inside, below⟩, rfl⟩

namespace Node.Reordered

variable {left right : Node}

/-- **Permuted entries write the same names.** -/
theorem sameNames (reordered : left.Reordered right) (options : Options) (name : String) :
    SameNames (Walk.writes options name left) (Walk.writes options name right) := by
  induction reordered generalizing name with
  | scalar kind literal => exact .refl _
  | unknown tag => exact .refl _
  | @sequence left right length items ih =>
      rcases zip_cases length ih with ⟨rfl, rfl⟩ | ⟨first, _, second, _, rfl, rfl, below⟩
      · exact .refl _
      · rw [Walk.writes_sequence, Walk.writes_sequence]
        exact below nestedFallback
  | @mapping left middle right order keys values ih =>
      by_cases empty : left = []
      · subst empty
        obtain rfl := List.nil_perm.1 order
        obtain rfl := List.map_eq_nil_iff.1 keys.symm
        exact .refl _
      have filled : right ≠ [] := by
        rintro rfl
        rw [List.map_nil, List.map_eq_nil_iff] at keys
        exact empty (List.perm_nil.1 (keys ▸ order))
      intro other
      rw [Walk.mem_names_mapping empty, Walk.mem_names_mapping filled]
      refine or_congr_right ?_
      have pairs : Forall₂ (fun first second => first.1 = second.1 ∧ ∀ name,
          SameNames (Walk.writes options name first.2) (Walk.writes options name second.2))
          middle right := Walk.forall₂_entries keys ih
      simp only [order.mem_iff]
      refine exists_mem_iff_of_forall₂ (pairs.imp fun first second pair => ?_)
      obtain ⟨key, below⟩ := pair
      rw [key]
      exact below _ other

theorem isMapping_eq (reordered : left.Reordered right) : left.isMapping = right.isMapping := by
  cases reordered <;> rfl

theorem sameNames_body (reordered : left.Reordered right) (options : Options) (root : String) :
    SameNames (Walk.bodyWrites options root left) (Walk.bodyWrites options root right) := by
  rw [Walk.bodyWrites, Walk.bodyWrites, reordered.isMapping_eq]
  split
  · exact reordered.sameNames options root
  · exact .refl []

/-- A mapping that has one key keeps it. -/
theorem rootName_eq (reordered : left.Reordered right) (index total : Nat) :
    Walk.rootName index total left = Walk.rootName index total right := by
  cases reordered with
  | scalar kind literal => rfl
  | unknown tag => rfl
  | sequence length items => rfl
  | @mapping left middle right order keys values =>
      rw [← Walk.rootName_of_keys keys]
      match left, middle, order.length_eq with
      | [], [], _ => rfl
      | [entry], [other], _ =>
          obtain rfl := List.singleton_perm_singleton.1 order
          rfl
      | _ :: _ :: _, _ :: _ :: _, _ => rfl

end Node.Reordered

/-! ## Runs -/

/-- **The order of keys changes neither which blocks are emitted nor their order.**  If
the documents of one run are those of another with the entries of mappings permuted, at
any depth, then both have the same root names and the same names in order of emission,
and their JSON views have the same roots and the same keys, also where the records
under these keys differ. -/
theorem run_names_of_reordered {left right : List Node} (options : Options)
    (reordered : Forall₂ Node.Reordered left right) :
    (Generation.run left options).rootNames = (Generation.run right options).rootNames ∧
    (Generation.run left options).orderedRecords.map (·.name) =
      (Generation.run right options).orderedRecords.map (·.name) ∧
    ∃ roots leftRecords rightRecords,
      (Generation.run left options).schema =
        .object [("roots", roots), ("records", .object leftRecords)] ∧
      (Generation.run right options).schema =
        .object [("roots", roots), ("records", .object rightRecords)] ∧
      leftRecords.map Prod.fst = rightRecords.map Prod.fst := by
  have roots : (Generation.run left options).rootNames = (Generation.run right options).rootNames :=
    Generation.rootNamesOf_eq (reordered.imp fun _ _ pair => pair.rootName_eq)
  have written : SameNames (Generation.writes options left) (Generation.writes options right) :=
    Generation.rel_writes SameNames (.refl []) SameNames.append roots
      (reordered.imp fun _ _ pair => pair.sameNames_body options)
  have registered : ∀ name, name ∈ (Generation.run left options).registry.keys ↔
      name ∈ (Generation.run right options).registry.keys := by
    intro name
    rw [Generation.mem_keys_run, Generation.mem_keys_run]
    exact written name
  have names : (Generation.run left options).orderedRecords.map (·.name) =
      (Generation.run right options).orderedRecords.map (·.name) := by
    rw [Generation.map_name_orderedRecords, Generation.map_name_orderedRecords, roots,
      Registry.emissionKeys_eq_of_mem_keys registered]
  have present : (Generation.run left options).presentRoots =
      (Generation.run right options).presentRoots := by
    rw [Generation.presentRoots, Generation.presentRoots, roots,
      OrderedMap.contains_eq_of_mem_keys registered]
  have keys : ((Generation.run left options).orderedRecords.map fun record =>
        (record.name, record.toJson)).map Prod.fst =
      ((Generation.run right options).orderedRecords.map fun record =>
        (record.name, record.toJson)).map Prod.fst := by
    rw [List.map_map, List.map_map]
    exact names
  refine ⟨roots, names, _, _, _, Generation.schema_run left options, ?_, keys⟩
  rw [present]
  exact Generation.schema_run right options

/-- Two mappings collide under one key.  Which of them stands depends on the order of
the keys above them, and so does the order of its own fields. -/
theorem run_names_of_swapped_collision :
    let note : String × Node := ("b", .mapping [("meta", .mapping [("z", .null)])])
    let left : List Node := [.mapping
      [("a", .mapping [("meta", .mapping [("x", .scalar .integer "1"), ("y", .null)])]), note]]
    let right : List Node := [.mapping
      [note, ("a", .mapping [("meta", .mapping [("y", .null), ("x", .scalar .integer "1")])])]]
    Forall₂ Node.Reordered left right ∧
      (Generation.run left {}).registry.get? "Meta" ≠
        (Generation.run right {}).registry.get? "Meta" ∧
      (Generation.run left {}).rootNames = (Generation.run right {}).rootNames ∧
      (Generation.run left {}).orderedRecords.map (·.name) =
        (Generation.run right {}).orderedRecords.map (·.name) ∧
      ∃ roots leftRecords rightRecords,
        (Generation.run left {}).schema =
          .object [("roots", roots), ("records", .object leftRecords)] ∧
        (Generation.run right {}).schema =
          .object [("roots", roots), ("records", .object rightRecords)] ∧
        leftRecords.map Prod.fst = rightRecords.map Prod.fst := by
  intro note left right
  have reordered : Forall₂ Node.Reordered left right := by
    refine .cons (.mapping (.swap _ _ []) rfl ?_) .nil
    simp only [List.zip_cons_cons, List.zip_nil_right, List.forall_mem_cons]
    refine ⟨.refl _, .mapping (.refl _) rfl ?_, by simp⟩
    simp only [List.zip_cons_cons, List.zip_nil_right, List.forall_mem_cons]
    exact ⟨.of_perm (.swap _ _ []), by simp⟩
  have differ : (Generation.run left {}).registry.get? "Meta" ≠
      (Generation.run right {}).registry.get? "Meta" := by
    decide +kernel
  exact ⟨reordered, differ, run_names_of_reordered {} reordered⟩

end YamlShape
