/-
# YamlShape.Proofs.Skeleton -- what a run sees of its documents

Much of a document leaves no trace in the records: the literal of a scalar but for
its being empty, the tag of a value that is known by nothing else, every item of a
sequence but the first.  `Node.Alike` relates the values that differ in such things
only.  It depends on the slot: of a scalar that is held by a field a run sees whether
it is empty, of one that is reached through a sequence not even that.

`run_eq_of_alike` says that documents that are alike, place by place, have the same
run.  A run reads a value in four ways, and each of them is blind to the difference:
its type (`Alike.typed_fst_eq`), its kind (`Alike.kind_eq`), its emptiness
(`Alike.isEmpty_eq`), and the records below it (`Alike.writes_eq`).
-/
import YamlShape.Proofs.TwoRuns

namespace YamlShape

set_option autoImplicit false

open Name (recordNameFor)
open List (Forall₂)

/-! ## Values that a run cannot tell apart -/

namespace Node

/-- A value that says nothing about its type: null, or one that is only known by its
tag. -/
inductive Untyped : Node → Prop where
  | null (literal : String) : Untyped (.scalar .null literal)
  | unknown (tag : String) : Untyped (.unknown tag)

/-- Two values in the same kind of place have the same sampled skeleton. -/
inductive Alike (policy : Emptiness) : Slot → Node → Node → Prop where
  | scalar {slot : Slot} {kind : ScalarKind} {left right : String} (typed : kind ≠ .null)
      (empty : slot = .field →
        (Node.scalar kind left).isEmpty policy = (Node.scalar kind right).isEmpty policy) :
      Alike policy slot (.scalar kind left) (.scalar kind right)
  | untyped {slot : Slot} {left right : Node} (first : left.Untyped) (second : right.Untyped) :
      Alike policy slot left right
  | noItems {slot : Slot} : Alike policy slot (.sequence []) (.sequence [])
  | items {slot : Slot} {left right : Node} {moreLeft moreRight : List Node}
      (first : Alike policy .element left right) :
      Alike policy slot (.sequence (left :: moreLeft)) (.sequence (right :: moreRight))
  | mapping {slot : Slot} {left right : Entries} (keys : left.map Prod.fst = right.map Prod.fst)
      (values : ∀ pair ∈ left.zip right, Alike policy .field pair.1.2 pair.2.2) :
      Alike policy slot (.mapping left) (.mapping right)

/-- A mapping that has entries. -/
def Filled (node : Node) : Prop :=
  ∃ entries, entries ≠ [] ∧ node = .mapping entries

/-- Two documents have alike mappings as their bodies, or neither has a filled one. -/
inductive AlikeBodies (policy : Emptiness) : Node → Node → Prop where
  | mappings {left right : Entries} (alike : Alike policy .field (.mapping left) (.mapping right)) :
      AlikeBodies policy (.mapping left) (.mapping right)
  | others {left right : Node} (first : ¬ left.Filled) (second : ¬ right.Filled) :
      AlikeBodies policy left right

/-! ## What a run reads of a value -/

namespace Alike

variable {policy : Emptiness} {slot : Slot} {left right : Node}

theorem kind_eq (alike : Alike policy slot left right) :
    left.isSequence = right.isSequence ∧ left.isMapping = right.isMapping := by
  cases alike with
  | untyped first second => cases first <;> cases second <;> exact ⟨rfl, rfl⟩
  | _ => exact ⟨rfl, rfl⟩

theorem typed_fst_eq (alike : Alike policy slot left right) (optionality : Optionality)
    (path : List String) (key : String) :
    (Inference.typed optionality path slot key left).1 =
      (Inference.typed optionality path slot key right).1 := by
  induction alike generalizing key with
  | scalar => rfl
  | untyped first second => cases first <;> cases second <;> rfl
  | noItems => rfl
  | items first ih =>
      rw [Inference.typed, Inference.typed]
      exact congrArg TypeExpr.slice (ih "")
  | @mapping slot left right keys values =>
      have hollow := congrArg List.isEmpty keys
      rw [List.isEmpty_map, List.isEmpty_map] at hollow
      rw [Inference.typed_fst_mapping, Inference.typed_fst_mapping, hollow]

theorem isEmpty_eq (alike : Alike policy .field left right) :
    left.isEmpty policy = right.isEmpty policy := by
  cases alike with
  | scalar typed empty => exact empty rfl
  | untyped first second => cases first <;> cases second <;> rfl
  | noItems => rfl
  | items first => rfl
  | mapping keys values =>
      have hollow := congrArg List.isEmpty keys
      rwa [List.isEmpty_map, List.isEmpty_map] at hollow

theorem fields_eq {options : Options} {left right : Entries}
    (pairs : Forall₂ (fun first second => first.1 = second.1 ∧
      Alike options.emptiness .field first.2 second.2) left right) :
    Walk.fields options [] left = Walk.fields options [] right := by
  have step : Forall₂ Eq (Walk.fields options [] left) (Walk.fields options [] right) := by
    refine List.rel_map (fun first second pair => ?_) pairs
    obtain ⟨key, alike⟩ := pair
    simp only [key, alike.typed_fst_eq, alike.isEmpty_eq]
  rwa [List.forall₂_eq_eq_eq] at step

/-- **Alike values are written alike.**  The induction follows the relation, for the
records below an entry are those of its value. -/
theorem writes_eq {options : Options} (alike : Alike options.emptiness slot left right)
    (name : String) : Walk.writes options name left = Walk.writes options name right := by
  induction alike generalizing name with
  | scalar => rw [Walk.writes, Walk.writes]
  | untyped first second => cases first <;> cases second <;> rw [Walk.writes, Walk.writes]
  | noItems => rfl
  | items first ih =>
      rw [Walk.writes_sequence, Walk.writes_sequence]
      exact ih _
  | @mapping slot left right keys values ih =>
      have fields := fields_eq (Walk.forall₂_entries keys values)
      have pairs : Forall₂ (fun first second => first.1 = second.1 ∧
          Alike options.emptiness .field first.2 second.2 ∧ ∀ name,
            Walk.writes options name first.2 = Walk.writes options name second.2) left right :=
        Walk.forall₂_entries keys fun pair inside => ⟨values pair inside, ih pair inside⟩
      rw [← List.forall₂_eq_eq_eq (α := Record)]
      refine Walk.forall₂_writes_mapping (pairs.imp fun first second pair => ?_) (by rw [fields])
      obtain ⟨key, alike, written⟩ := pair
      rw [List.forall₂_eq_eq_eq, key]
      exact ⟨alike.kind_eq.1, alike.kind_eq.2, written _⟩

end Alike

/-! ## What a run reads of a document -/

theorem rootName_of_not_filled {node : Node} (hollow : ¬ node.Filled) (index total : Nat) :
    Walk.rootName index total node =
      if total = 1 then Walk.documentRoot else Walk.documentRoot ++ toString (index + 1) := by
  match node with
  | .mapping [] => rfl
  | .mapping (entry :: rest) => exact absurd ⟨entry :: rest, List.cons_ne_nil _ _, rfl⟩ hollow
  | .scalar _ _ => rfl
  | .sequence _ => rfl
  | .unknown _ => rfl

theorem bodyWrites_of_not_filled {node : Node} (hollow : ¬ node.Filled) (options : Options)
    (root : String) : Walk.bodyWrites options root node = [] := by
  match node with
  | .mapping [] =>
      rw [Walk.bodyWrites, Walk.writes]
      rfl
  | .mapping (entry :: rest) => exact absurd ⟨entry :: rest, List.cons_ne_nil _ _, rfl⟩ hollow
  | .scalar _ _ => rfl
  | .sequence _ => rfl
  | .unknown _ => rfl

namespace AlikeBodies

variable {policy : Emptiness} {left right : Node}

theorem rootName_eq (alike : AlikeBodies policy left right) (index total : Nat) :
    Walk.rootName index total left = Walk.rootName index total right := by
  cases alike with
  | others first second =>
      rw [rootName_of_not_filled first, rootName_of_not_filled second]
  | mappings alike =>
      cases alike with
      | untyped first second => cases first
      | mapping keys values => exact Walk.rootName_of_keys keys index total

theorem bodyWrites_eq {options : Options} (alike : AlikeBodies options.emptiness left right)
    (root : String) :
    Walk.bodyWrites options root left = Walk.bodyWrites options root right := by
  cases alike with
  | others first second =>
      rw [bodyWrites_of_not_filled first, bodyWrites_of_not_filled second]
  | mappings alike => exact alike.writes_eq root

end AlikeBodies

end Node

/-- **Only the sampled skeleton of the documents matters.**  Documents that are alike,
place by place, have the same run: the same root names, the same registry with the
same order of names, the same text and the same JSON view. -/
theorem run_eq_of_alike {options : Options} {left right : List Node}
    (alike : Forall₂ (Node.AlikeBodies options.emptiness) left right) :
    (Generation.run left options).rootNames = (Generation.run right options).rootNames ∧
    (Generation.run left options).registry = (Generation.run right options).registry ∧
    (Generation.run left options).render = (Generation.run right options).render ∧
    (Generation.run left options).schema = (Generation.run right options).schema := by
  have roots : Generation.rootNamesOf left = Generation.rootNamesOf right :=
    Generation.rootNamesOf_eq (alike.imp fun _ _ bodies => bodies.rootName_eq)
  have written : Generation.writes options left = Generation.writes options right := by
    rw [← List.forall₂_eq_eq_eq (α := Record)]
    refine Generation.forall₂_writes roots (alike.imp fun _ _ bodies root => ?_)
    rw [List.forall₂_eq_eq_eq, bodies.bodyWrites_eq root]
  have same : Generation.run left options = Generation.run right options := by
    rw [Generation.run, Generation.run, Generation.registryOf_eq, Generation.registryOf_eq,
      written, roots]
  rw [same]
  exact ⟨rfl, rfl, rfl, rfl⟩

/-- Documents of different literals, tags, later items and bodies that are no mappings. -/
theorem run_eq_of_alike_bodies :
    let left : List Node :=
      [.mapping [("user", .mapping [("name", .scalar .string "ann")]),
          ("tags", .sequence [.scalar .string "", .mapping [("user", .scalar .bool "true")]]),
          ("note", .scalar .null "~")],
        .scalar .string "text"]
    let right : List Node :=
      [.mapping [("user", .mapping [("name", .scalar .string "bob")]),
          ("tags", .sequence [.scalar .string "x"]), ("note", .unknown "!secret")],
        .sequence [.mapping [("a", .scalar .integer "1")]]]
    Forall₂ (Node.AlikeBodies .canonical) left right ∧
      (Generation.run left {}).rootNames = (Generation.run right {}).rootNames ∧
      (Generation.run left {}).registry = (Generation.run right {}).registry ∧
      (Generation.run left {}).render = (Generation.run right {}).render ∧
      (Generation.run left {}).schema = (Generation.run right {}).schema := by
  intro left right
  have alike : Forall₂ (Node.AlikeBodies .canonical) left right := by
    refine .cons (.mappings (.mapping rfl ?_)) (.cons (.others ?_ ?_) .nil)
    · simp only [List.zip_cons_cons, List.zip_nil_right, List.forall_mem_cons]
      refine ⟨.mapping rfl ?_, .items (.scalar (by decide) (by simp)),
        .untyped (.null _) (.unknown _), by simp⟩
      simp only [List.zip_cons_cons, List.zip_nil_right, List.forall_mem_cons]
      exact ⟨.scalar (by decide) (fun _ => rfl), by simp⟩
    · rintro ⟨entries, _, mapping⟩
      cases mapping
    · rintro ⟨entries, _, mapping⟩
      cases mapping
  exact ⟨alike, run_eq_of_alike alike⟩

end YamlShape
