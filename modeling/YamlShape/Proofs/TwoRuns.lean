/-
# YamlShape.Proofs.TwoRuns -- two runs side by side

Two runs that differ in their options, or in what their documents hold, often write
records in step: as many, and each related to its counterpart.  A relation between
records carries over

* from the entries of two mappings to the mappings (`forall₂_writes_mapping`),
* from the bodies of two lists of documents to the runs (`forall₂_writes`; `rel_writes`
  where records are not in step); under two options the same documents are written in
  step, mapping by mapping (`forall₂_writes_options`),
* from the writes of two runs to what the runs leave and emit, if related records have
  one name (`keys_run_eq`, `rel_get?_run`, `forall₂_orderedRecords`).
-/
import Mathlib.Data.List.Forall2
import YamlShape.Proofs.Emission

namespace YamlShape

set_option autoImplicit false

open Name (recordNameFor)
open List (Forall₂)

variable {related : Record → Record → Prop} {options other : Options}

/-! ## Writes in step -/

/-- What holds of every item and its image holds of the two lists side by side. -/
theorem forall_mem_zip_map {α β : Type} {related : α × β → Prop} {image : α → β} {items : List α}
    (each : ∀ item ∈ items, related (item, image item)) :
    ∀ pair ∈ items.zip (items.map image), related pair := by
  have paired : (items.map id).zip (items.map image) = items.map fun item => (item, image item) :=
    List.zip_map'
  rw [List.map_id] at paired
  rw [paired]
  exact List.forall_mem_map.2 each

/-- Lists of one length are both empty, or what holds of them side by side holds of their
first items. -/
theorem zip_cases {α β : Type} {related : α × β → Prop} {left : List α} {right : List β}
    (length : left.length = right.length) (pairs : ∀ pair ∈ left.zip right, related pair) :
    left = [] ∧ right = [] ∨ ∃ first rest second others,
      left = first :: rest ∧ right = second :: others ∧ related (first, second) := by
  cases left with
  | nil => exact .inl ⟨rfl, List.length_eq_zero_iff.1 length.symm⟩
  | cons first rest =>
      cases right with
      | nil => cases length
      | cons second others =>
          exact .inr ⟨first, rest, second, others, rfl, rfl, pairs _ List.mem_cons_self⟩

/-- Entries side by side whose keys, seen in one way, are the same. -/
theorem Walk.forall₂_entries {κ : Type} {view : String × Node → κ}
    {related : String × Node → String × Node → Prop} {left right : Entries}
    (keys : left.map view = right.map view)
    (values : ∀ pair ∈ left.zip right, related pair.1 pair.2) :
    Forall₂ (fun first second => view first = view second ∧ related first second) left right := by
  induction left generalizing right with
  | nil =>
      obtain rfl := List.map_eq_nil_iff.1 keys.symm
      exact .nil
  | cons entry rest ih =>
      cases right with
      | nil => cases keys
      | cons counterpart others =>
          obtain ⟨key, more⟩ := List.cons.inj keys
          rw [List.zip_cons_cons] at values
          obtain ⟨first, later⟩ := List.forall_mem_cons.1 values
          exact .cons ⟨key, first⟩ (ih more later)

/-- Two mappings are written in step if their entries are, and go to the same part of
a visit. -/
theorem Walk.forall₂_writes_mapping {name label : String} {left right : Entries}
    (entries : Forall₂ (fun first second =>
      first.2.isSequence = second.2.isSequence ∧ first.2.isMapping = second.2.isMapping ∧
        Forall₂ related (writes options (recordNameFor first.1) first.2)
          (writes other (recordNameFor second.1) second.2)) left right)
    (own : related { name, fields := fields options [] left }
      { name := label, fields := fields other [] right }) :
    Forall₂ related (writes options name (.mapping left)) (writes other label (.mapping right)) := by
  by_cases empty : left = []
  · subst empty
    obtain rfl := List.forall₂_nil_left_iff.1 entries
    rw [writes, writes]
    exact .nil
  have filled : right ≠ [] := by
    rintro rfl
    exact empty (List.forall₂_nil_right_iff.1 entries)
  rw [writes_mapping options name empty, writes_mapping other label filled]
  -- the order of a visit: elements, the mapping's own record, the mappings it holds
  refine List.rel_append ?_ (.cons own ?_)
  · have elements := List.rel_filter (fun _ _ pair => Bool.eq_iff_iff.1 pair.1) entries
    exact List.rel_flatMap elements fun _ _ pair => pair.2.2
  · have held := List.rel_filter (fun _ _ pair => Bool.eq_iff_iff.1 pair.2.1) entries
    exact List.rel_flatMap held fun _ _ pair => pair.2.2

/-- Bodies are written in step if both are mappings, or neither is. -/
theorem Walk.forall₂_bodyWrites {left right : Node} {root : String}
    (kind : left.isMapping = right.isMapping)
    (written : Forall₂ related (writes options root left) (writes other root right)) :
    Forall₂ related (bodyWrites options root left) (bodyWrites other root right) := by
  rw [bodyWrites, bodyWrites, kind]
  split
  · exact written
  · exact .nil

/-- Of a mapping the root name sees the keys alone. -/
theorem Walk.rootName_of_keys {left right : Entries} (keys : left.map Prod.fst = right.map Prod.fst)
    (index total : Nat) :
    rootName index total (.mapping left) = rootName index total (.mapping right) := by
  match left, right, keys with
  | [], [], _ => rfl
  | [(key, first)], [(_, second)], same =>
      obtain rfl := (List.cons.inj same).1
      rfl
  | _ :: _ :: _, _ :: _ :: _, _ => rfl

/-- Documents that would be named alike at every place have the same root names. -/
theorem Generation.rootNamesOf_eq {left right : List Node}
    (bodies : Forall₂ (fun first second => ∀ index total,
      Walk.rootName index total first = Walk.rootName index total second) left right) :
    rootNamesOf left = rootNamesOf right := by
  rw [rootNamesOf, rootNamesOf, bodies.length_eq]
  refine List.ext_getElem (by simpa using bodies.length_eq) fun index inLeft inRight => ?_
  rw [List.getElem_mapIdx, List.getElem_mapIdx]
  exact bodies.get _ _ index right.length

/-- A relation between lists of records that goes with `++` carries over from the
bodies of the documents to the runs. -/
theorem Generation.rel_writes (relates : List Record → List Record → Prop)
    (nil : relates [] [])
    (append : ∀ {first second third fourth}, relates first second → relates third fourth →
      relates (first ++ third) (second ++ fourth))
    {left right : List Node} (roots : rootNamesOf left = rootNamesOf right)
    (bodies : Forall₂ (fun first second => ∀ root,
      relates (Walk.bodyWrites options root first) (Walk.bodyWrites other root second))
      left right) :
    relates (writes options left) (writes other right) := by
  rw [writes, writes, roots]
  generalize rootNamesOf right = names
  clear roots
  induction bodies generalizing names with
  | nil => exact nil
  | cons pair _ ih =>
      cases names with
      | nil => exact nil
      | cons root rest => exact append (pair root) (ih rest)

/-- Two lists of documents are written in step if their bodies are, under every root
name. -/
theorem Generation.forall₂_writes {left right : List Node}
    (roots : rootNamesOf left = rootNamesOf right)
    (bodies : Forall₂ (fun first second => ∀ root,
      Forall₂ related (Walk.bodyWrites options root first) (Walk.bodyWrites other root second))
      left right) :
    Forall₂ related (writes options left) (writes other right) :=
  rel_writes (Forall₂ related) .nil (fun earlier later => List.rel_append earlier later) roots bodies

/-! ## Two options, one list of documents -/

/-- Two records are what one mapping becomes under two options. -/
structure OfOneMapping (options other : Options) (left right : Record) : Prop where
  name : left.name = right.name
  fields : ∃ entries : Entries,
    left.fields = Walk.fields options [] entries ∧ right.fields = Walk.fields other [] entries

/-- No option has a say in which mappings are written, or under which names. -/
theorem Walk.forall₂_writes_options (options other : Options) (name : String) (node : Node) :
    Forall₂ (OfOneMapping options other) (writes options name node) (writes other name node) := by
  induction node using Node.induction generalizing name with
  | scalar => rw [writes, writes]; exact .nil
  | unknown => rw [writes, writes]; exact .nil
  | sequence items ih =>
      cases items with
      | nil => rw [writes, writes]; exact .nil
      | cons first rest =>
          rw [writes_sequence, writes_sequence]
          exact ih first List.mem_cons_self _
  | mapping entries ih =>
      refine forall₂_writes_mapping (List.forall₂_same.2 fun entry inside => ?_) ?_
      · exact ⟨rfl, rfl, ih entry inside _⟩
      · exact ⟨rfl, entries, rfl, rfl⟩

theorem Generation.forall₂_writes_options (options other : Options) (documents : List Node) :
    Forall₂ (OfOneMapping options other) (writes options documents) (writes other documents) := by
  refine forall₂_writes rfl (List.forall₂_same.2 fun body _ root => ?_)
  exact Walk.forall₂_bodyWrites rfl (Walk.forall₂_writes_options options other root body)

/-! ## What writes in step leave -/

/-- Related records have one name. -/
def KeepsNames (related : Record → Record → Prop) : Prop :=
  ∀ left right, related left right → left.name = right.name

theorem keepsNames_ofOneMapping (options other : Options) :
    KeepsNames (OfOneMapping options other) :=
  fun _ _ pair => pair.name

theorem rel_imp {α β : Type} {stronger weaker : α → β → Prop}
    (weakens : ∀ x y, stronger x y → weaker x y) {left : Option α} {right : Option β}
    (pair : Option.Rel stronger left right) : Option.Rel weaker left right := by
  cases pair with
  | none => exact .none
  | some same => exact .some (weakens _ _ same)

theorem map_eq_of_rel {α β γ : Type} {paired : α → β → Prop} {view : α → γ} {image : β → γ}
    (agrees : ∀ x y, paired x y → view x = image y) {left : Option α} {right : Option β}
    (pair : Option.Rel paired left right) : left.map view = right.map image := by
  cases pair with
  | none => rfl
  | some same => rw [Option.map_some, Option.map_some, agrees _ _ same]

theorem rel_getLast? {left right : List Record} (step : Forall₂ related left right) :
    Option.Rel related left.getLast? right.getLast? := by
  have backwards := List.rel_reverse step
  rw [List.getLast?_eq_head?_reverse, List.getLast?_eq_head?_reverse]
  generalize left.reverse = first, right.reverse = second at backwards
  cases backwards with
  | nil => exact .none
  | cons pair _ => exact .some pair

theorem Registry.rel_lastNamed {left right : List Record} (step : Forall₂ related left right)
    (named : KeepsNames related) (name : String) :
    Option.Rel related (lastNamed name left) (lastNamed name right) := by
  refine rel_getLast? (List.rel_filter (fun left right pair => ?_) step)
  simp only [named left right pair]

theorem map_name_eq {left right : List Record} (step : Forall₂ related left right)
    (named : KeepsNames related) : left.map (·.name) = right.map (·.name) := by
  induction step with
  | nil => rfl
  | cons pair _ ih => rw [List.map_cons, List.map_cons, named _ _ pair, ih]

namespace Generation

variable {left right : List Node}
  (step : Forall₂ related (writes options left) (writes other right))
  (named : KeepsNames related)

include step named

theorem keys_run_eq : (run left options).registry.keys = (run right other).registry.keys := by
  rw [keys_run, keys_run, map_name_eq step named]

theorem rel_get?_run (name : String) :
    Option.Rel related ((run left options).registry.get? name)
      ((run right other).registry.get? name) := by
  rw [get?_run, get?_run]
  exact Registry.rel_lastNamed step named name

/-- Two such runs emit in step. -/
theorem forall₂_orderedRecords (roots : rootNamesOf left = rootNamesOf right) :
    Forall₂ related (run left options).orderedRecords (run right other).orderedRecords := by
  have registered : ∀ name, name ∈ (run left options).registry.keys ↔
      name ∈ (run right other).registry.keys := by
    intro name
    rw [keys_run_eq step named]
  have emitted : (run left options).registry.emissionKeys (run left options).rootNames =
      (run right other).registry.emissionKeys (run right other).rootNames := by
    rw [Registry.emissionKeys_eq_of_mem_keys registered, run, run, roots]
  rw [orderedRecords, orderedRecords, Registry.emissionOrder, Registry.emissionOrder, emitted]
  generalize (run right other).registry.emissionKeys (run right other).rootNames = names
  have aligned : Forall₂ Eq names names := List.forall₂_refl names
  refine List.rel_filterMap ?_ aligned
  rintro name _ rfl
  exact rel_get?_run step named name

end Generation

end YamlShape
