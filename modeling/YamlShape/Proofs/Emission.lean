/-
# YamlShape.Proofs.Emission -- the order of emission is canonical

Emission lists every registered name once (`mem_emissionKeys`,
`nodup_emissionKeys`), and which order it takes depends only on what is
registered: registries that agree are emitted alike, however they were filled
(`Agree.emissionOrder_eq`, `Agree.render_eq`).  The sorted part is where this
could fail; two lists of the same names that are both sorted are equal because
the order of names is linear.

After a run the records go by the names that they are registered under, so that the
names in order of emission are those of the records (`map_name_orderedRecords`).

`emission_complete_and_canonical` puts this together with the order itself: roots in
the order of their first places, then all other names, strictly sorted by their bytes.
-/
import Mathlib.Data.List.Basic
import YamlShape.Proofs.Writes

namespace YamlShape

set_option autoImplicit false

namespace Registry

variable {registry left right : Registry} {roots : List String}

/-! ## Every name once -/

theorem mem_emissionKeys {name : String} :
    name ∈ registry.emissionKeys roots ↔ name ∈ registry.keys := by
  rw [emissionKeys, List.mem_append, List.mem_filter, List.mem_mergeSort, List.mem_filter,
    List.mem_eraseDups, ← OrderedMap.mem_keys_iff_contains]
  by_cases rooted : name ∈ roots <;> simp [rooted]

theorem nodup_emissionKeys (registry : Registry) (roots : List String) :
    (registry.emissionKeys roots).Nodup := by
  have others : (registry.keys.filter (· ∉ roots)).Nodup := registry.nodup_keys.filter _
  refine List.nodup_append.2 ⟨(nodup_eraseDups roots).filter _,
    (List.mergeSort_perm _ _).nodup_iff.2 others, ?_⟩
  rintro name first other second rfl
  have rooted := List.mem_eraseDups.1 (List.mem_filter.1 first).1
  have unrooted := (List.mem_filter.1 (List.mem_mergeSort.1 second)).2
  simp [rooted] at unrooted

/-- Every name in order of emission has a record. -/
theorem get?_of_mem_emissionKeys {name : String} (inside : name ∈ registry.emissionKeys roots) :
    ∃ record, registry.get? name = some record :=
  OrderedMap.mem_keys_iff.1 (mem_emissionKeys.1 inside)

/-- Emission passes over no name. -/
theorem map_some_emissionOrder (registry : Registry) (roots : List String) :
    (registry.emissionOrder roots).map some = (registry.emissionKeys roots).map registry.get? := by
  rw [emissionOrder, List.map_filterMap]
  refine List.filterMap_eq_map_iff_forall_eq_some.2 fun name inside => ?_
  obtain ⟨record, stands⟩ := get?_of_mem_emissionKeys inside
  rw [stands, Option.map_some]

/-- Where every record stands under its own name, emission lists the records by
these names. -/
theorem map_name_emissionOrder (named : ∀ {name record}, registry.get? name = some record →
    record.name = name) (roots : List String) :
    (registry.emissionOrder roots).map (·.name) = registry.emissionKeys roots := by
  have own : ∀ name ∈ registry.emissionKeys roots,
      (registry.get? name).map (·.name) = some name := by
    intro name inside
    obtain ⟨record, stands⟩ := get?_of_mem_emissionKeys inside
    rw [stands, Option.map_some, named stands]
  rw [emissionOrder, List.map_filterMap, List.filterMap_congr own, List.filterMap_some]

/-! ## Registries that agree -/

/-- The order of the names depends on nothing but which names there are. -/
theorem emissionKeys_eq_of_mem_keys (same : ∀ name, name ∈ left.keys ↔ name ∈ right.keys)
    (roots : List String) : left.emissionKeys roots = right.emissionKeys roots := by
  have permuted : left.keys.Perm right.keys :=
    (List.perm_ext_iff_of_nodup left.nodup_keys right.nodup_keys).2 same
  rw [emissionKeys, emissionKeys, OrderedMap.contains_eq_of_mem_keys same,
    Text.mergeSort_eq_of_perm (permuted.filter _)]

theorem Agree.emissionKeys_eq (agree : left.Agree right) (roots : List String) :
    left.emissionKeys roots = right.emissionKeys roots :=
  emissionKeys_eq_of_mem_keys (fun _ => agree.mem_keys) roots

theorem Agree.emissionOrder_eq (agree : left.Agree right) (roots : List String) :
    left.emissionOrder roots = right.emissionOrder roots := by
  have held : left.get? = right.get? := funext agree
  rw [emissionOrder, emissionOrder, agree.emissionKeys_eq, held]

theorem Agree.render_eq (agree : left.Agree right) (roots : List String) (tagKey : String) :
    left.render roots tagKey = right.render roots tagKey := by
  rw [render, render, Emitter.emit, Emitter.emit, agree.emissionOrder_eq]

/-! ## The order -/

/-- The sorted part is strictly sorted, for no name is in it twice. -/
theorem pairwise_bytes_lt (registry : Registry) (roots : List String) :
    ((registry.keys.filter (· ∉ roots)).mergeSort Text.byteOrder).Pairwise
      fun earlier later => Text.bytes earlier < Text.bytes later := by
  have sorted := List.pairwise_mergeSort Text.byteOrder_trans Text.byteOrder_total
    (registry.keys.filter (· ∉ roots))
  have distinct : ((registry.keys.filter (· ∉ roots)).mergeSort Text.byteOrder).Nodup :=
    (List.mergeSort_perm _ _).nodup_iff.2 (registry.nodup_keys.filter _)
  exact sorted.imp₂ (fun _ _ => Text.bytes_lt_of_byteOrder) distinct

end Registry

/-! ## After a run -/

namespace Generation

theorem map_name_orderedRecords (documents : List Node) (options : Options) :
    (run documents options).orderedRecords.map (·.name) =
      (run documents options).registry.emissionKeys (run documents options).rootNames :=
  Registry.map_name_emissionOrder name_of_get?_run _

theorem nodup_name_orderedRecords (documents : List Node) (options : Options) :
    ((run documents options).orderedRecords.map (·.name)).Nodup := by
  rw [map_name_orderedRecords]
  exact Registry.nodup_emissionKeys _ _

/-- Emission lists as many records as are registered. -/
theorem length_orderedRecords (generation : Generation) :
    generation.orderedRecords.length = generation.registry.size := by
  have listed := congrArg List.length
    (generation.registry.map_some_emissionOrder generation.rootNames)
  have permuted : (generation.registry.emissionKeys generation.rootNames).Perm
      generation.registry.keys :=
    (List.perm_ext_iff_of_nodup (Registry.nodup_emissionKeys _ _)
      generation.registry.nodup_keys).2 fun _ => Registry.mem_emissionKeys
  rw [List.length_map, List.length_map, permuted.length_eq] at listed
  rw [orderedRecords, listed, OrderedMap.keys, List.length_map, OrderedMap.size]

end Generation

/-- **Emission is complete and in canonical order.**  It lists the record of every
registered key once: first for the keys among the roots, in the order of their first
places there, then for all others, in strictly increasing order of their bytes.
Which records it lists, and the text that is rendered, depend only on what stands
under each key. -/
theorem emission_complete_and_canonical :
    (∀ (registry : Registry) (roots : List String), ∃ rooted others : List String,
      (registry.emissionOrder roots).map some = (rooted ++ others).map registry.get? ∧
      (rooted ++ others).Nodup ∧
      (∀ key, key ∈ rooted ↔ registry.contains key = true ∧ key ∈ roots) ∧
      (∀ key, key ∈ others ↔ registry.contains key = true ∧ key ∉ roots) ∧
      (rooted.Pairwise fun earlier later => roots.idxOf earlier < roots.idxOf later) ∧
      others.Pairwise fun earlier later => Text.bytes earlier < Text.bytes later) ∧
    ∀ left right : Registry, (∀ key, left.get? key = right.get? key) →
      ∀ roots, left.emissionOrder roots = right.emissionOrder roots ∧
        ∀ tagKey, left.render roots tagKey = right.render roots tagKey := by
  constructor
  · intro registry roots
    refine ⟨roots.eraseDups.filter registry.contains,
      (registry.keys.filter (· ∉ roots)).mergeSort Text.byteOrder,
      registry.map_some_emissionOrder roots, registry.nodup_emissionKeys roots, ?_, ?_,
      (pairwise_idxOf_eraseDups roots).filter _, registry.pairwise_bytes_lt roots⟩
    · intro key
      rw [List.mem_filter, List.mem_eraseDups, and_comm]
    · intro key
      rw [List.mem_mergeSort, List.mem_filter, OrderedMap.mem_keys_iff_contains,
        decide_eq_true_iff]
  · intro left right same roots
    have agree : left.Agree right := same
    exact ⟨agree.emissionOrder_eq roots, agree.render_eq roots⟩

/-- Two ways to fill a registry, one of them in another order and over a record that
does not stay. -/
theorem emission_of_refilled :
    let first : Record := { name := "First", fields := [] }
    let second : Record := { name := "Second", fields := [] }
    let left : Registry := OrderedMap.ofList [("é", first), ("z", second)]
    let right : Registry := OrderedMap.ofList [("z", first), ("é", first), ("z", second)]
    left.keys ≠ right.keys ∧ (∀ key, left.get? key = right.get? key) ∧
      left.emissionOrder ["a"] = right.emissionOrder ["a"] ∧
        ∀ tagKey, left.render ["a"] tagKey = right.render ["a"] tagKey := by
  intro first second left right
  have same : ∀ key, left.get? key = right.get? key := by
    intro key
    simp only [left, right, OrderedMap.ofList, List.foldl_cons, List.foldl_nil,
      OrderedMap.get?, OrderedMap.put, OrderedMap.lookup_putEntry]
    split <;> simp_all
  exact ⟨by decide, same, emission_complete_and_canonical.2 left right same ["a"]⟩

end YamlShape
