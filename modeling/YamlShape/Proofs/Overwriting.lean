/-
# YamlShape.Proofs.Overwriting -- visits that leave no trace

What a visit writes is fixed before it starts; the registry it writes to has no say in
it (`Walk.visit_eq`).  So a visit whose names are all written again later may be left
out, whatever stands in between.  Two cases of this:

* `visit_again_changes_nothing`: a value that is visited a second time.  On the way the
  second visit puts back records that the first one had overwritten, a parent under the
  name of its child, but it ends where the first one ended;
* `wrapper_leaves_no_trace`: a document with a single key that holds a mapping.  Root
  and mapping are both named after the key, the root is written first, and so nothing is
  left of it.

That the second holds for every mapping is not plain from the names alone, for records
within the mapping may have the name as well, and the last of them stands.  None of them
can be the root's again: the root's record holds its own name by value, and what a record
holds by value is written after it (`HeldLater`).
-/
import YamlShape.Proofs.Emission
import YamlShape.Proofs.ValueCycles

namespace YamlShape

set_option autoImplicit false

open Name (recordNameFor)
open Registry (SameLast)

/-! ## Visiting again -/

namespace Walk

/-- A visit to be made. -/
structure Visit where
  options : Options
  root : String
  path : List String
  node : Node

/-- The records that a visit writes. -/
def Visit.records (next : Visit) : List Record :=
  bodyWrites next.options (recordName next.root next.path) next.node

/-- Makes visits in turn, all of them to one registry. -/
def visitEach (registry : Registry) (visits : List Visit) : Registry :=
  visits.foldl
    (fun registry next => visit next.options next.root next.path registry next.node) registry

theorem visitEach_eq (registry : Registry) (visits : List Visit) :
    visitEach registry visits = registry.putAll (visits.flatMap Visit.records) :=
  foldl_eq_putEach visits
    (fun next _ registry => visit_eq next.options next.root next.path registry next.node) registry

/-- Records that are written at the end need not be written at the start. -/
theorem sameLast_around (records others : List Record) :
    SameLast (records ++ (others ++ records)) (others ++ records) := by
  apply Registry.sameLast_overwritten
  intro record written
  rw [List.map_append]
  exact List.mem_append_right _ (List.mem_map_of_mem written)

/-- **Visiting again changes nothing.**  A second visit leaves the registry as the first
one left it, with the same names in the same order and the same records.  If other
visits are made in between, of whatever values and under whatever options, then the
first visit may be left out: under every name the same record stands at the end. -/
theorem visit_again_changes_nothing (options : Options) (root : String) (path : List String)
    (registry : Registry) (node : Node) :
    visit options root path (visit options root path registry node) node =
      visit options root path registry node ∧
    ∀ (others : List Visit) (name : String),
      (visit options root path
        (visitEach (visit options root path registry node) others) node).get? name =
      (visit options root path (visitEach registry others) node).get? name := by
  constructor
  · rw [visit_eq, visit_eq]
    exact Registry.putAll_putAll _ _
  · intro others name
    have around := (sameLast_around (bodyWrites options (recordName root path) node)
      (others.flatMap Visit.records)).agree registry name
    simpa only [visit_eq, visitEach_eq, Registry.putAll_append] using around

end Walk

/-! ## Wrappers -/

/-- A document whose only key holds a mapping. -/
def Node.wrapper (key : String) (entries : Entries) : Node :=
  .mapping [(key, .mapping entries)]

/-- The record of a wrapper itself: its one field refers to the mapping that it holds. -/
def wrapperRecord (key : String) : Record where
  name := recordNameFor key
  fields := [{ sourceKey := key, type := .recordRef (recordNameFor key), omitEmpty := false }]

@[simp] theorem name_wrapperRecord (key : String) :
    (wrapperRecord key).name = recordNameFor key := by
  rw [wrapperRecord]

theorem holdsByValue_wrapperRecord (key : String) :
    (wrapperRecord key).HoldsByValue (recordNameFor key) :=
  ⟨_, List.mem_singleton_self _, rfl⟩

/-- No record that holds its own name by value is the last of its name. -/
theorem HeldLater.not_holdsByValue_self {records : List Record} (ordered : HeldLater records)
    {name : String} {record : Record}
    (stands : Registry.lastNamed name records = some record) : ¬ record.HoldsByValue name :=
  fun holds => Nat.lt_irrefl _ (writesAfter_lt_of_holdsByValue ordered stands holds)

namespace Walk

/-- A wrapper is named after its key, wherever it stands among the documents. -/
theorem rootName_wrapper (index total : Nat) (key : String) (entries : Entries) :
    rootName index total (.wrapper key entries) = recordNameFor key := rfl

/-- Of what a value writes, the record that stays under a name is not the wrapper's. -/
theorem lastNamed_ne_wrapperRecord (options : Options) (key : String) (node : Node)
    (name : String) :
    Registry.lastNamed name (writes options (recordNameFor key) node) ≠
      some (wrapperRecord key) := by
  intro stands
  obtain ⟨_, _, _, named, _⟩ := Registry.lastNamed_eq_some_iff.1 stands
  rw [name_wrapperRecord] at named
  subst named
  have ordered := heldLater_writes options (recordNameFor key) node
  exact ordered.not_holdsByValue_self stands (holdsByValue_wrapperRecord key)

section Wrapper

variable {options : Options} {key : String} {entries : Entries} (filled : entries ≠ [])

include filled

theorem fields_wrapper :
    fields options [] [(key, .mapping entries)] = (wrapperRecord key).fields := by
  have nonempty : entries.isEmpty = false := by simpa using filled
  have type : (Inference.typed options.optionality [] .field key (.mapping entries)).1 =
      .recordRef (recordNameFor key) := by
    rw [Inference.typed_fst_mapping, nonempty]
    exact if_neg Bool.false_ne_true
  simp only [fields, List.map_singleton, type, Node.isEmpty, nonempty, wrapperRecord]

/-- The record of the wrapper comes first, and then those of the mapping. -/
theorem writes_wrapper :
    writes options (recordNameFor key) (.wrapper key entries) =
      wrapperRecord key :: writes options (recordNameFor key) (.mapping entries) := by
  have elements : [(key, Node.mapping entries)].filter (·.2.isSequence) = [] := rfl
  have held : [(key, Node.mapping entries)].filter (·.2.isMapping) = [(key, .mapping entries)] :=
    rfl
  rw [Node.wrapper, writes_mapping options _ (List.cons_ne_nil _ _), elements, held,
    fields_wrapper filled, List.flatMap_nil, List.flatMap_singleton]
  rfl

theorem sameLast_wrapper :
    SameLast (writes options (recordNameFor key) (.wrapper key entries))
      (writes options (recordNameFor key) (.mapping entries)) := by
  rw [writes_wrapper filled, ← List.singleton_append]
  apply Registry.sameLast_overwritten
  intro record written
  rw [List.mem_singleton.1 written, name_wrapperRecord]
  exact name_mem_writes options _ filled

end Wrapper

/-- **A wrapper leaves no trace.**  Visiting a document with a single key that holds a
mapping, under the root name that it gets, ends with the same record under every name as
visiting the mapping under that key.  The wrapper's own record then stands nowhere but
where it stood before, and never under the key's name.  So the Go source of a run is what
the visit of the mapping registers, with the key's name as the only root. -/
theorem wrapper_leaves_no_trace (options : Options) (key : String) {entries : Entries}
    (filled : entries ≠ []) (root : String) (index total : Nat) (registry : Registry) :
    (∀ name,
      (visit options (rootName index total (.wrapper key entries)) [] registry
        (.wrapper key entries)).get? name =
      (visit options root [key] registry (.mapping entries)).get? name) ∧
    (∀ name,
      (visit options (rootName index total (.wrapper key entries)) [] registry
        (.wrapper key entries)).get? name = some (wrapperRecord key) →
      name ≠ recordNameFor key ∧ registry.get? name = some (wrapperRecord key)) ∧
    (Generation.run [.wrapper key entries] options).render =
      (visit options root [key] .empty (.mapping entries)).render [recordNameFor key]
        options.tagKey := by
  have direct : ∀ registry, visit options root [key] registry (.mapping entries) =
      registry.putAll (writes options (recordNameFor key) (.mapping entries)) :=
    fun registry => visit_eq options root [key] registry (.mapping entries)
  have wrapped : ∀ registry,
      (visit options (recordNameFor key) [] registry (.wrapper key entries)).Agree
        (visit options root [key] registry (.mapping entries)) := by
    intro registry
    rw [direct, visit_eq]
    exact (sameLast_wrapper filled).agree registry
  rw [rootName_wrapper]
  refine ⟨wrapped registry, ?_, ?_⟩
  · intro name stands
    rw [wrapped registry name, direct, Registry.get?_putAll] at stands
    cases last : Registry.lastNamed name
        (writes options (recordNameFor key) (.mapping entries)) with
    | some record =>
        rw [last, Option.some_or] at stands
        exact absurd (last.trans stands) (lastNamed_ne_wrapperRecord options key _ name)
    | none =>
        rw [last, Option.none_or] at stands
        refine ⟨?_, stands⟩
        rintro rfl
        exact Registry.lastNamed_eq_none_iff.1 last (name_mem_writes options _ filled)
  · exact (wrapped .empty).render_eq [recordNameFor key] options.tagKey

/-- The key has no name of its own, and neither do the elements of a list below it; a
second mapping spells the name that they all fall back to.  That mapping's record stays. -/
theorem nameless_wrapper_leaves_no_trace :
    let entries : Entries :=
      [("nested_struct", .mapping [("size", .scalar .integer "1")]),
        ("items", .sequence [.mapping [("open", .scalar .bool "true")]])]
    let innermost : Record := { name := "NestedStruct", fields :=
      [{ sourceKey := "size", type := .scalar "int", omitEmpty := false }] }
    entries ≠ [] ∧
      (visit {} (rootName 0 1 (.wrapper "_" entries)) [] .empty (.wrapper "_" entries)).get?
        "NestedStruct" = some innermost ∧
      (Generation.run [.wrapper "_" entries] {}).render =
        (visit {} "Document" ["_"] .empty (.mapping entries)).render ["NestedStruct"] "json" := by
  intro entries innermost
  have filled : entries ≠ [] := List.cons_ne_nil _ _
  have trace := wrapper_leaves_no_trace {} "_" filled "Document" 0 1 OrderedMap.empty
  have stands : (visit {} "Document" ["_"] .empty (.mapping entries)).get? "NestedStruct" =
      some innermost := by
    have written : bodyWrites {} (recordName "Document" ["_"]) (.mapping entries) =
        [{ name := "NestedStruct", fields := fields {} [] [("open", .scalar .bool "true")] },
          { name := recordNameFor "_", fields := fields {} [] entries },
          { name := recordNameFor "nested_struct",
            fields := fields {} [] [("size", .scalar .integer "1")] }] := by
      simp [entries, bodyWrites, Node.isMapping, Node.isSequence, writes_mapping,
        writes_sequence, Name.nestedFallback, recordName]
    rw [visit_eq, Registry.get?_putAll_empty, written]
    decide +kernel
  have named : recordNameFor "_" = "NestedStruct" := rfl
  refine ⟨filled, (trace.1 "NestedStruct").trans stands, ?_⟩
  rw [← named]
  exact trace.2.2

end Walk

end YamlShape
