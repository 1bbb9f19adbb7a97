/-
# YamlShape.Proofs.Writes -- the records that a visit writes

What a visit writes does not depend on where it writes to: `writes` lists the
records of a value in order, and a visit is `putEach` of that list, for every
store (`visitNode_eq`, `visitAll_eq`).  So a registry after a run is the registry
of one list of records (`registryOf_eq`), and what is true of that list by
induction on the value is true of the run.

`writes` speaks of values alone.  Paths are gone: a type does not depend on the
path it is inferred under, and of the path of a mapping only the last key names
it.
-/
import YamlShape.Generation
import YamlShape.Proofs.Inference
import YamlShape.Proofs.Registry

namespace YamlShape

set_option autoImplicit false

open Name (recordNameFor nestedFallback)

/-! ## The records of a value -/

namespace Walk

theorem fields_path (options : Options) (path other : List String) (entries : Entries) :
    fields options path entries = fields options other entries := by
  simp only [fields, Inference.typed_fst_path path other]

theorem discoveries_cons (options : Options) (path : List String) (entry : String × Node)
    (rest : Entries) :
    discoveries options path (entry :: rest) =
      (Inference.typed options.optionality path .field entry.1 entry.2).2.toList
        ++ discoveries options path rest := by
  simp only [discoveries, List.filterMap_cons]
  cases (Inference.typed options.optionality path .field entry.1 entry.2).2 <;> rfl

theorem recordName_concat (root : String) (path : List String) (key : String) :
    recordName root (path ++ [key]) = recordNameFor key := by
  simp [recordName]

/-- The records that visiting a value writes, in the order of the writes; `name`
is that of the record of the value itself. -/
def writes (options : Options) (name : String) : Node → List Record
  | .scalar _ _ => []
  | .sequence [] => []
  | .sequence (first :: _) => writes options nestedFallback first
  | .mapping [] => []
  | .mapping (entry :: rest) =>
    (((entry :: rest).filter (·.2.isSequence)).attach.flatMap fun ⟨element, _⟩ =>
        writes options (recordNameFor element.1) element.2)
      ++ { name, fields := fields options [] (entry :: rest) } ::
        (((entry :: rest).filter (·.2.isMapping)).attach.flatMap fun ⟨held, _⟩ =>
          writes options (recordNameFor held.1) held.2)
  | .unknown _ => []
termination_by node => sizeOf node
decreasing_by
  · simp only [Node.sequence.sizeOf_spec, List.cons.sizeOf_spec]
    omega
  all_goals
    have := Node.sizeOf_value_lt (List.mem_filter.1 ‹_›).1
    simp only [Node.mapping.sizeOf_spec]
    omega

theorem writes_sequence (options : Options) (name : String) (first : Node) (rest : List Node) :
    writes options name (.sequence (first :: rest)) = writes options nestedFallback first := by
  rw [writes]

/-- The writes of a mapping: elements, the mapping itself, what its entries hold. -/
theorem writes_mapping (options : Options) (name : String) {entries : Entries}
    (filled : entries ≠ []) :
    writes options name (.mapping entries) =
      (entries.filter (·.2.isSequence)).flatMap
          (fun element => writes options (recordNameFor element.1) element.2)
        ++ { name, fields := fields options [] entries } ::
          (entries.filter (·.2.isMapping)).flatMap
            (fun held => writes options (recordNameFor held.1) held.2) := by
  cases entries with
  | nil => exact absurd rfl filled
  | cons entry rest =>
      rw [writes]
      simp only [List.flatMap_subtype, List.unattach_attach]

theorem writes_of_typed_none {options : Options} {path : List String} {slot : Slot}
    {key : String} {node : Node}
    (nowhere : (Inference.typed options.optionality path slot key node).2 = none)
    (name : String) : writes options name node = [] := by
  induction node using Node.induction generalizing slot key name with
  | scalar kind literal => rw [writes]
  | unknown tag => rw [writes]
  | sequence items ih =>
      cases items with
      | nil => rw [writes]
      | cons first rest =>
          rw [writes_sequence]
          exact ih first (by simp) nowhere _
  | mapping entries =>
      cases entries with
      | nil => rw [writes]
      | cons entry rest => simp [Inference.typed] at nowhere

/-! ## A visit writes these records -/

section Visits

variable {σ : Type} (put : σ → String → Record → σ) {options : Options} {root : String}
  {path : List String}

/-- Visiting what was found in one kind of place writes the records of the values
of the kind that leads there. -/
theorem foldl_found {slot : Slot} {kind : Node → Bool}
    (placed : ∀ {key node found},
      (Inference.typed options.optionality path .field key node).2 = some found →
        decide (found.slot = slot) = kind node)
    (entries : Entries)
    (visited : ∀ entry ∈ entries, ∀ found,
      (Inference.typed options.optionality path .field entry.1 entry.2).2 = some found →
        ∀ store, visitMapping put options root found.path found.entries store =
          putEach put store (writes options (recordNameFor entry.1) entry.2))
    (store : σ) :
    ((discoveries options path entries).filter (·.slot = slot)).foldl
        (fun store found => visitMapping put options root found.path found.entries store) store =
      putEach put store ((entries.filter (kind ·.2)).flatMap
        fun entry => writes options (recordNameFor entry.1) entry.2) := by
  induction entries generalizing store with
  | nil => rfl
  | cons entry rest ih =>
      have others := ih fun later inside => visited later (List.mem_cons_of_mem _ inside)
      cases leads : (Inference.typed options.optionality path .field entry.1 entry.2).2 with
      | none =>
          have silent := writes_of_typed_none leads (recordNameFor entry.1)
          rw [discoveries_cons, leads, Option.toList_none, List.nil_append, others]
          by_cases counted : kind entry.2 <;> simp [counted, silent]
      | some found =>
          rw [discoveries_cons, leads, Option.toList_some, List.singleton_append,
            List.filter_cons, List.filter_cons, placed leads]
          by_cases counted : kind entry.2
          · rw [if_pos counted, if_pos counted, List.foldl_cons, List.flatMap_cons,
              putEach_append, visited entry (by simp) found leads, others]
          · rw [if_neg counted, if_neg counted, others]

/-- A mapping is visited by writing its records, if what its values lead to is. -/
theorem visitMapping_of_visited {entries : Entries} (filled : entries ≠ [])
    (visited : ∀ entry ∈ entries, ∀ found,
      (Inference.typed options.optionality path .field entry.1 entry.2).2 = some found →
        ∀ store, visitMapping put options root found.path found.entries store =
          putEach put store (writes options (recordNameFor entry.1) entry.2))
    (store : σ) :
    visitMapping put options root path entries store =
      putEach put store (writes options (recordName root path) (.mapping entries)) := by
  have elements := foldl_found put
    (fun leads => (Inference.slot_of_field leads).1) entries visited store
  rw [visitMapping_eq, elements, foldl_found put (fun leads => (Inference.slot_of_field leads).2)
    entries visited, writes_mapping options _ filled, putEach_append, fields_path options path []]
  rfl

/-- A discovered mapping is visited by writing the records of the value that leads
to it. -/
theorem visitMapping_of_typed {slot : Slot} {key : String} {node : Node} {found : Discovery}
    (discovered : (Inference.typed options.optionality path slot key node).2 = some found)
    (store : σ) :
    visitMapping put options root found.path found.entries store =
      putEach put store (writes options (recordNameFor key) node) := by
  induction node using Node.induction generalizing path slot key found store with
  | scalar kind literal => simp [Inference.typed] at discovered
  | unknown tag => simp [Inference.typed] at discovered
  | sequence items ih =>
      cases items with
      | nil => simp [Inference.typed] at discovered
      | cons first rest =>
          rw [writes_sequence]
          exact ih first (by simp) discovered store
  | mapping entries ih =>
      cases entries with
      | nil => simp [Inference.typed] at discovered
      | cons entry rest =>
          obtain rfl := Option.some.inj discovered
          rw [visitMapping_of_visited put (by simp) (fun held inside _ leads => ih held inside leads),
            recordName_concat]

theorem visitMapping_eq_putEach {entries : Entries} (filled : entries ≠ []) (store : σ) :
    visitMapping put options root path entries store =
      putEach put store (writes options (recordName root path) (.mapping entries)) :=
  visitMapping_of_visited put filled
    (fun _ _ _ discovered => visitMapping_of_typed put discovered) store

end Visits

/-- The records that visiting a value writes; what is no mapping is not visited. -/
def bodyWrites (options : Options) (name : String) (node : Node) : List Record :=
  if node.isMapping then writes options name node else []

/-- **A visit writes the records of the value, in order, and does nothing else
to the store.** -/
theorem visitNode_eq {σ : Type} (put : σ → String → Record → σ) (options : Options)
    (root : String) (path : List String) (store : σ) (node : Node) :
    visitNode put options root path store node =
      putEach put store (bodyWrites options (recordName root path) node) := by
  match node with
  | .mapping (entry :: rest) => exact visitMapping_eq_putEach put (List.cons_ne_nil _ _) store
  | .mapping [] =>
      rw [bodyWrites, writes]
      rfl
  | .scalar _ _ => rfl
  | .sequence _ => rfl
  | .unknown _ => rfl

theorem visit_eq (options : Options) (root : String) (path : List String) (registry : Registry)
    (node : Node) :
    visit options root path registry node =
      registry.putAll (bodyWrites options (recordName root path) node) :=
  visitNode_eq OrderedMap.put options root path registry node

/-! ## Records in a list of writes -/

theorem writes_of_leaf (options : Options) (name : String) {node : Node}
    (plain : node.isSequence = false) (leaf : node.isMapping = false) :
    writes options name node = [] := by
  cases node with
  | scalar => rw [writes]
  | sequence => cases plain
  | mapping => cases leaf
  | unknown => rw [writes]

/-- A record of a mapping is its own, or one of an entry's value. -/
theorem mem_writes_mapping {options : Options} {name : String} {entries : Entries}
    (filled : entries ≠ []) {record : Record} :
    record ∈ writes options name (.mapping entries) ↔
      record = { name, fields := fields options [] entries } ∨
        ∃ entry ∈ entries, record ∈ writes options (recordNameFor entry.1) entry.2 := by
  rw [writes_mapping options name filled]
  simp only [List.mem_append, List.mem_cons, List.mem_flatMap, List.mem_filter]
  constructor
  · rintro (⟨entry, ⟨inside, -⟩, written⟩ | own | ⟨entry, ⟨inside, -⟩, written⟩)
    · exact .inr ⟨entry, inside, written⟩
    · exact .inl own
    · exact .inr ⟨entry, inside, written⟩
  · rintro (own | ⟨entry, inside, written⟩)
    · exact .inr (.inl own)
    · cases sequence : entry.2.isSequence with
      | true => exact .inl ⟨entry, ⟨inside, sequence⟩, written⟩
      | false =>
          cases mapping : entry.2.isMapping with
          | true => exact .inr (.inr ⟨entry, ⟨inside, mapping⟩, written⟩)
          | false => simp [writes_of_leaf options _ sequence mapping] at written

/-- Every record has the fields of a filled mapping. -/
theorem fields_of_mem_writes {options : Options} {name : String} {node : Node} {record : Record}
    (written : record ∈ writes options name node) :
    ∃ entries, entries ≠ [] ∧ record.fields = fields options [] entries := by
  induction node using Node.induction generalizing name with
  | scalar => rw [writes] at written; cases written
  | unknown => rw [writes] at written; cases written
  | sequence items ih =>
      cases items with
      | nil => rw [writes] at written; cases written
      | cons first rest =>
          rw [writes_sequence] at written
          exact ih first List.mem_cons_self written
  | mapping entries ih =>
      by_cases empty : entries = []
      · rw [empty, writes] at written
        cases written
      · rcases (mem_writes_mapping empty).1 written with rfl | ⟨entry, member, below⟩
        · exact ⟨entries, empty, rfl⟩
        · exact ih entry member below

/-- A filled mapping has a record of its own. -/
theorem own_mem_writes (options : Options) (name : String) {entries : Entries}
    (filled : entries ≠ []) :
    { name, fields := fields options [] entries } ∈ writes options name (.mapping entries) :=
  (mem_writes_mapping filled).2 (.inl rfl)

/-- A filled mapping is written under its name. -/
theorem name_mem_writes (options : Options) (name : String) {entries : Entries}
    (filled : entries ≠ []) :
    name ∈ (writes options name (.mapping entries)).map (·.name) :=
  List.mem_map_of_mem (own_mem_writes options name filled)

end Walk

/-! ## Runs -/

namespace Generation

/-- The records that a run writes, document after document. -/
def writes (options : Options) (documents : List Node) : List Record :=
  (documents.zip (rootNamesOf documents)).flatMap fun (body, root) =>
    Walk.bodyWrites options root body

theorem visitAll_eq {σ : Type} (put : σ → String → Record → σ) (options : Options)
    (documents : List Node) (store : σ) :
    visitAll put options documents store = putEach put store (writes options documents) :=
  foldl_eq_putEach _
    (fun (body, root) _ store => Walk.visitNode_eq put options root [] store body) store

theorem registryOf_eq (options : Options) (documents : List Node) :
    registryOf options documents = Registry.putAll .empty (writes options documents) :=
  visitAll_eq OrderedMap.put options documents .empty

/-- Under every name stands the last record that the run wrote with it. -/
theorem get?_run (documents : List Node) (options : Options) (name : String) :
    (run documents options).registry.get? name =
      Registry.lastNamed name (writes options documents) := by
  rw [run, registryOf_eq, Registry.get?_putAll_empty]

theorem keys_run (documents : List Node) (options : Options) :
    (run documents options).registry.keys =
      ((writes options documents).map (·.name)).eraseDups := by
  rw [run, registryOf_eq, Registry.keys_putAll_empty]

theorem mem_keys_run {documents : List Node} {options : Options} {name : String} :
    name ∈ (run documents options).registry.keys ↔
      name ∈ (writes options documents).map (·.name) := by
  rw [keys_run, List.mem_eraseDups]

/-- Every record stands under its own name. -/
theorem name_of_get?_run {documents : List Node} {options : Options} {name : String}
    {record : Record} (stands : (run documents options).registry.get? name = some record) :
    record.name = name := by
  rw [get?_run] at stands
  obtain ⟨_, _, _, named, _⟩ := Registry.lastNamed_eq_some_iff.1 stands
  exact named

/-- What is registered was written. -/
theorem mem_writes_of_get?_run {documents : List Node} {options : Options} {name : String}
    {record : Record} (stands : (run documents options).registry.get? name = some record) :
    record ∈ writes options documents := by
  rw [get?_run] at stands
  exact (List.mem_filter.1 (List.mem_of_getLast? stands)).1

/-- Every registered record has the fields of a filled mapping. -/
theorem fields_of_get?_run {documents : List Node} {options : Options} {name : String}
    {record : Record} (stands : (run documents options).registry.get? name = some record) :
    ∃ entries, entries ≠ [] ∧ record.fields = Walk.fields options [] entries := by
  obtain ⟨⟨body, root⟩, _, among⟩ := List.mem_flatMap.1 (mem_writes_of_get?_run stands)
  simp only [Walk.bodyWrites] at among
  split at among
  · exact Walk.fields_of_mem_writes among
  · cases among

theorem rootNames_run {documents : List Node} {index : Nat} {body : Node}
    (here : documents[index]? = some body) (options : Options) :
    (run documents options).rootNames[index]? =
      some (Walk.rootName index documents.length body) := by
  rw [run, rootNamesOf, List.getElem?_mapIdx, here]
  rfl

/-- What is written for a document's body is written under the document's root
name. -/
theorem bodyWrites_subset_writes {documents : List Node} {index : Nat} {body : Node}
    (here : documents[index]? = some body) (options : Options) :
    Walk.bodyWrites options (Walk.rootName index documents.length body) body ⊆
      writes options documents := by
  intro record written
  refine List.mem_flatMap.2 ⟨(body, _), ?_, written⟩
  exact List.mem_of_getElem? (List.getElem?_zip_eq_some.2 ⟨here, rootNames_run here options⟩)

end Generation

end YamlShape
