/-
# YamlShape.Proofs.EagerWalk -- visiting once is enough

There is a simpler rule for the order of visits, which needs no discoveries: type
the entries of a mapping one by one and visit what a value leads to as soon as it
is typed; write the mapping's record; visit once more the mappings that its
entries hold directly.  `Eager.visit` is that rule.  It visits a mapping below
`n` others up to `2 ^ n` times.

`visit_refines_eager` says that `Walk.visit`, which visits every mapping once,
ends with the same records.  Why the first of the two visits may be left out: its
writes all come again in the second, and a write that comes again leaves no trace
(`Registry.sameLast_overwritten`).
-/
import YamlShape.Proofs.Emission
import YamlShape.Proofs.Writes

namespace YamlShape.Walk.Eager

set_option autoImplicit false

open Name (recordNameFor nestedFallback)
open Registry (SameLast)

/-! ## The eager visit -/

section Visit

variable {σ : Type} (put : σ → String → Record → σ) (options : Options) (root : String)

mutual

/-- Types the value under a key, and visits the mapping that it leads to on the
way. -/
def typeValue (path : List String) (slot : Slot) (key : String) : Node → σ → TypeExpr × σ
  | .scalar kind _, store => (Inference.scalarType options.optionality slot kind, store)
  | .sequence [], store => (.slice .any, store)
  | .sequence (first :: _), store =>
    let (element, store) := typeValue path .element "" first store
    (.slice element, store)
  | .mapping [], store => (.genericMap, store)
  | .mapping (entry :: rest), store =>
    (.recordRef (recordNameFor key), visitMapping (path ++ [key]) (entry :: rest) store)
  | .unknown _, store => (.any, store)
termination_by node => (sizeOf node, 0)

/-- Types the entries of a mapping in source order. -/
def typeEntries (path : List String) : Entries → σ → List Field × σ
  | [], store => ([], store)
  | (key, value) :: rest, store =>
    let (type, store) := typeValue path .field key value store
    let (fields, store) := typeEntries path rest store
    ({ sourceKey := key, type, omitEmpty := value.isEmpty options.emptiness } :: fields, store)
termination_by entries => (sizeOf entries, 0)

/-- Visits the filled mappings that entries hold directly, in source order. -/
def visitHeld (path : List String) : Entries → σ → σ
  | [], store => store
  | (key, .mapping (entry :: inner)) :: rest, store =>
    visitHeld path rest (visitMapping (path ++ [key]) (entry :: inner) store)
  | _ :: rest, store => visitHeld path rest store
termination_by entries => (sizeOf entries, 0)

/-- Visits the mapping at the end of a path. -/
def visitMapping (path : List String) (entries : Entries) (store : σ) : σ :=
  let (fields, store) := typeEntries path entries store
  let name := recordName root path
  visitHeld path entries (put store name { name, fields })
termination_by (sizeOf entries, 1)

end

end Visit

/-- Visits a value under a path eagerly and registers its records. -/
def visit (options : Options) (root : String) (path : List String) (registry : Registry) :
    Node → Registry
  | .mapping (entry :: rest) =>
    visitMapping OrderedMap.put options root path (entry :: rest) registry
  | _ => registry

/-! ## What it writes -/

/-- The records that visiting a value eagerly writes, in the order of the writes. -/
def writes (options : Options) (name : String) : Node → List Record
  | .scalar _ _ => []
  | .sequence [] => []
  | .sequence (first :: _) => writes options nestedFallback first
  | .mapping [] => []
  | .mapping (entry :: rest) =>
    ((entry :: rest).attach.flatMap fun ⟨found, _⟩ =>
        writes options (recordNameFor found.1) found.2)
      ++ { name, fields := fields options [] (entry :: rest) } ::
        (((entry :: rest).filter (·.2.isMapping)).attach.flatMap fun ⟨held, _⟩ =>
          writes options (recordNameFor held.1) held.2)
  | .unknown _ => []
termination_by node => sizeOf node
decreasing_by
  · simp only [Node.sequence.sizeOf_spec, List.cons.sizeOf_spec]
    omega
  · have := Node.sizeOf_value_lt ‹found ∈ entry :: rest›
    simp only [Node.mapping.sizeOf_spec]
    omega
  · have := Node.sizeOf_value_lt (List.mem_filter.1 ‹_›).1
    simp only [Node.mapping.sizeOf_spec]
    omega

theorem writes_mapping (options : Options) (name : String) {entries : Entries}
    (filled : entries ≠ []) :
    writes options name (.mapping entries) =
      entries.flatMap (fun found => writes options (recordNameFor found.1) found.2)
        ++ { name, fields := fields options [] entries } ::
          (entries.filter (·.2.isMapping)).flatMap
            (fun held => writes options (recordNameFor held.1) held.2) := by
  cases entries with
  | nil => exact absurd rfl filled
  | cons entry rest =>
      rw [writes]
      simp only [List.flatMap_subtype, List.unattach_attach]

theorem writes_of_leaf (options : Options) (name : String) {node : Node}
    (plain : node.isSequence = false) (leaf : node.isMapping = false) :
    writes options name node = [] := by
  cases node with
  | scalar => rw [writes]
  | sequence => cases plain
  | mapping => cases leaf
  | unknown => rw [writes]

section Visit

variable {σ : Type} (put : σ → String → Record → σ) {options : Options} {root : String}

/-- A value is typed as ever, while its records are written. -/
def Faithful (options : Options) (root : String) (node : Node) : Prop :=
  ∀ path slot key store, typeValue put options root path slot key node store =
    ((Inference.typed options.optionality path slot key node).1,
      putEach put store (writes options (recordNameFor key) node))

variable {put}

theorem typeEntries_eq (path : List String) (entries : Entries)
    (each : ∀ entry ∈ entries, Faithful put options root entry.2) (store : σ) :
    typeEntries put options root path entries store =
      (fields options path entries,
        putEach put store
          (entries.flatMap fun found => writes options (recordNameFor found.1) found.2)) := by
  induction entries generalizing store with
  | nil => rw [typeEntries]; rfl
  | cons entry rest ih =>
      have ⟨first, others⟩ := List.forall_mem_cons.1 each
      rw [typeEntries, first path .field entry.1 store]
      simp only [ih others, List.flatMap_cons, putEach_append]
      rfl

theorem visitHeld_cons (path : List String) (key : String) {value : Node} (rest : Entries)
    (faithful : Faithful put options root value) (store : σ) :
    visitHeld put options root path ((key, value) :: rest) store =
      visitHeld put options root path rest (putEach put store
        (if value.isMapping then writes options (recordNameFor key) value else [])) := by
  match value with
  | .mapping (entry :: inner) =>
      have visited := congrArg Prod.snd (faithful path .field key store)
      rw [typeValue] at visited
      rw [visitHeld]
      exact congrArg (visitHeld put options root path rest) visited
  | .mapping [] => simp [visitHeld, writes, putEach]
  | .scalar _ _ => simp [visitHeld, Node.isMapping, putEach]
  | .sequence _ => simp [visitHeld, Node.isMapping, putEach]
  | .unknown _ => simp [visitHeld, Node.isMapping, putEach]

theorem visitHeld_eq (path : List String) (entries : Entries)
    (each : ∀ entry ∈ entries, Faithful put options root entry.2) (store : σ) :
    visitHeld put options root path entries store =
      putEach put store ((entries.filter (·.2.isMapping)).flatMap
        fun held => writes options (recordNameFor held.1) held.2) := by
  induction entries generalizing store with
  | nil => rw [visitHeld]; rfl
  | cons entry rest ih =>
      have ⟨first, others⟩ := List.forall_mem_cons.1 each
      rw [visitHeld_cons path entry.1 rest first store, ih others, ← putEach_append,
        List.filter_cons]
      split <;> simp

theorem visitMapping_of_faithful (path : List String) {entries : Entries} (filled : entries ≠ [])
    (each : ∀ entry ∈ entries, Faithful put options root entry.2) (store : σ) :
    visitMapping put options root path entries store =
      putEach put store (writes options (recordName root path) (.mapping entries)) := by
  rw [visitMapping, typeEntries_eq path entries each, writes_mapping options _ filled,
    putEach_append, fields_path options path []]
  exact visitHeld_eq path entries each _

variable (put options root)

/-- An eager visit types every value as ever and writes its records. -/
theorem faithful (node : Node) : Faithful put options root node := by
  induction node using Node.induction with
  | scalar kind literal =>
      intro path slot key store
      rw [typeValue, writes]
      rfl
  | unknown tag =>
      intro path slot key store
      rw [typeValue, writes]
      rfl
  | sequence items ih =>
      intro path slot key store
      cases items with
      | nil =>
          rw [typeValue, writes]
          rfl
      | cons first rest =>
          rw [typeValue, ih first List.mem_cons_self path .element "" store, writes]
          rfl
  | mapping entries ih =>
      intro path slot key store
      cases entries with
      | nil =>
          rw [typeValue, writes]
          rfl
      | cons entry rest =>
          rw [typeValue, visitMapping_of_faithful (path ++ [key]) (List.cons_ne_nil _ _) ih,
            recordName_concat]
          rfl

end Visit

theorem visit_eq (options : Options) (root : String) (path : List String) (registry : Registry)
    (node : Node) :
    visit options root path registry node = registry.putAll
      (if node.isMapping then writes options (recordName root path) node else []) := by
  match node with
  | .mapping (entry :: rest) =>
      exact visitMapping_of_faithful path (List.cons_ne_nil _ _)
        (fun held _ => faithful OrderedMap.put options root held.2) registry
  | .mapping [] => simp [visit, writes, Registry.putAll, putEach]
  | .scalar _ _ => rfl
  | .sequence _ => rfl
  | .unknown _ => rfl

/-! ## The first visit leaves no trace -/

/-- Before writes that come again, only elements need to be visited. -/
theorem sameLast_flatMap_elements (options : Options) (entries : Entries) {later : List Record}
    (again : ∀ entry ∈ entries, entry.2.isMapping = true →
      ∀ record ∈ writes options (recordNameFor entry.1) entry.2,
        record.name ∈ later.map (·.name)) :
    SameLast
      (entries.flatMap (fun found => writes options (recordNameFor found.1) found.2) ++ later)
      ((entries.filter (·.2.isSequence)).flatMap
        (fun element => writes options (recordNameFor element.1) element.2) ++ later) := by
  induction entries with
  | nil => exact .refl _
  | cons entry rest ih =>
      have ⟨first, others⟩ := List.forall_mem_cons.1 again
      rw [List.flatMap_cons, List.append_assoc, List.filter_cons]
      cases sequence : entry.2.isSequence with
      | true =>
          rw [if_pos rfl, List.flatMap_cons, List.append_assoc]
          exact (SameLast.refl _).append (ih others)
      | false =>
          refine .trans (Registry.sameLast_overwritten fun record written => ?_) (ih others)
          cases mapping : entry.2.isMapping with
          | true =>
              rw [List.map_append]
              exact List.mem_append_right _ (first mapping record written)
          | false =>
              rw [writes_of_leaf options _ sequence mapping] at written
              cases written

/-- **Eager writes end as the writes of a single visit do.** -/
theorem sameLast_writes (options : Options) (name : String) (node : Node) :
    SameLast (writes options name node) (Walk.writes options name node) := by
  induction node using Node.induction generalizing name with
  | scalar => rw [writes, Walk.writes]; exact .refl []
  | unknown => rw [writes, Walk.writes]; exact .refl []
  | sequence items ih =>
      cases items with
      | nil => rw [writes, Walk.writes]; exact .refl []
      | cons first rest =>
          rw [writes, writes_sequence]
          exact ih first List.mem_cons_self _
  | mapping entries ih =>
      by_cases empty : entries = []
      · rw [empty, writes, Walk.writes]
        exact .refl []
      have part : ∀ kind : String × Node → Bool,
          SameLast
            ((entries.filter kind).flatMap
              fun entry => writes options (recordNameFor entry.1) entry.2)
            ((entries.filter kind).flatMap
              fun entry => Walk.writes options (recordNameFor entry.1) entry.2) := fun kind =>
        SameLast.flatMap fun entry inside => ih entry (List.mem_filter.1 inside).1 _
      rw [writes_mapping options name empty, Walk.writes_mapping options name empty]
      refine .trans (sameLast_flatMap_elements options entries ?_)
        ((part _).append ((SameLast.refl [_]).append (part _)))
      -- the second visits repeat every write of the first ones to mappings held directly
      intro entry inside mapping record written
      refine List.mem_map.2 ⟨record, List.mem_cons_of_mem _ (List.mem_flatMap.2 ?_), rfl⟩
      exact ⟨entry, List.mem_filter.2 ⟨inside, mapping⟩, written⟩

end YamlShape.Walk.Eager

namespace YamlShape

/-- **Visiting once refines visiting eagerly.**  From every registry the two end
with the same names and the same record under every name, and so with the same
text for every list of roots and every tag key. -/
theorem visit_refines_eager (options : Options) (root : String) (path : List String)
    (registry : Registry) (node : Node) :
    (∀ name, name ∈ (Walk.visit options root path registry node).keys ↔
      name ∈ (Walk.Eager.visit options root path registry node).keys) ∧
    (∀ name, (Walk.visit options root path registry node).get? name =
      (Walk.Eager.visit options root path registry node).get? name) ∧
    ∀ roots tagKey, (Walk.visit options root path registry node).render roots tagKey =
      (Walk.Eager.visit options root path registry node).render roots tagKey := by
  have agree : (Walk.Eager.visit options root path registry node).Agree
      (Walk.visit options root path registry node) := by
    rw [Walk.visit_eq, Walk.Eager.visit_eq, Walk.bodyWrites]
    split
    · exact (Walk.Eager.sameLast_writes options _ node).agree registry
    · exact fun _ => rfl
  refine ⟨?_, ?_, ?_⟩
  · intro name
    exact agree.mem_keys.symm
  · intro name
    exact (agree name).symm
  · intro roots tagKey
    exact (agree.render_eq roots tagKey).symm

end YamlShape
