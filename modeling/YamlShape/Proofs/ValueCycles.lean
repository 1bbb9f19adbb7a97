/-
# YamlShape.Proofs.ValueCycles -- no record contains itself by value

A field whose type is a record itself, not a slice of it, holds that record by
value.  A record that held itself that way, through however many others, would
have no finite size; `run_no_value_cycle` says that no run leaves one.

Inside one value this is plain, but names collide, and a registry mixes records
from places that never met in a document.  What survives every collision is the
order of writes: whatever a record holds by value is written after it
(`HeldLater`).  So the last write to the held name comes later than the last
write to the holder's, fewer writes follow it (`writesAfter`), and a cycle would have to count
down forever.

A slice breaks the argument, for its elements are visited before the record: a
record with the name of its elements stays, and holds slices of itself
(`slice_cycle`).
-/
import Mathlib.Logic.Relation
import YamlShape.Proofs.Writes

namespace YamlShape

set_option autoImplicit false

open Name (recordNameFor nestedFallback)

/-! ## Holding by value -/

/-- A field of the record is typed as the record of the name. -/
def Record.HoldsByValue (record : Record) (held : String) : Prop :=
  ∃ field ∈ record.fields, field.type = .recordRef held

/-- The record under a name has a field typed as the record of another. -/
def Registry.HoldsByValue (registry : Registry) (holder held : String) : Prop :=
  ∃ record, registry.get? holder = some record ∧ record.HoldsByValue held

/-- Whatever a record holds by value is written after it. -/
def HeldLater : List Record → Prop
  | [] => True
  | record :: later =>
    (∀ held, record.HoldsByValue held → held ∈ later.map (·.name)) ∧ HeldLater later

theorem HeldLater.append {earlier later : List Record} (first : HeldLater earlier)
    (second : HeldLater later) : HeldLater (earlier ++ later) := by
  induction earlier with
  | nil => exact second
  | cons record rest ih =>
      refine ⟨?_, ih first.2⟩
      intro held holds
      have written := List.mem_append_left (later.map (·.name)) (first.1 held holds)
      rwa [← List.map_append] at written

theorem HeldLater.flatMap {α : Type} {items : List α} {records : α → List Record}
    (each : ∀ item ∈ items, HeldLater (records item)) : HeldLater (items.flatMap records) := by
  induction items with
  | nil => trivial
  | cons item rest ih =>
      rw [List.flatMap_cons]
      have ⟨first, others⟩ := List.forall_mem_cons.1 each
      exact first.append (ih others)

theorem HeldLater.of_append {earlier later : List Record}
    (whole : HeldLater (earlier ++ later)) : HeldLater later := by
  induction earlier with
  | nil => exact whole
  | cons record rest ih => exact ih whole.2

/-! ## Writes keep the order -/

namespace Walk

/-- A mapping's record holds by value what its entries hold directly. -/
theorem holdsByValue_fields {options : Options} {name held : String} {entries : Entries}
    (holds : Record.HoldsByValue { name, fields := fields options [] entries } held) :
    ∃ entry ∈ entries, ∃ inner, inner ≠ [] ∧ entry.2 = .mapping inner ∧
      held = recordNameFor entry.1 := by
  obtain ⟨field, inside, type⟩ := holds
  obtain ⟨entry, member, rfl⟩ := List.mem_map.1 inside
  obtain ⟨⟨inner, filled, mapping⟩, named⟩ := Inference.typed_eq_recordRef_iff.1 type
  exact ⟨entry, member, inner, filled, mapping, named⟩

theorem heldLater_writes (options : Options) (name : String) (node : Node) :
    HeldLater (writes options name node) := by
  induction node using Node.induction generalizing name with
  | scalar => rw [writes]; trivial
  | unknown => rw [writes]; trivial
  | sequence items ih =>
      cases items with
      | nil => rw [writes]; trivial
      | cons first rest =>
          rw [writes_sequence]
          exact ih first List.mem_cons_self _
  | mapping entries ih =>
      by_cases empty : entries = []
      · subst empty
        rw [writes]
        trivial
      rw [writes_mapping options name empty]
      have part : ∀ kind : String × Node → Bool, HeldLater ((entries.filter kind).flatMap
          fun entry => writes options (recordNameFor entry.1) entry.2) := fun kind =>
        HeldLater.flatMap fun entry inside => ih entry (List.mem_filter.1 inside).1 _
      refine (part _).append ⟨?_, part _⟩
      intro held holds
      -- what the mapping holds by value is visited right after its own write
      obtain ⟨entry, member, inner, filled, mapping, rfl⟩ := holdsByValue_fields holds
      have direct : entry ∈ entries.filter (·.2.isMapping) :=
        List.mem_filter.2 ⟨member, by rw [mapping]; rfl⟩
      rw [List.map_flatMap]
      refine List.mem_flatMap.2 ⟨entry, direct, ?_⟩
      rw [mapping]
      exact name_mem_writes options _ filled

end Walk

theorem Generation.heldLater_writes (options : Options) (documents : List Node) :
    HeldLater (writes options documents) := by
  refine HeldLater.flatMap fun (body, root) _ => ?_
  simp only [Walk.bodyWrites]
  split
  · exact Walk.heldLater_writes options root body
  · trivial

/-! ## The rank of a name -/

/-- How many writes follow the last one to a name. -/
def writesAfter (name : String) (records : List Record) : Nat :=
  records.reverse.findIdx (·.name = name)

theorem writesAfter_split {earlier later : List Record} {record : Record}
    (last : record.name ∉ later.map (·.name)) :
    writesAfter record.name (earlier ++ record :: later) = later.length := by
  have absent : later.reverse.findIdx (·.name = record.name) = later.reverse.length := by
    rw [List.findIdx_eq_length]
    simpa using last
  rw [writesAfter, List.reverse_append, List.reverse_cons, List.append_assoc,
    List.findIdx_append, absent, if_neg (Nat.lt_irrefl _)]
  simp [List.findIdx_cons]

theorem writesAfter_lt {earlier later : List Record} {name : String}
    (again : name ∈ later.map (·.name)) :
    writesAfter name (earlier ++ later) < later.length := by
  have found : later.reverse.findIdx (·.name = name) < later.reverse.length := by
    rw [List.findIdx_lt_length]
    simpa using again
  rw [writesAfter, List.reverse_append, List.findIdx_append, if_pos found]
  simpa using found

/-- Fewer writes follow the last one to a held name than that to its holder's. -/
theorem writesAfter_lt_of_holdsByValue {records : List Record} (ordered : HeldLater records)
    {holder held : String} {record : Record}
    (stands : Registry.lastNamed holder records = some record)
    (holds : record.HoldsByValue held) :
    writesAfter held records < writesAfter holder records := by
  obtain ⟨earlier, later, rfl, rfl, last⟩ := Registry.lastNamed_eq_some_iff.1 stands
  have again : held ∈ later.map (·.name) := ordered.of_append.1 held holds
  rw [writesAfter_split last, List.append_cons]
  exact writesAfter_lt again

/-! ## No cycles -/

theorem writesAfter_lt_of_edge {documents : List Node} {options : Options} {holder held : String}
    (edge : (Generation.run documents options).registry.HoldsByValue holder held) :
    writesAfter held (Generation.writes options documents) <
      writesAfter holder (Generation.writes options documents) := by
  obtain ⟨record, stands, holds⟩ := edge
  rw [Generation.get?_run] at stands
  exact writesAfter_lt_of_holdsByValue (Generation.heldLater_writes options documents)
    stands holds

theorem writesAfter_lt_of_path {documents : List Node} {options : Options} {holder held : String}
    (path : Relation.TransGen (Generation.run documents options).registry.HoldsByValue
      holder held) :
    writesAfter held (Generation.writes options documents) <
      writesAfter holder (Generation.writes options documents) := by
  induction path with
  | single edge => exact writesAfter_lt_of_edge edge
  | tail _ edge ih => exact Nat.lt_trans (writesAfter_lt_of_edge edge) ih

/-! ## Cycles behind a slice -/

/-- A document with a single nameless key that holds a list: its record has the
name of the elements, and is written after theirs. -/
theorem get?_run_nameless (options : Options) {key : String}
    (nameless : recordNameFor key = nestedFallback) (items : List Node) :
    (Generation.run [.mapping [(key, .sequence items)]] options).registry.get? nestedFallback =
      some { name := nestedFallback,
             fields := Walk.fields options [] [(key, .sequence items)] } := by
  have written : Generation.writes options [.mapping [(key, .sequence items)]] =
      Walk.writes options nestedFallback (.mapping [(key, .sequence items)]) := by
    simp [Generation.writes, Generation.rootNamesOf, Walk.rootName, nameless, Walk.bodyWrites,
      Node.isMapping]
  have none_held : [(key, Node.sequence items)].filter (·.2.isMapping) = [] := rfl
  rw [Generation.get?_run, written, Walk.writes_mapping options _ (List.cons_ne_nil _ _),
    none_held, List.flatMap_nil, Registry.lastNamed_append, Registry.lastNamed_singleton,
    if_pos rfl]
  rfl

/-- Where the elements are mappings, that record holds a slice of itself. -/
theorem slice_cycle (options : Options) :
    ∃ documents name record,
      (Generation.run documents options).registry.get? name = some record ∧
        ∃ field ∈ record.fields, field.type = .slice (.recordRef name) := by
  have nameless : recordNameFor "" = nestedFallback := rfl
  have stands := get?_run_nameless options nameless [.mapping [("text", .scalar .string "x")]]
  exact ⟨_, nestedFallback, _, stands, _, List.mem_singleton_self _, rfl⟩

/-- **No record of a run contains itself by value.**  Behind a slice one may. -/
theorem run_no_value_cycle :
    (∀ (documents : List Node) (options : Options) (name : String),
      ¬ Relation.TransGen (Generation.run documents options).registry.HoldsByValue name name) ∧
    ∀ options : Options, ∃ documents name record,
      (Generation.run documents options).registry.get? name = some record ∧
        ∃ field ∈ record.fields, field.type = .slice (.recordRef name) := by
  constructor
  · intro documents options name cycle
    exact Nat.lt_irrefl _ (writesAfter_lt_of_path cycle)
  · intro options
    exact slice_cycle options

end YamlShape
