/-
# YamlShape.Walk -- the records of a document

Every non-empty mapping that is reached from a document's body, through entries
and first elements of sequences, becomes a record.  The record is named after
the last key of its path; the empty path is the document's root.

Names may collide, and the last write to a name stands, so the order of writes
is part of the meaning.  For one mapping:

1. the mappings reached through sequences are visited;
2. the mapping's own record is written;
3. the mappings held directly by an entry are visited, in source order.

So a child whose name is its parent's replaces it (`user: {name, age}` ends as
one record `User`), while an element of a sequence gives way to the mapping
around it.

Where records are written to is a parameter of a visit: `visit` writes to a
registry, through `OrderedMap.put`.

* `typeEntries_eq`: typing the entries of a mapping yields one field for each of
  them, and the discoveries of their values, both in source order;
* `entries_lt_of_mem_taken`: what a mapping leads to is smaller than it, so a
  visit comes to an end;
* `visitMapping_eq`: the order above as an equation.
-/
import YamlShape.Emptiness
import YamlShape.Inference
import YamlShape.OrderedMap

namespace YamlShape

set_option autoImplicit false

/-- The records of one run, in order of discovery. -/
abbrev Registry := OrderedMap Record

namespace Walk

/-! ## One mapping -/

/-- Types the entries of a mapping in source order.  Gives the fields of its
record, and the inference that has met all its values. -/
def typeEntries (options : Options) (path : List String) :
    Inference → Entries → List Field × Inference
  | inference, [] => ([], inference)
  | inference, (key, value) :: rest =>
    let (type, inference) := inference.infer path key value
    let (fields, inference) := typeEntries options path inference rest
    ({ sourceKey := key, type, omitEmpty := value.isEmpty options.emptiness } :: fields, inference)

/-- The fields of a mapping's record, one for each entry in source order. -/
def fields (options : Options) (path : List String) (entries : Entries) : List Field :=
  entries.map fun (key, value) =>
    { sourceKey := key
      type := (Inference.typed options.optionality path .field key value).1
      omitEmpty := value.isEmpty options.emptiness }

/-- The mappings that the values of a mapping lead to, in source order. -/
def discoveries (options : Options) (path : List String) (entries : Entries) : List Discovery :=
  entries.filterMap fun (key, value) =>
    (Inference.typed options.optionality path .field key value).2

theorem typeEntries_eq (options : Options) (path : List String) (earlier : List Discovery)
    (entries : Entries) :
    typeEntries options path ⟨options.optionality, earlier⟩ entries =
      (fields options path entries,
        ⟨options.optionality, earlier ++ discoveries options path entries⟩) := by
  induction entries generalizing earlier with
  | nil => simp [typeEntries, fields, discoveries]
  | cons entry rest ih =>
      obtain ⟨key, value⟩ := entry
      simp only [typeEntries, Inference.infer_eq, ih, fields, discoveries, List.map_cons,
        List.filterMap_cons]
      cases (Inference.typed options.optionality path .field key value).2 <;> simp

theorem entries_lt_of_mem_discoveries {options : Options} {path : List String}
    {entries : Entries} {found : Discovery} (member : found ∈ discoveries options path entries) :
    sizeOf found.entries < sizeOf entries := by
  have ⟨entry, inside, discovered⟩ := List.mem_filterMap.1 member
  have := Inference.typed_snd_entries_lt discovered
  have := Node.sizeOf_value_lt inside
  omega

/-- The fields of a mapping's record, and all that its values lead to. -/
def typeMapping (options : Options) (path : List String) (entries : Entries) :
    List Field × List Discovery :=
  let (fields, inference) := typeEntries options path { optionality := options.optionality } entries
  (fields, inference.take.1)

theorem typeMapping_eq (options : Options) (path : List String) (entries : Entries) :
    typeMapping options path entries =
      (fields options path entries, discoveries options path entries) := by
  simp [typeMapping, typeEntries_eq, Inference.take]

theorem entries_lt_of_mem_taken {options : Options} {path : List String} {entries : Entries}
    {found : Discovery} (member : found ∈ (typeMapping options path entries).2) :
    sizeOf found.entries < sizeOf entries :=
  entries_lt_of_mem_discoveries (typeMapping_eq options path entries ▸ member)

/-- The record name of a path: that of its last key, and the root's for the
empty path. -/
def recordName (root : String) (path : List String) : String :=
  match path.getLast? with
  | none => root
  | some key => Name.recordNameFor key

/-! ## Visits -/

section Visits

variable {σ : Type} (put : σ → String → Record → σ)

/-- Visits the mapping at the end of a path. -/
def visitMapping (options : Options) (root : String) (path : List String) (entries : Entries)
    (store : σ) : σ :=
  let typed := typeMapping options path entries
  let found := typed.2.partition (·.slot = .element)
  let name := recordName root path
  let store := found.1.attach.foldl
    (fun store ⟨element, _⟩ => visitMapping options root element.path element.entries store) store
  let store := put store name { name, fields := typed.1 }
  found.2.attach.foldl
    (fun store ⟨held, _⟩ => visitMapping options root held.path held.entries store) store
termination_by sizeOf entries
decreasing_by all_goals exact @entries_lt_of_mem_taken options path entries _ (by simp_all [typed, found])

/-- A visit of a mapping: elements, the mapping itself, what its entries hold. -/
theorem visitMapping_eq (options : Options) (root : String) (path : List String)
    (entries : Entries) (store : σ) :
    visitMapping put options root path entries store =
      ((discoveries options path entries).filter (·.slot = .field)).foldl
        (fun store held => visitMapping put options root held.path held.entries store)
        (put
          (((discoveries options path entries).filter (·.slot = .element)).foldl
            (fun store element =>
              visitMapping put options root element.path element.entries store) store)
          (recordName root path)
          { name := recordName root path, fields := fields options path entries }) := by
  have others : (fun found : Discovery => !decide (found.slot = .element)) =
      fun found => decide (found.slot = .field) := by
    funext found
    cases found.slot <;> rfl
  rw [visitMapping]
  simp only [typeMapping_eq, List.partition_eq_filter_filter, Function.comp_def, others,
    List.foldl_subtype, List.unattach_attach]

/-- Visits a value under a path.  Only a non-empty mapping is written. -/
def visitNode (options : Options) (root : String) (path : List String) (store : σ) : Node → σ
  | .mapping (entry :: rest) => visitMapping put options root path (entry :: rest) store
  | _ => store

end Visits

/-- Visits a value under a path and registers its records. -/
def visit (options : Options) (root : String) (path : List String) (registry : Registry)
    (node : Node) : Registry :=
  visitNode OrderedMap.put options root path registry node

/-! ## Documents -/

/-- The root name of a document that is not named by its only key. -/
def documentRoot : String := "Document"

/-- The root name of the document at `index` of `total`: a mapping with a single
key is named after it, anything else `Document`, with a number from one where
there are several documents. -/
def rootName (index total : Nat) : Node → String
  | .mapping [(key, _)] => Name.recordNameFor key
  | _ => if total = 1 then documentRoot else documentRoot ++ toString (index + 1)

end Walk

end YamlShape
