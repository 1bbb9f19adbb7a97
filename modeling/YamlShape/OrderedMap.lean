/-
# YamlShape.OrderedMap -- maps in order of first insertion

A map from texts to values that remembers the order in which its keys first
came.  Writing to a key that is present replaces its value and keeps its place.

The view is `get?`, and `put` does to it what a write does:

* `get?_put_self`, `get?_put_of_ne`: the written key has the new value, every
  other key has what it had;
* `keys_put`: a key that is present keeps its place, a new one comes last.
-/
namespace YamlShape

set_option autoImplicit false

/-- Keys with values, in order of first insertion; no key occurs twice. -/
structure OrderedMap (α : Type) where
  entries : List (String × α)
  nodup_keys : (entries.map Prod.fst).Nodup

namespace OrderedMap

variable {α : Type}

/-! ## One write on a list of entries -/

/-- Replaces the value of the key where it stands, or adds the entry at the end. -/
def putEntry (key : String) (value : α) : List (String × α) → List (String × α)
  | [] => [(key, value)]
  | entry :: rest =>
    if entry.1 = key then (key, value) :: rest else entry :: putEntry key value rest

theorem map_fst_putEntry (key : String) (value : α) (entries : List (String × α)) :
    (putEntry key value entries).map Prod.fst =
      if key ∈ entries.map Prod.fst then entries.map Prod.fst
      else entries.map Prod.fst ++ [key] := by
  induction entries with
  | nil => simp [putEntry]
  | cons entry rest ih =>
    by_cases same : entry.1 = key
    · simp [putEntry, same]
    · have other : ¬ key = entry.1 := fun h => same h.symm
      by_cases present : key ∈ rest.map Prod.fst
      · rw [if_pos present] at ih
        simp only [putEntry, if_neg same, List.map_cons, ih]
        rw [if_pos (List.mem_cons_of_mem _ present)]
      · rw [if_neg present] at ih
        simp only [putEntry, if_neg same, List.map_cons, ih]
        rw [if_neg (by simpa [other] using present)]
        rfl

theorem nodup_putEntry (key : String) (value : α) {entries : List (String × α)}
    (nodup : (entries.map Prod.fst).Nodup) :
    ((putEntry key value entries).map Prod.fst).Nodup := by
  rw [map_fst_putEntry]
  split
  · exact nodup
  · next absent =>
    refine List.nodup_append.2 ⟨nodup, by simp, ?_⟩
    intro a inside b new same
    rw [List.mem_singleton] at new
    exact absent (new ▸ same ▸ inside)

/-! ## The map -/

/-- The map without entries. -/
def empty : OrderedMap α := ⟨[], by simp⟩

instance : Inhabited (OrderedMap α) := ⟨empty⟩

/-- Writes a value under a key. -/
def put (map : OrderedMap α) (key : String) (value : α) : OrderedMap α :=
  ⟨putEntry key value map.entries, nodup_putEntry key value map.nodup_keys⟩

/-- The value under a key. -/
def get? (map : OrderedMap α) (key : String) : Option α :=
  map.entries.lookup key

/-- The keys in order of first insertion. -/
def keys (map : OrderedMap α) : List String :=
  map.entries.map Prod.fst

def contains (map : OrderedMap α) (key : String) : Bool :=
  (map.get? key).isSome

def size (map : OrderedMap α) : Nat :=
  map.entries.length

/-- The map that the entries leave when they are written one after the other. -/
def ofList (entries : List (String × α)) : OrderedMap α :=
  entries.foldl (fun map entry => map.put entry.1 entry.2) empty

/-! ## What a write does to the view -/

theorem lookup_putEntry (key : String) (value : α) (entries : List (String × α)) (other : String) :
    (putEntry key value entries).lookup other =
      if other = key then some value else entries.lookup other := by
  induction entries with
  | nil =>
    by_cases h : other = key
    · simp [putEntry, h]
    · have missed : (other == key) = false := by simpa using h
      simp [putEntry, List.lookup_cons, missed, h]
  | cons entry rest ih =>
    obtain ⟨name, held⟩ := entry
    by_cases same : name = key
    · subst same
      by_cases h : other = name
      · simp [putEntry, h]
      · have missed : (other == name) = false := by simpa using h
        simp [putEntry, List.lookup_cons, missed, h]
    · by_cases found : other = name
      · simp [putEntry, same, found]
      · have missed : (other == name) = false := by simpa using found
        simp [putEntry, List.lookup_cons, same, missed, ih]

theorem get?_put_self (map : OrderedMap α) (key : String) (value : α) :
    (map.put key value).get? key = some value := by
  simp [get?, put, lookup_putEntry]

theorem get?_put_of_ne (map : OrderedMap α) {key other : String} (value : α) (ne : other ≠ key) :
    (map.put key value).get? other = map.get? other := by
  simp [get?, put, lookup_putEntry, ne]

theorem keys_put (map : OrderedMap α) (key : String) (value : α) :
    (map.put key value).keys = if key ∈ map.keys then map.keys else map.keys ++ [key] :=
  map_fst_putEntry key value map.entries

end OrderedMap

end YamlShape
