/-
# YamlShape.Proofs.Registry -- what a run of writes leaves

`putEach` writes records to a store one after the other, each under its own
name; `Registry.putAll` does so with a registry.  Two views of the list of
records fix what it leaves:

* `get?_putAll`: under every name stands the last record of that name, and what
  stood there before when the list has none (`lastNamed`);
* `keys_putAll_empty`: in a new registry the names stand in the order in which
  they first came (`List.eraseDups`).

Two registries `Agree` when they hold the same record under every name.  Lists
with the same last records (`SameLast`) leave registries that agree, whatever
else they wrote in between; in particular a block of writes whose names all come
again may be left out (`sameLast_overwritten`).  What was just written may be written
again and leaves the registry as it is, down to the order of its names (`putAll_putAll`).
-/
import Mathlib.Data.List.Induction
import YamlShape.GoSource

namespace YamlShape

set_option autoImplicit false

/-! ## Names without repetitions -/

/-- A name at the end counts only when it is new. -/
theorem eraseDups_concat (names : List String) (name : String) :
    (names ++ [name]).eraseDups =
      if name ∈ names then names.eraseDups else names.eraseDups ++ [name] := by
  rw [List.eraseDups_append]
  by_cases inside : name ∈ names <;> simp [inside, List.removeAll, List.eraseDups_cons]

theorem nodup_eraseDups (names : List String) : names.eraseDups.Nodup := by
  induction names using List.reverseRecOn with
  | nil => exact List.nodup_nil
  | append_singleton earlier name ih =>
      rw [eraseDups_concat]
      split
      · exact ih
      · next new =>
        refine List.nodup_append.2 ⟨ih, by simp, ?_⟩
        rintro other inside _ last rfl
        rw [List.mem_singleton.1 last, List.mem_eraseDups] at inside
        exact new inside

theorem eraseDups_filter (keep : String → Bool) (names : List String) :
    (names.filter keep).eraseDups = names.eraseDups.filter keep := by
  induction names using List.reverseRecOn with
  | nil => rfl
  | append_singleton earlier name ih =>
      rw [eraseDups_concat, List.filter_append]
      cases kept : keep name with
      | true =>
          rw [List.filter_cons_of_pos kept, List.filter_nil, eraseDups_concat, ih]
          by_cases inside : name ∈ earlier <;> simp [inside, kept]
      | false =>
          rw [List.filter_cons_of_neg (by simp [kept]), List.filter_nil, List.append_nil, ih]
          by_cases inside : name ∈ earlier <;> simp [inside, kept]

/-- The members stand in the order of their first places. -/
theorem pairwise_idxOf_eraseDups (names : List String) :
    names.eraseDups.Pairwise fun earlier later => names.idxOf earlier < names.idxOf later := by
  induction names using List.reverseRecOn with
  | nil => exact .nil
  | append_singleton earlier name ih =>
      have place : ∀ other ∈ earlier.eraseDups,
          (earlier ++ [name]).idxOf other = earlier.idxOf other := by
        intro other inside
        rw [List.idxOf_append, if_pos (List.mem_eraseDups.1 inside)]
      have kept : earlier.eraseDups.Pairwise fun first second =>
          (earlier ++ [name]).idxOf first < (earlier ++ [name]).idxOf second := by
        refine ih.imp_of_mem fun first second before => ?_
        rwa [place _ first, place _ second]
      rw [eraseDups_concat]
      split
      · exact kept
      · next new =>
        refine List.pairwise_append.2 ⟨kept, List.pairwise_singleton _ name, ?_⟩
        intro other inside _ last
        rw [List.mem_singleton.1 last, place other inside, List.idxOf_append, if_neg new]
        exact Nat.lt_add_left _ (List.idxOf_lt_length_of_mem (List.mem_eraseDups.1 inside))

/-! ## Names that are present -/

namespace OrderedMap

variable {α : Type}

theorem mem_keys_iff {map : OrderedMap α} {key : String} :
    key ∈ map.keys ↔ ∃ value, map.get? key = some value := by
  rw [keys, get?, ← Option.isSome_iff_exists, List.lookup_isSome_iff]
  simp only [List.mem_map, beq_iff_eq]
  constructor <;> rintro ⟨entry, inside, same⟩ <;> exact ⟨entry, inside, same.symm⟩

theorem mem_keys_iff_contains {map : OrderedMap α} {key : String} :
    key ∈ map.keys ↔ map.contains key = true := by
  rw [mem_keys_iff, contains, Option.isSome_iff_exists]

theorem contains_eq_of_mem_keys {left right : OrderedMap α}
    (same : ∀ key, key ∈ left.keys ↔ key ∈ right.keys) : left.contains = right.contains := by
  funext key
  rw [Bool.eq_iff_iff, ← mem_keys_iff_contains, ← mem_keys_iff_contains, same]

theorem get?_empty (key : String) : (empty : OrderedMap α).get? key = none := rfl

/-! ## Maps from lists -/

theorem putEntry_of_notMem {key : String} (value : α) {entries : List (String × α)}
    (absent : key ∉ entries.map Prod.fst) :
    putEntry key value entries = entries ++ [(key, value)] := by
  induction entries with
  | nil => rfl
  | cons entry rest ih =>
      rw [List.map_cons, List.mem_cons, not_or] at absent
      rw [putEntry, if_neg (Ne.symm absent.1), ih absent.2, List.cons_append]

theorem ofList_concat (entries : List (String × α)) (entry : String × α) :
    ofList (entries ++ [entry]) = (ofList entries).put entry.1 entry.2 := by
  rw [ofList, List.foldl_append]
  rfl

/-- The keys stand in the order in which they first came. -/
theorem keys_ofList (entries : List (String × α)) :
    (ofList entries).keys = (entries.map Prod.fst).eraseDups := by
  induction entries using List.reverseRecOn with
  | nil => rfl
  | append_singleton earlier entry ih =>
      rw [ofList_concat, keys_put, ih, List.map_append, List.map_singleton, eraseDups_concat]
      simp only [List.mem_eraseDups]

/-- Under a key stands the value that it came with last. -/
theorem get?_ofList (entries : List (String × α)) (key : String) :
    (ofList entries).get? key = (entries.filter (·.1 = key)).getLast?.map Prod.snd := by
  induction entries using List.reverseRecOn with
  | nil => rfl
  | append_singleton earlier entry ih =>
      rw [ofList_concat, List.filter_append]
      by_cases same : entry.1 = key
      · rw [same, get?_put_self]
        simp [same]
      · rw [get?_put_of_ne _ _ (Ne.symm same), ih]
        simp [same]

/-- Entries of distinct keys stay as they are. -/
theorem entries_ofList {entries : List (String × α)} (distinct : (entries.map Prod.fst).Nodup) :
    (ofList entries).entries = entries := by
  induction entries using List.reverseRecOn with
  | nil => rfl
  | append_singleton earlier entry ih =>
      rw [List.map_append, List.map_singleton] at distinct
      obtain ⟨others, _, apart⟩ := List.nodup_append.1 distinct
      have absent : entry.1 ∉ earlier.map Prod.fst :=
        fun inside => apart entry.1 inside entry.1 (List.mem_singleton_self _) rfl
      have written : (ofList (earlier ++ [entry])).entries =
          putEntry entry.1 entry.2 (ofList earlier).entries := by
        rw [ofList_concat]
        rfl
      rw [written, ih others, putEntry_of_notMem entry.2 absent]

/-! ## Equal maps -/

theorem lookup_of_notMem {key : String} {entries : List (String × α)}
    (absent : key ∉ entries.map Prod.fst) : entries.lookup key = none := by
  refine List.lookup_eq_none_iff.2 fun entry inside => bne_iff_ne.2 ?_
  rintro rfl
  exact absent (List.mem_map_of_mem inside)

/-- Entries are equal if the same distinct keys come in the same order and lead to the
same values. -/
theorem eq_of_lookup_eq {left right : List (String × α)}
    (distinct : (left.map Prod.fst).Nodup) (keys : left.map Prod.fst = right.map Prod.fst)
    (same : ∀ key, left.lookup key = right.lookup key) : left = right := by
  induction left generalizing right with
  | nil => exact (List.map_eq_nil_iff.1 keys.symm).symm
  | cons entry rest ih =>
      obtain ⟨key, value⟩ := entry
      cases right with
      | nil => cases keys
      | cons counterpart others =>
          obtain ⟨label, held⟩ := counterpart
          obtain ⟨rfl, later⟩ : key = label ∧ rest.map Prod.fst = others.map Prod.fst := by
            simpa using keys
          obtain ⟨absent, distinct⟩ := List.nodup_cons.1 distinct
          have values : value = held := by simpa using same key
          have beyond : ∀ other, rest.lookup other = others.lookup other := by
            intro other
            by_cases first : other = key
            · subst first
              rw [lookup_of_notMem absent, lookup_of_notMem (later ▸ absent)]
            · have missed : (other == key) = false := by simpa using first
              simpa [List.lookup_cons, missed] using same other
          rw [values, ih distinct later beyond]

/-- A map is its keys in their order, and what stands under each. -/
theorem ext_of_get? {left right : OrderedMap α} (keys : left.keys = right.keys)
    (same : ∀ key, left.get? key = right.get? key) : left = right := by
  have entries : left.entries = right.entries := eq_of_lookup_eq left.nodup_keys keys same
  cases left
  cases right
  cases entries
  rfl

end OrderedMap

/-! ## Writing records in turn -/

/-- Writes records to a store in turn, each under its own name. -/
def putEach {σ : Type} (put : σ → String → Record → σ) (store : σ) (records : List Record) : σ :=
  records.foldl (fun store record => put store record.name record) store

theorem putEach_append {σ : Type} (put : σ → String → Record → σ) (store : σ)
    (earlier later : List Record) :
    putEach put store (earlier ++ later) = putEach put (putEach put store earlier) later :=
  List.foldl_append

/-- A loop that writes some records for each item writes them all. -/
theorem foldl_eq_putEach {σ α : Type} {put : σ → String → Record → σ} {step : σ → α → σ}
    {records : α → List Record} (items : List α)
    (each : ∀ item ∈ items, ∀ store, step store item = putEach put store (records item))
    (store : σ) : items.foldl step store = putEach put store (items.flatMap records) := by
  induction items generalizing store with
  | nil => rfl
  | cons item rest ih =>
      have others := ih fun later inside => each later (List.mem_cons_of_mem _ inside)
      rw [List.foldl_cons, others, each item List.mem_cons_self, List.flatMap_cons,
        putEach_append]

namespace Registry

/-- Registers records in turn. -/
def putAll (registry : Registry) (records : List Record) : Registry :=
  putEach OrderedMap.put registry records

theorem putAll_append (registry : Registry) (earlier later : List Record) :
    registry.putAll (earlier ++ later) = (registry.putAll earlier).putAll later :=
  putEach_append OrderedMap.put registry earlier later

theorem putAll_concat (registry : Registry) (records : List Record) (record : Record) :
    registry.putAll (records ++ [record]) =
      (registry.putAll records).put record.name record :=
  registry.putAll_append records [record]

/-! ## The last record of a name -/

/-- The last record with a name. -/
def lastNamed (name : String) (records : List Record) : Option Record :=
  (records.filter (·.name = name)).getLast?

theorem lastNamed_append (name : String) (earlier later : List Record) :
    lastNamed name (earlier ++ later) = (lastNamed name later).or (lastNamed name earlier) := by
  rw [lastNamed, List.filter_append, List.getLast?_append]
  rfl

theorem lastNamed_singleton (name : String) (record : Record) :
    lastNamed name [record] = if record.name = name then some record else none := by
  by_cases same : record.name = name <;> simp [lastNamed, same]

theorem lastNamed_eq_none_iff {name : String} {records : List Record} :
    lastNamed name records = none ↔ name ∉ records.map (·.name) := by
  simp [lastNamed]

theorem lastNamed_eq_some_iff {name : String} {records : List Record} {record : Record} :
    lastNamed name records = some record ↔
      ∃ earlier later, records = earlier ++ record :: later ∧ record.name = name ∧
        name ∉ later.map (·.name) := by
  constructor
  · intro found
    rw [lastNamed, List.getLast?_filter, List.find?_eq_some_iff_append] at found
    obtain ⟨named, later, earlier, parts, others⟩ := found
    refine ⟨earlier.reverse, later.reverse, ?_, by simpa using named, ?_⟩
    · rw [← List.reverse_reverse records, parts]
      simp
    · simpa using others
  · rintro ⟨earlier, later, rfl, rfl, others⟩
    rw [lastNamed_append, ← List.singleton_append, lastNamed_append,
      lastNamed_eq_none_iff.2 others, lastNamed_singleton]
    simp

/-! ## Lists with the same last records -/

/-- Two lists have the same last record of every name. -/
def SameLast (left right : List Record) : Prop :=
  ∀ name, lastNamed name left = lastNamed name right

theorem SameLast.refl (records : List Record) : SameLast records records := fun _ => rfl

theorem SameLast.trans {first second third : List Record} (left : SameLast first second)
    (right : SameLast second third) : SameLast first third :=
  fun name => (left name).trans (right name)

theorem SameLast.append {left right left' right' : List Record} (earlier : SameLast left left')
    (later : SameLast right right') : SameLast (left ++ right) (left' ++ right') := by
  intro name
  rw [lastNamed_append, lastNamed_append, earlier name, later name]

theorem SameLast.flatMap {α : Type} {items : List α} {left right : α → List Record}
    (each : ∀ item ∈ items, SameLast (left item) (right item)) :
    SameLast (items.flatMap left) (items.flatMap right) := by
  induction items with
  | nil => exact .refl []
  | cons item rest ih =>
      have ⟨first, others⟩ := List.forall_mem_cons.1 each
      exact first.append (ih others)

/-- Writes whose names all come again later leave no trace. -/
theorem sameLast_overwritten {overwritten later : List Record}
    (again : ∀ record ∈ overwritten, record.name ∈ later.map (·.name)) :
    SameLast (overwritten ++ later) later := by
  intro name
  rw [lastNamed_append]
  cases found : lastNamed name later with
  | some record => rfl
  | none =>
      have absent := lastNamed_eq_none_iff.1 found
      refine lastNamed_eq_none_iff.2 fun inside => ?_
      obtain ⟨record, member, rfl⟩ := List.mem_map.1 inside
      exact absent (again record member)

/-! ## What a run of writes leaves -/

/-- **The last write to a name stands.** -/
theorem get?_putAll (registry : Registry) (records : List Record) (name : String) :
    (registry.putAll records).get? name = (lastNamed name records).or (registry.get? name) := by
  induction records using List.reverseRecOn with
  | nil => rfl
  | append_singleton earlier record ih =>
      rw [putAll_concat, lastNamed_append, lastNamed_singleton]
      by_cases same : record.name = name
      · subst same
        simp [OrderedMap.get?_put_self]
      · rw [OrderedMap.get?_put_of_ne _ _ (Ne.symm same), ih]
        simp [same]

theorem get?_putAll_empty (records : List Record) (name : String) :
    (putAll .empty records).get? name = lastNamed name records := by
  rw [get?_putAll, OrderedMap.get?_empty, Option.or_none]

/-- A new registry lists the names in the order in which they first came. -/
theorem keys_putAll_empty (records : List Record) :
    (putAll .empty records).keys = (records.map (·.name)).eraseDups := by
  induction records using List.reverseRecOn with
  | nil => rfl
  | append_singleton earlier record ih =>
      rw [putAll_concat, OrderedMap.keys_put, ih, List.map_append, List.map_singleton,
        eraseDups_concat]
      simp only [List.mem_eraseDups]

/-- Names that are registered keep their places. -/
theorem keys_putAll_of_mem {registry : Registry} {records : List Record}
    (registered : ∀ record ∈ records, record.name ∈ registry.keys) :
    (registry.putAll records).keys = registry.keys := by
  induction records using List.reverseRecOn with
  | nil => rfl
  | append_singleton earlier record ih =>
      obtain ⟨before, last⟩ := List.forall_mem_append.1 registered
      rw [putAll_concat, OrderedMap.keys_put, ih before]
      exact if_pos (last record (List.mem_singleton_self record))

/-- Names that are written are registered. -/
theorem name_mem_keys_putAll {registry : Registry} {records : List Record} {record : Record}
    (written : record ∈ records) : record.name ∈ (registry.putAll records).keys := by
  cases found : lastNamed record.name records with
  | none => exact absurd (List.mem_map_of_mem written) (lastNamed_eq_none_iff.1 found)
  | some last =>
      refine OrderedMap.mem_keys_iff.2 ⟨last, ?_⟩
      rw [get?_putAll, found, Option.some_or]

/-- Records that were just written may be written again. -/
theorem putAll_putAll (registry : Registry) (records : List Record) :
    (registry.putAll records).putAll records = registry.putAll records := by
  refine OrderedMap.ext_of_get? (keys_putAll_of_mem fun _ written => name_mem_keys_putAll written) ?_
  intro name
  rw [get?_putAll, get?_putAll, ← Option.or_assoc, Option.or_self]

/-! ## Agreement -/

/-- Two registries hold the same record under every name. -/
def Agree (left right : Registry) : Prop :=
  ∀ name, left.get? name = right.get? name

theorem Agree.mem_keys {left right : Registry} (agree : left.Agree right) {name : String} :
    name ∈ left.keys ↔ name ∈ right.keys := by
  rw [OrderedMap.mem_keys_iff, OrderedMap.mem_keys_iff, agree name]

theorem SameLast.agree {left right : List Record} (same : SameLast left right)
    (registry : Registry) : (registry.putAll left).Agree (registry.putAll right) := by
  intro name
  rw [get?_putAll, get?_putAll, same]

end Registry

end YamlShape
