/-
# YamlShape.Proofs.Trees -- files and directories form a tree

Every item but the root is in a directory, under a name that a path can lead to
(`IsTree`).  So the path of an entry leads to that entry (`locate_entry`), an item lies
no deeper than there are items (`length_le_of_item?_ne`), and a search that steps down
once for every item misses nothing (`below_of_deep`).
-/
import Mathlib.Data.List.Induction
import Mathlib.Data.List.Nodup
import Mathlib.Data.List.Perm.Subperm
import YamlShape.Proofs.Files
import YamlShape.Proofs.Paths

namespace YamlShape.Files

set_option autoImplicit false

open PathText (IsName)

namespace FileSystem

variable {files : FileSystem} {location directory : Location} {name : String}

/-! ## Locations of items -/

/-- The locations that items are held for, in the order in which they came. -/
def locations (files : FileSystem) : List Location :=
  files.items.map Prod.fst

/-- The name that an item has in a directory, if it is in it. -/
def nameIn? (directory location : Location) : Option String :=
  if location.dropLast = directory then location.getLast? else none

theorem mem_locations_iff (inside : location ≠ []) :
    location ∈ files.locations ↔ files.item? location ≠ none := by
  rw [item?, itemAt?, if_neg inside, ne_eq, List.lookup_eq_none_iff, locations,
    List.mem_map, not_forall]
  simp only [Classical.not_imp, bne_iff_ne, ne_eq, not_not, @eq_comm _ location]

theorem nameIn?_eq_some_iff :
    nameIn? directory location = some name ↔ location = directory ++ [name] := by
  rw [nameIn?]
  constructor
  · intro last
    split at last
    · next inside =>
      obtain ⟨around, rfl⟩ := List.getLast?_eq_some_iff.1 last
      rw [← inside, List.dropLast_concat]
    · cases last
  · rintro rfl
    rw [List.dropLast_concat, if_pos rfl, List.getLast?_concat]

theorem names_eq (files : FileSystem) (directory : Location) :
    files.names directory =
      (files.locations.filterMap (nameIn? directory)).mergeSort Text.byteOrder := by
  rw [locations, List.filterMap_map]
  rfl

theorem mem_names_iff : name ∈ files.names directory ↔ files.item? (directory ++ [name]) ≠ none := by
  rw [names_eq, List.mem_mergeSort, List.mem_filterMap, ← mem_locations_iff (by simp)]
  simp only [nameIn?_eq_some_iff, exists_eq_right]

/-! ## Trees -/

theorem item?_dropLast (found : files.item? location ≠ none) :
    files.item? location.dropLast = some .directory := by
  by_cases top : location = []
  · rw [top]
    rfl
  · obtain ⟨entry, held, rfl⟩ := List.mem_map.1 ((mem_locations_iff top).2 found)
    exact files.tree.around entry held

theorem isName_of_mem_names (held : name ∈ files.names directory) : IsName name := by
  obtain ⟨item, found⟩ := Option.ne_none_iff_exists'.1 (mem_names_iff.1 held)
  exact isName_of_item? found (by simp)

theorem directory_of_mem_names (held : name ∈ files.names directory) :
    files.item? directory = some .directory := by
  have around := item?_dropLast (mem_names_iff.1 held)
  rwa [List.dropLast_concat] at around

/-! ## Depth -/

theorem item?_take (found : files.item? location ≠ none) (depth : Nat) :
    files.item? (location.take depth) ≠ none := by
  induction location using List.reverseRecOn with
  | nil => rwa [List.take_nil]
  | append_singleton around name ih =>
      by_cases whole : (around ++ [name]).length ≤ depth
      · rwa [List.take_of_length_le whole]
      · have shorter : depth ≤ around.length := by
          simp only [List.length_append, List.length_singleton] at whole
          omega
        rw [List.take_append_of_le_length shorter]
        apply ih
        have parent := item?_dropLast found
        rw [List.dropLast_concat] at parent
        rw [parent]
        exact nofun

/-- The locations around an item have an entry each, and so has the item itself. -/
theorem length_le_of_item?_ne (found : files.item? location ≠ none) :
    location.length ≤ files.items.length := by
  have distinct : ((List.range location.length).map fun depth =>
      location.take (depth + 1)).Nodup := by
    refine List.Nodup.map_on ?_ List.nodup_range
    intro depth inside other bounded same
    have lengths := congrArg List.length same
    rw [List.mem_range] at inside bounded
    rw [List.length_take, List.length_take] at lengths
    omega
  have held : ((List.range location.length).map fun depth => location.take (depth + 1)) ⊆
      files.locations := by
    intro around listed
    obtain ⟨depth, inside, rfl⟩ := List.mem_map.1 listed
    rw [List.mem_range] at inside
    have strictly : location.take (depth + 1) ≠ [] := by
      rw [← List.length_pos_iff, List.length_take]
      omega
    exact (mem_locations_iff strictly).2 (item?_take found (depth + 1))
  simpa [locations] using (List.subperm_of_subset distinct held).length_le

/-! ## Paths of entries -/

theorem follow_append (files : FileSystem) (start : Location) (front behind : List String) :
    files.follow start (front ++ behind) =
      (files.follow start front).bind fun location => files.follow location behind := by
  induction front generalizing start with
  | nil => rfl
  | cons segment rest ih =>
      rw [List.cons_append, follow, follow]
      split
      · rfl
      · rfl
      · split
        · exact ih start
        · split
          · exact ih start.dropLast
          · exact ih (start ++ [segment])

/-- Segments that count for nothing lead on from a directory to itself. -/
theorem follow_idle (files : FileSystem) (start : Location) {segments : List String}
    (filled : segments ≠ []) (idle : ∀ segment ∈ segments, PathText.isIdle segment = true)
    (name : String) :
    ((files.follow start segments).bind fun location => files.follow location [name]) =
      files.follow start [name] := by
  induction segments with
  | nil => exact absurd rfl filled
  | cons segment rest ih =>
      rw [follow]
      split
      · next found => rw [follow, found]; rfl
      · next found => rw [follow, found]; rfl
      · rw [if_pos (idle segment List.mem_cons_self)]
        by_cases last : rest = []
        · rw [last]
          rfl
        · exact ih last fun other inside => idle other (List.mem_cons_of_mem _ inside)

/-- Where a path starts. -/
def origin (files : FileSystem) (path : String) : Location :=
  if path.startsWith "/" then [] else files.workingDirectory

theorem locate_eq_follow (files : FileSystem) {path : String} (filled : path ≠ "") :
    files.locate path = files.follow (files.origin path) (PathText.segments path) := by
  have some_text : path.isEmpty = false := by simpa using filled
  rw [locate, if_neg (by simp [some_text]), origin]
  split <;> rfl

/-- The path of an entry leads to its directory first, and from there to the entry.
Without a name it leads to the directory, except that a path has to have a text. -/
theorem locate_entryPath (files : FileSystem) {path name : String} (filled : path ≠ "")
    (named : PathText.isHere path = true → name ≠ "") (whole : '/' ∉ name.toList) :
    files.locate (entryPath path name) =
      (files.locate path).bind fun location => files.follow location [name] := by
  rw [locate_eq_follow files filled]
  have unrooted := PathText.startsWith_slash_eq_false whole
  by_cases here : PathText.isHere path = true
  · obtain ⟨idle, relative⟩ := PathText.segments_of_isHere here
    have alike : files.origin name = files.origin path := by
      rw [origin, origin, unrooted, relative]
    rw [entryPath, if_pos here, locate_eq_follow files (named here), alike,
      follow_idle files _ (PathText.segments_ne_nil path) idle, PathText.segments_of_notMem whole]
  · have some_text : path.isEmpty = false := by simpa using filled
    have alike : ∀ rest, files.origin (path ++ rest) = files.origin path := by
      intro rest
      rw [origin, origin, PathText.startsWith_slash_append filled]
    have joined : ∀ rest, path ++ rest ≠ "" := by simp [filled]
    rw [entryPath, if_neg here, PathText.join, if_neg (by simp [some_text, unrooted])]
    split
    · next slashed =>
      -- The empty segment behind the last slash asks for a directory, as the name does.
      rw [locate_eq_follow files (joined name), alike]
      obtain ⟨before, rfl⟩ := PathText.endsWith_slash_iff.1 slashed
      have last : PathText.segments (before ++ "/") = PathText.segments before ++ [""] := by
        have cut := PathText.segments_append before ""
        rwa [String.append_empty] at cut
      rw [PathText.segments_append, PathText.segments_of_notMem whole, last, follow_append,
        follow_append]
      cases files.follow (files.origin (before ++ "/")) (PathText.segments before) with
      | error error => rfl
      | ok location =>
          have idle : ∀ segment ∈ [""], PathText.isIdle segment = true := by
            simp [PathText.isIdle]
          exact (follow_idle files location (by simp) idle name).symm
    · rw [String.append_assoc, locate_eq_follow files (joined _), alike, ← String.append_assoc,
        PathText.segments_append, PathText.segments_of_notMem whole, follow_append]

theorem locate_entry {path : String}
    (leads : files.locate path = .ok directory)
    (held : files.item? directory = some .directory) (named : IsName name) :
    files.locate (entryPath path name) = .ok (directory ++ [name]) := by
  have filled : path ≠ "" := by
    rintro rfl
    cases leads
  rw [locate_entryPath files filled (fun _ => named.1) named.2.2.2, leads]
  show files.follow directory [name] = _
  rw [follow, held]
  simp only [named.isIdle, Bool.false_eq_true, if_false, named.2.2.1]
  rfl

theorem isDirectory_of_not_pathExists {path : String} (absent : files.pathExists path = false) :
    files.isDirectory path = false := by
  rw [pathExists, Option.isSome_eq_false_iff, Option.isNone_iff_eq_none] at absent
  rw [isDirectory, absent]
  rfl

/-- No path leads through something that is not a directory. -/
theorem pathExists_entryPath {path name : String} (filled : path ≠ "")
    (whole : '/' ∉ name.toList) (closed : files.isDirectory path = false) :
    files.pathExists (entryPath path name) = false := by
  have lost : files.find? (entryPath path name) = none := by
    by_cases untold : PathText.isHere path = true ∧ name = ""
    · rw [untold.2, entryPath, if_pos untold.1]
      rfl
    have named : PathText.isHere path = true → name ≠ "" :=
      fun here unnamed => untold ⟨here, unnamed⟩
    rw [find?, locate_entryPath files filled named whole]
    cases leads : files.locate path with
    | error error => rfl
    | ok location =>
        have other : files.item? location ≠ some .directory := by
          intro held
          rw [isDirectory_iff.2 ⟨location, leads, held⟩] at closed
          cases closed
        rw [Except.bind, follow]
        cases found : files.item? location with
        | none => rfl
        | some item =>
          cases item with
          | file content => rfl
          | directory => exact absurd found other
  rw [pathExists, lost]
  rfl

/-! ## Searches at any depth -/

theorem mem_namesIn_iff {path name : String} : name ∈ files.namesIn path ↔
    ∃ location, files.locate path = .ok location ∧ name ∈ files.names location := by
  rw [namesIn]
  cases files.locate path with
  | error error => simp
  | ok location => simp

theorem below_succ {depth : Nat} {path : String}
    (leads : files.locate path = .ok location)
    (deep : files.items.length < depth + location.length) :
    files.below (depth + 1) path = files.below depth path := by
  induction depth generalizing path location with
  | zero =>
      have nothing : files.namesIn path = [] := by
        rw [List.eq_nil_iff_forall_not_mem]
        intro name held
        obtain ⟨found, same, listed⟩ := mem_namesIn_iff.1 held
        rw [leads, Except.ok.injEq] at same
        subst same
        have bounded := length_le_of_item?_ne
          (by rw [directory_of_mem_names listed]; exact nofun)
        omega
      rw [below, below, nothing, List.flatMap_nil]
  | succ depth ih =>
      rw [below, below]
      refine List.flatMap_congr fun name held => ?_
      obtain ⟨found, same, listed⟩ := mem_namesIn_iff.1 held
      rw [leads, Except.ok.injEq] at same
      subst same
      have entry := locate_entry leads (directory_of_mem_names listed)
        (isName_of_mem_names listed)
      dsimp only
      rw [ih entry (by rw [List.length_append, List.length_singleton]; omega)]

/-- One step down for every item is enough. -/
theorem below_of_deep {depth other : Nat} (deep : files.items.length < depth)
    (deeper : depth ≤ other) (path : String) : files.below other path = files.below depth path := by
  induction other, deeper using Nat.le_induction with
  | base => rfl
  | succ other deeper ih =>
      rw [← ih]
      cases leads : files.locate path with
      | ok location => exact below_succ leads (by omega)
      | error error =>
          have nothing : files.namesIn path = [] := by rw [namesIn, leads]
          cases other with
          | zero => rw [below, below, nothing, List.flatMap_nil]
          | succ other => rw [below, below, nothing, List.flatMap_nil, List.flatMap_nil]

/-- What is below a directory goes by the path of an entry. -/
theorem exists_of_mem_below {depth : Nat} {path : String} {entry : String × String}
    (listed : entry ∈ files.below depth path) :
    ∃ around, entry.2 = entryPath around entry.1 ∧ entry.1 ∈ files.namesIn around := by
  induction depth generalizing path with
  | zero => cases listed
  | succ depth ih =>
      rw [below, List.mem_flatMap] at listed
      obtain ⟨name, held, inside⟩ := listed
      rcases List.mem_cons.1 inside with rfl | deeper
      · exact ⟨path, rfl, held⟩
      · split at deeper
        · exact ih deeper
        · cases deeper

end FileSystem

end YamlShape.Files
