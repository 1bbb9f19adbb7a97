/-
# YamlShape.Proofs.WrittenTrees -- trees that files were written to

Writing a file puts it under a name in a directory that is there, in the place of a file
or of nothing.  Whatever was written in this way, all names being of one kind
(`WroteOnly`), the directories are those from before, so that paths lead where they led
(`WroteOnly.locate_iff`).

A directory can have new names.  The others keep their order, and below a new name there
is nothing; so what is done for all names below a directory comes out as before, when it
does nothing for new names (`WroteOnly.flatMap_below`).
-/
import Mathlib.Data.List.Basic
import YamlShape.Proofs.Trees

namespace YamlShape.Files

set_option autoImplicit false

open PathText (IsName)

namespace FileSystem

variable {files before between after : FileSystem} {named : String → Prop}

/-! ## Files are written under some names -/

/-- Nothing was done but writing files, all of them under certain names. -/
structure WroteOnly (named : String → Prop) (before after : FileSystem) : Prop where
  start : after.workingDirectory = before.workingDirectory
  device : after.fault? = before.fault?
  directory_iff : ∀ location,
    after.item? location = some .directory ↔ before.item? location = some .directory
  kept : ∀ directory name, ¬ named name →
    after.item? (directory ++ [name]) = before.item? (directory ++ [name])
  added : ∃ fresh, after.locations = before.locations ++ fresh ∧
    ∀ location ∈ fresh, ∃ directory name, location = directory ++ [name] ∧ named name ∧
      before.item? location = none ∧ before.item? directory = some .directory

theorem map_fst_setItem (location : Location) (item : Item) (items : List (Location × Item)) :
    (setItem location item items).map Prod.fst =
      if location ∈ items.map Prod.fst then items.map Prod.fst
      else items.map Prod.fst ++ [location] := by
  induction items with
  | nil => rfl
  | cons entry rest ih =>
      by_cases same : entry.1 = location
      · simp [setItem, same]
      · rw [setItem, if_neg same, List.map_cons, ih]
        simp only [List.map_cons, List.mem_cons, Ne.symm same, false_or]
        split <;> rfl

theorem locations_put {location : Location} {item : Item}
    (room : Admits files.items location item) :
    (files.put location item).locations =
      if location ∈ files.locations then files.locations else files.locations ++ [location] := by
  rw [put, dif_pos room]
  exact map_fst_setItem location item files.items

namespace WroteOnly

theorem refl (named : String → Prop) (files : FileSystem) : WroteOnly named files files where
  start := rfl
  device := rfl
  directory_iff _ := .rfl
  kept _ _ _ := rfl
  added := ⟨[], (List.append_nil _).symm, nofun⟩

theorem item?_ne_none (wrote : WroteOnly named before after) {location : Location}
    (found : before.item? location ≠ none) : after.item? location ≠ none := by
  by_cases top : location = []
  · rw [top]
    exact nofun
  · obtain ⟨fresh, keys, _⟩ := wrote.added
    rw [← mem_locations_iff top, keys, List.mem_append]
    exact .inl ((mem_locations_iff top).2 found)

theorem trans (first : WroteOnly named before between) (second : WroteOnly named between after) :
    WroteOnly named before after where
  start := second.start.trans first.start
  device := second.device.trans first.device
  directory_iff location := (second.directory_iff location).trans (first.directory_iff location)
  kept directory name other :=
    (second.kept directory name other).trans (first.kept directory name other)
  added := by
    obtain ⟨fresh, keys, new⟩ := first.added
    obtain ⟨later, all_keys, newer⟩ := second.added
    refine ⟨fresh ++ later, by rw [all_keys, keys, List.append_assoc], ?_⟩
    intro location inside
    rcases List.mem_append.1 inside with early | late
    · exact new location early
    · obtain ⟨directory, name, same, kind, free, around⟩ := newer location late
      refine ⟨directory, name, same, kind, ?_, (first.directory_iff directory).1 around⟩
      by_contra found
      exact first.item?_ne_none found free

end WroteOnly

theorem wroteOnly_put {directory : Location} {name : String} {content : ByteArray}
    (kind : named name) (room : Admits files.items (directory ++ [name]) (.file content)) :
    WroteOnly named files (files.put (directory ++ [name]) (.file content)) where
  start := workingDirectory_put files _ _
  device := fault?_put files _ _
  directory_iff _ := directory_put_file_iff
  kept other other_name unnamed := by
    rw [item?_put room, if_neg]
    intro same
    have names := List.singleton_inj.1 (List.append_inj' same rfl).2
    exact unnamed (names ▸ kind)
  added := by
    by_cases held : directory ++ [name] ∈ files.locations
    · exact ⟨[], by rw [locations_put room, if_pos held, List.append_nil], nofun⟩
    · refine ⟨[directory ++ [name]], by rw [locations_put room, if_neg held], ?_⟩
      intro location inside
      rw [List.mem_singleton] at inside
      subst inside
      have around := room.around
      rw [List.dropLast_concat] at around
      refine ⟨directory, name, rfl, kind, ?_, around⟩
      by_contra found
      exact held ((mem_locations_iff (by simp)).2 found)

/-! ## What is seen of a tree afterwards -/

namespace WroteOnly

theorem locate_iff (wrote : WroteOnly named before after) {path : String} {location : Location} :
    after.locate path = .ok location ↔ before.locate path = .ok location :=
  ⟨locate_of_directories (fun _ => (wrote.directory_iff _).1) wrote.start.symm,
    locate_of_directories (fun _ => (wrote.directory_iff _).2) wrote.start⟩

theorem isDirectory_eq (wrote : WroteOnly named before after) (path : String) :
    after.isDirectory path = before.isDirectory path := by
  rw [Bool.eq_iff_iff, isDirectory_iff, isDirectory_iff]
  simp only [wrote.locate_iff, wrote.directory_iff]

theorem openError?_eq_none_iff (wrote : WroteOnly named before after) (location : Location) :
    after.openError? location = none ↔ before.openError? location = none := by
  rw [FileSystem.openError?_eq_none_iff, FileSystem.openError?_eq_none_iff, ne_eq, ne_eq,
    wrote.directory_iff, wrote.directory_iff]

theorem pathExists_of_before (wrote : WroteOnly named before after) {path : String}
    (found : before.pathExists path = true) : after.pathExists path = true := by
  rw [pathExists, find?] at found ⊢
  cases leads : before.locate path with
  | error error =>
      rw [leads] at found
      cases found
  | ok location =>
      rw [leads] at found
      rw [wrote.locate_iff.2 leads]
      rw [Option.isSome_iff_ne_none] at found ⊢
      exact wrote.item?_ne_none found

end WroteOnly

theorem flatMap_filter {α β : Type} (keep : α → Bool) (step : α → List β) (items : List α) :
    (items.filter keep).flatMap step = items.flatMap fun item =>
      if keep item then step item else [] := by
  induction items with
  | nil => rfl
  | cons item rest ih =>
      rw [List.filter_cons, List.flatMap_cons, ← ih]
      split <;> simp

namespace WroteOnly

/-- The names that a directory had are still there, in the same order. -/
theorem filter_names (wrote : WroteOnly named before after) (directory : Location) :
    (after.names directory).filter (· ∈ before.names directory) = before.names directory := by
  obtain ⟨fresh, keys, new⟩ := wrote.added
  have old : (before.locations.filterMap (nameIn? directory)).filter
      (· ∈ before.names directory) = before.locations.filterMap (nameIn? directory) := by
    rw [List.filter_eq_self]
    intro name listed
    rw [decide_eq_true_eq, names_eq, List.mem_mergeSort]
    exact listed
  have none_new : (fresh.filterMap (nameIn? directory)).filter
      (· ∈ before.names directory) = [] := by
    rw [List.filter_eq_nil_iff]
    intro name listed
    obtain ⟨location, inside, last⟩ := List.mem_filterMap.1 listed
    rw [nameIn?_eq_some_iff] at last
    obtain ⟨_, _, _, _, free, _⟩ := new location inside
    rw [decide_eq_true_eq, mem_names_iff, ← last]
    exact absurd free
  rw [names_eq after, Text.filter_mergeSort, keys, List.filterMap_append, List.filter_append,
    old, none_new, List.append_nil, ← names_eq]

theorem named_of_mem_names (wrote : WroteOnly named before after) {directory : Location}
    {name : String} (listed : name ∈ after.names directory)
    (free : before.item? (directory ++ [name]) = none) :
    named name ∧ before.item? directory = some .directory := by
  obtain ⟨fresh, keys, new⟩ := wrote.added
  rw [mem_names_iff, ← mem_locations_iff (by simp), keys] at listed
  rcases List.mem_append.1 listed with early | late
  · exact absurd free ((mem_locations_iff (by simp)).1 early)
  · obtain ⟨other, written, same, kind, _, around⟩ := new _ late
    obtain ⟨rfl, names⟩ := List.append_inj' same rfl
    exact ⟨List.singleton_inj.1 names ▸ kind, around⟩

/-- What is done for every name of a directory is done as before, when nothing is done for
the names that came in. -/
theorem flatMap_names {β : Type} (wrote : WroteOnly named before after) {directory : Location}
    (step : String → List β) (idle : ∀ name, named name →
      before.item? (directory ++ [name]) = none →
      before.item? directory = some .directory → step name = []) :
    (after.names directory).flatMap step = (before.names directory).flatMap step := by
  rw [← wrote.filter_names directory, flatMap_filter]
  refine List.flatMap_congr fun name listed => ?_
  by_cases known : name ∈ before.names directory
  · rw [if_pos (decide_eq_true known)]
  · have free : before.item? (directory ++ [name]) = none := by
      by_contra found
      exact known (mem_names_iff.2 found)
    obtain ⟨kind, around⟩ := wrote.named_of_mem_names listed free
    rw [if_neg (by simpa using known), idle name kind free around]

section

variable (wrote : WroteOnly named before after) (legal : ∀ name, named name → IsName name)

include wrote legal

theorem flatMap_namesIn {β : Type} {path : String} (step : String → List β)
    (idle : ∀ name, named name → after.isDirectory (entryPath path name) = false →
      step name = []) :
    (after.namesIn path).flatMap step = (before.namesIn path).flatMap step := by
  cases leads : before.locate path with
  | error error =>
      have lost : after.namesIn path = [] := by
        rw [List.eq_nil_iff_forall_not_mem]
        intro name held
        obtain ⟨location, led, _⟩ := mem_namesIn_iff.1 held
        rw [wrote.locate_iff, leads] at led
        cases led
      rw [lost, namesIn, leads]
  | ok location =>
      rw [namesIn, namesIn, leads, wrote.locate_iff.2 leads]
      refine wrote.flatMap_names step fun name kind free around => idle name kind ?_
      rw [wrote.isDirectory_eq, Bool.eq_false_iff, ne_eq, isDirectory_iff,
        locate_entry leads around (legal name kind)]
      rintro ⟨entry, same, held⟩
      rw [← Except.ok.inj same, free] at held
      cases held

/-- What is done for everything below a directory, in the same way. -/
theorem flatMap_below {β : Type} (step : String × String → List β)
    (idle : ∀ name path, named name → path ≠ "" → after.isDirectory path = false →
      step (name, path) = []) (depth : Nat) (path : String) :
    (after.below depth path).flatMap step = (before.below depth path).flatMap step := by
  induction depth generalizing path with
  | zero => rfl
  | succ depth ih =>
      rw [below, below, List.flatMap_assoc, List.flatMap_assoc, flatMap_namesIn wrote legal]
      · refine List.flatMap_congr fun name _ => ?_
        dsimp only
        rw [List.flatMap_cons, List.flatMap_cons, wrote.isDirectory_eq]
        split
        · rw [ih]
        · rfl
      · intro name kind closed
        dsimp only
        rw [closed, List.flatMap_cons,
          idle name _ kind (PathText.entryPath_ne_empty path (legal name kind).1) closed]
        rfl

end

end WroteOnly

end FileSystem

end YamlShape.Files
