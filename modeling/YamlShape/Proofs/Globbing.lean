/-
# YamlShape.Proofs.Globbing -- globs that do not see what was written

Writing a file can bring in a name that a glob meets on its way.  The file is no
directory, so nothing is below it and no path leads through it; it can only be found by
the last segment of the glob.  When that segment fits none of the written names, the glob
stands for the same paths, in the same order, as before (`WroteOnly.glob_eq`).

The paths that it stands for are those of entries whose names fit its last segment
(`exists_of_mem_glob`).
-/
import YamlShape.Proofs.Patterns
import YamlShape.Proofs.WrittenTrees

namespace YamlShape.Files

set_option autoImplicit false

open PathText (IsName)

namespace FileSystem

variable {files before after : FileSystem} {named : String → Prop}

/-! ## Globs -/

theorem namesIn_of_not_directory {path : String} (closed : files.isDirectory path = false) :
    files.namesIn path = [] := by
  rw [List.eq_nil_iff_forall_not_mem]
  intro name held
  obtain ⟨location, leads, listed⟩ := mem_namesIn_iff.1 held
  rw [isDirectory_iff.2 ⟨location, leads, directory_of_mem_names listed⟩] at closed
  cases closed

theorem ne_empty_of_mem_dotPaths {directory path : String} {pattern : Pattern}
    (listed : path ∈ dotPaths directory pattern) : path ≠ "" := by
  unfold dotPaths at listed
  split at listed
  · obtain ⟨dots, written, same⟩ := List.mem_filterMap.1 listed
    split at same
    · rw [← Option.some.inj same]
      apply PathText.join_ne_empty
      rintro rfl
      simp at written
    · cases same
  · cases listed

theorem entryPath_ne_empty {path name : String} (held : name ∈ files.namesIn path) :
    entryPath path name ≠ "" := by
  obtain ⟨location, _, listed⟩ := mem_namesIn_iff.1 held
  exact PathText.entryPath_ne_empty path (isName_of_mem_names listed).1

/-- A path stands for nothing more when it is not that of a directory. -/
theorem expand_of_not_directory {segments : List GlobSegment} (more : segments ≠ [])
    (whole : SlashFree segments) {path : String} (filled : path ≠ "")
    (closed : files.isDirectory path = false) : files.expand segments path = [] := by
  cases segments with
  | nil => exact absurd rfl more
  | cons segment rest =>
      cases segment with
      | name text =>
          have absent := pathExists_entryPath filled (whole text List.mem_cons_self) closed
          simp [expand, closed, absent]
      | wildcard pattern => simp [expand, closed]
      | anyDirectories =>
          have nothing : files.below (files.items.length + 1) path = [] := by
            rw [below, namesIn_of_not_directory closed, List.flatMap_nil]
          cases rest with
          | nil => rw [expand, nothing]; rfl
          | cons segment rest => rw [expand, nothing]; rfl

/-- The last of some segments, if there are any, is a certain pattern. -/
def EndsIn (pattern : Pattern) (segments : List GlobSegment) : Prop :=
  ∀ last, segments.getLast? = some last → last = .wildcard pattern

section

variable {pattern : Pattern} {segment : GlobSegment} {rest : List GlobSegment}

theorem EndsIn.tail (ends : EndsIn pattern (segment :: rest)) : EndsIn pattern rest := by
  intro last found
  apply ends
  rw [List.getLast?_cons, found, Option.getD_some]

theorem endsIn_of_getLast? {segments : List GlobSegment}
    (found : segments.getLast? = some (.wildcard pattern)) : EndsIn pattern segments := by
  intro last same
  rw [found] at same
  exact (Option.some.inj same).symm

theorem EndsIn.eq_wildcard (ends : EndsIn pattern [segment]) : segment = .wildcard pattern :=
  ends segment rfl

theorem EndsIn.ne_nil (ends : EndsIn pattern (segment :: rest))
    (other : segment ≠ .wildcard pattern) : rest ≠ [] := by
  rintro rfl
  exact other ends.eq_wildcard

end

/-- A segment that fits a written name is not the last, and nothing is behind it. -/
theorem expand_of_named {pattern : Pattern}
    (unfit : ∀ name, named name → pattern.fits name.toList = false) {segment : GlobSegment}
    {rest : List GlobSegment} (ends : EndsIn pattern (segment :: rest)) (whole : SlashFree rest)
    {name path : String} (kind : named name) (filled : path ≠ "")
    (closed : files.isDirectory path = false) :
    (if segment.fits name then files.expand rest path else []) = [] := by
  split
  · next fitting =>
    refine expand_of_not_directory ?_ whole filled closed
    rintro rfl
    rw [ends.eq_wildcard, GlobSegment.fits, unfit name kind] at fitting
    cases fitting
  · rfl

section

variable (wrote : WroteOnly named before after) (legal : ∀ name, named name → IsName name)
  {pattern : Pattern} (unfit : ∀ name, named name → pattern.fits name.toList = false)

include wrote legal unfit

/-- A glob whose last segment fits no written name stands for the same paths as before. -/
theorem WroteOnly.expand_eq : ∀ segments : List GlobSegment, EndsIn pattern segments →
    SlashFree segments → ∀ path : String, path ≠ "" →
    after.expand segments path = before.expand segments path
  | [], _, _, _, _ => rfl
  | .name text :: rest, ends, whole, path, filled => by
      have same := WroteOnly.expand_eq rest ends.tail whole.tail
      rw [expand, expand, wrote.isDirectory_eq]
      by_cases dots : text = "." ∨ text = ".."
      · have written : text ≠ "" := by
          rcases dots with rfl | rfl <;> decide
        rw [if_pos dots, if_pos dots, same _ (PathText.entryPath_ne_empty path written)]
      · rw [if_neg dots, if_neg dots]
        by_cases reached : entryPath path text = ""
        · rw [reached]
          rfl
        · cases found : before.pathExists (entryPath path text) with
          | true => rw [wrote.pathExists_of_before found, if_pos rfl, if_pos rfl, same _ reached]
          | false =>
              -- A path that a written file is found under leads nowhere else.
              have closed : after.isDirectory (entryPath path text) = false := by
                rw [wrote.isDirectory_eq]
                exact isDirectory_of_not_pathExists found
              rw [expand_of_not_directory (ends.ne_nil nofun) whole.tail reached closed]
              simp
  | .wildcard other :: rest, ends, whole, path, filled => by
      have same := WroteOnly.expand_eq rest ends.tail whole.tail
      rw [expand, expand, wrote.isDirectory_eq]
      split
      · next open_path =>
        dsimp only
        rw [List.flatMap_append, List.flatMap_append, List.flatMap_map, List.flatMap_map,
          flatMap_filter, flatMap_filter, flatMap_namesIn wrote legal]
        · congr 1
          · refine List.flatMap_congr fun dots listed => same dots ?_
            exact ne_empty_of_mem_dotPaths listed
          · refine List.flatMap_congr fun name listed => ?_
            rw [same _ (entryPath_ne_empty listed)]
        · intro name kind closed
          exact expand_of_named unfit ends whole.tail kind
            (PathText.entryPath_ne_empty path (legal name kind).1) closed
      · rfl
  | .anyDirectories :: [], ends, _, _, _ => by
      cases ends.eq_wildcard
  | .anyDirectories :: segment :: rest, ends, whole, path, filled => by
      have same := WroteOnly.expand_eq rest ends.tail.tail whole.tail.tail
      have deeper : before.items.length + 1 ≤ after.items.length + 1 := by
        obtain ⟨fresh, keys, _⟩ := wrote.added
        have counted := congrArg List.length keys
        rw [List.length_append, locations, locations, List.length_map, List.length_map] at counted
        omega
      rw [expand, expand, flatMap_below wrote legal, below_of_deep (Nat.lt_succ_self _) deeper]
      · refine List.flatMap_congr fun entry listed => ?_
        obtain ⟨around, path_of_entry, held⟩ := exists_of_mem_below listed
        dsimp only
        rw [same _ (path_of_entry ▸ entryPath_ne_empty held)]
      · intro name path kind filled closed
        exact expand_of_named unfit ends.tail whole.tail.tail kind
          filled closed

/-- A glob for the names of a directory stands for the same paths as before. -/
theorem WroteOnly.glob_eq {front text : String} (place : PathText.IsPlace front)
    (whole : '/' ∉ text.toList) (filled : text ≠ "")
    (last : GlobSegment.read text = .ok (.wildcard pattern)) :
    after.glob (front ++ text) = before.glob (front ++ text) := by
  unfold glob
  cases read : globSegments (front ++ text) with
  | error error => rfl
  | ok segments =>
      obtain ⟨found, clear⟩ := globSegments_of_place place whole filled last read
      have same : ∀ path : String, path ≠ "" →
          after.expand segments path = before.expand segments path :=
        WroteOnly.expand_eq wrote legal unfit segments (endsIn_of_getLast? found) clear
      have started : (if (front ++ text).startsWith "/" then "/" else ".") ≠ "" := by
        split <;> decide
      have filtered : after.isDirectory = before.isDirectory := funext wrote.isDirectory_eq
      simp only [bind, Except.bind, same _ started, filtered]

end

/-- A path that a glob stands for is that of an entry whose name fits its last segment. -/
theorem exists_of_mem_expand {pattern : Pattern} (pointless : pattern.head? ≠ some (.char '.')) :
    ∀ segments : List GlobSegment, segments ≠ [] → EndsIn pattern segments →
    ∀ path found : String, found ∈ files.expand segments path →
    ∃ around name, found = entryPath around name ∧ name ∈ files.namesIn around ∧
      pattern.fits name.toList = true
  | [], more, _, _, _, _ => absurd rfl more
  | .name text :: rest, _, ends, path, found, listed => by
      rw [expand, List.mem_ite_nil_right] at listed
      exact exists_of_mem_expand pointless rest (ends.ne_nil nofun) ends.tail _ found listed.2
  | .wildcard other :: [], _, ends, path, found, listed => by
      cases ends.eq_wildcard
      rw [expand, List.mem_ite_nil_right] at listed
      have undotted : dotPaths path pattern = [] := by rw [dotPaths, if_neg pointless]
      obtain ⟨entry, held, same⟩ := List.mem_flatMap.1 listed.2
      rw [undotted, List.nil_append] at held
      obtain ⟨name, fitting, rfl⟩ := List.mem_map.1 held
      exact ⟨path, name, List.mem_singleton.1 same, List.mem_filter.1 fitting⟩
  | .wildcard other :: segment :: rest, _, ends, path, found, listed => by
      rw [expand, List.mem_ite_nil_right] at listed
      obtain ⟨entry, _, same⟩ := List.mem_flatMap.1 listed.2
      exact exists_of_mem_expand pointless (segment :: rest) nofun ends.tail entry found same
  | .anyDirectories :: [], _, ends, _, _, _ => by
      cases ends.eq_wildcard
  | .anyDirectories :: segment :: [], _, ends, path, found, listed => by
      cases ends.tail.eq_wildcard
      rw [expand] at listed
      obtain ⟨⟨name, entry⟩, held, same⟩ := List.mem_flatMap.1 listed
      obtain ⟨around, path_of_entry, inside⟩ := exists_of_mem_below held
      rw [List.mem_ite_nil_right] at same
      exact ⟨around, name, (List.mem_singleton.1 same.2).trans path_of_entry, inside, same.1⟩
  | .anyDirectories :: segment :: next :: rest, _, ends, path, found, listed => by
      rw [expand] at listed
      obtain ⟨⟨name, entry⟩, _, same⟩ := List.mem_flatMap.1 listed
      rw [List.mem_ite_nil_right] at same
      exact exists_of_mem_expand pointless (next :: rest) nofun ends.tail.tail entry found same.2

theorem exists_of_mem_glob {pattern : Pattern} (pointless : pattern.head? ≠ some (.char '.'))
    {front text : String} (place : PathText.IsPlace front) (whole : '/' ∉ text.toList)
    (filled : text ≠ "") (last : GlobSegment.read text = .ok (.wildcard pattern))
    {paths : List String} (globbed : files.glob (front ++ text) = .ok paths) {path : String}
    (listed : path ∈ paths) : ∃ around name, path = entryPath around name ∧
      name ∈ files.namesIn around ∧ pattern.fits name.toList = true := by
  unfold glob at globbed
  cases read : globSegments (front ++ text) with
  | error error =>
      rw [read] at globbed
      cases globbed
  | ok segments =>
      obtain ⟨found, _⟩ := globSegments_of_place place whole filled last read
      have more : segments ≠ [] := by
        rintro rfl
        cases found
      rw [read] at globbed
      cases globbed
      have expanded : path ∈ files.expand segments
          (if (front ++ text).startsWith "/" then "/" else ".") := by
        split at listed
        · exact List.mem_of_mem_filter listed
        · exact listed
      exact exists_of_mem_expand pointless segments more (endsIn_of_getLast? found) _ path expanded

end FileSystem

end YamlShape.Files
