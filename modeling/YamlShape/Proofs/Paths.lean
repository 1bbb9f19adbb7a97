/-
# YamlShape.Proofs.Paths -- paths of the names in a directory

The path of an entry is a text for the directory with the name behind it.  That text is
the same for all names of the directory (`exists_place_entryPath`), and it is empty or
ends in a slash; so a path for one name becomes a path for another when the name behind
is changed.  This is what another extension does to it (`withExtension_entryPath`).
-/
import Mathlib.Data.List.TakeWhile
import YamlShape.Files.Glob

namespace YamlShape.Files

set_option autoImplicit false

namespace PathText

/-! ## Names -/

theorem IsName.isIdle {name : String} (named : IsName name) : isIdle name = false := by
  simp [PathText.isIdle, named.1, named.2.1]

/-! ## Segments -/

theorem segments_append (front behind : String) :
    segments (front ++ "/" ++ behind) = segments front ++ segments behind := by
  have cut : (front ++ "/" ++ behind).toList = front.toList ++ '/' :: behind.toList := by
    simp
  rw [segments, cut, List.splitOn_append_cons_self, List.map_append]
  rfl

theorem segments_of_notMem {name : String} (whole : '/' ∉ name.toList) :
    segments name = [name] := by
  rw [segments, List.splitOn_eq_singleton whole, List.map_singleton, String.ofList_toList]

theorem intercalate_segments (path : String) : "/".intercalate (segments path) = path := by
  apply String.toList_inj.1
  rw [String.toList_intercalate, segments, List.map_map]
  simp [Function.comp_def, String.toList_ofList]

theorem segments_ne_nil (path : String) : segments path ≠ [] := by
  simp [segments, List.splitOn_ne_nil]

theorem notMem_of_mem_splitOn {mark : Char} {text part : List Char}
    (inside : part ∈ text.splitOn mark) : mark ∉ part := by
  induction text generalizing part with
  | nil =>
      rw [List.splitOn_nil, List.mem_singleton] at inside
      rw [inside]
      exact List.not_mem_nil
  | cons c rest ih =>
      rw [List.splitOn_cons_eq_if_modifyHead] at inside
      split at inside
      · rcases List.mem_cons.1 inside with rfl | behind
        · exact List.not_mem_nil
        · exact ih behind
      · next other =>
        cases parts : rest.splitOn mark with
        | nil => exact absurd parts (List.splitOn_ne_nil mark rest)
        | cons first others =>
            rw [parts, List.modifyHead_cons] at inside
            rw [parts] at ih
            rcases List.mem_cons.1 inside with rfl | behind
            · have clear := ih List.mem_cons_self
              simp only [List.mem_cons, not_or]
              exact ⟨fun same => other (by simp [same]), clear⟩
            · exact ih (List.mem_cons_of_mem _ behind)

theorem notMem_of_mem_segments {path segment : String} (inside : segment ∈ segments path) :
    '/' ∉ segment.toList := by
  obtain ⟨part, held, rfl⟩ := List.mem_map.1 inside
  rw [String.toList_ofList]
  exact notMem_of_mem_splitOn held

/-! ## Texts in front of a name -/

/-- A text that the names of a directory stand behind in their paths. -/
def IsPlace (front : String) : Prop :=
  front = "" ∨ ∃ before, front = before ++ "/"

theorem isPlace_slash (before : String) : IsPlace (before ++ "/") :=
  .inr ⟨before, rfl⟩

theorem endsWith_slash_iff_isSuffix {path : String} :
    path.endsWith "/" = true ↔ "/".toList <:+ path.toList := by
  rw [← String.endsWith_toSlice, String.Slice.endsWith_string_iff, String.copy_toSlice]

theorem endsWith_slash_iff {path : String} : path.endsWith "/" = true ↔
    ∃ before, path = before ++ "/" := by
  rw [endsWith_slash_iff_isSuffix]
  constructor
  · rintro ⟨before, whole⟩
    refine ⟨String.ofList before, String.toList_inj.1 ?_⟩
    rw [String.toList_append, String.toList_ofList, whole]
  · rintro ⟨before, rfl⟩
    exact ⟨before.toList, String.toList_append.symm⟩

theorem startsWith_slash_eq_false {name : String} (whole : '/' ∉ name.toList) :
    name.startsWith "/" = false := by
  rw [Bool.eq_false_iff]
  intro rooted
  obtain ⟨rest, same⟩ := String.startsWith_string_iff.1 rooted
  rw [← same] at whole
  exact whole (by simp)

/-- Whether a path starts at the root is settled by its first character. -/
theorem startsWith_slash_append {path : String} (filled : path ≠ "") (rest : String) :
    (path ++ rest).startsWith "/" = path.startsWith "/" := by
  rw [Bool.eq_iff_iff, String.startsWith_string_iff, String.startsWith_string_iff,
    String.toList_append]
  cases chars : path.toList with
  | nil => exact absurd (String.toList_eq_nil_iff.1 chars) filled
  | cons first others => simp

theorem segments_of_isHere {path : String} (here : isHere path = true) :
    (∀ segment ∈ segments path, isIdle segment = true) ∧ path.startsWith "/" = false := by
  have trimmed_here : trimmed (segments path) = ["."] := by simpa [isHere] using here
  cases cut : segments path with
  | nil => exact absurd cut (segments_ne_nil path)
  | cons first rest =>
      rw [cut, trimmed, List.cons.injEq, List.reverse_eq_nil_iff, List.dropWhile_eq_nil_iff]
        at trimmed_here
      obtain ⟨rfl, idle⟩ := trimmed_here
      refine ⟨?_, Bool.eq_false_iff.2 fun rooted => ?_⟩
      · intro segment inside
        rcases List.mem_cons.1 inside with rfl | behind
        · rfl
        · exact idle segment (List.mem_reverse.2 behind)
      · obtain ⟨behind, whole⟩ := String.startsWith_string_iff.1 rooted
        have split_there : path = "" ++ "/" ++ String.ofList behind := by
          rw [← String.toList_inj, ← whole]
          simp
        have root : segments "" = [""] := rfl
        rw [split_there, segments_append, root] at cut
        exact absurd (List.cons.inj cut).1 (by decide)

/-- The names of a directory are all behind the same text. -/
theorem exists_place_join (directory : String) : ∃ front, IsPlace front ∧
    ∀ name : String, '/' ∉ name.toList → join directory name = front ++ name := by
  by_cases nothing : directory = ""
  · refine ⟨"", .inl rfl, fun name _ => ?_⟩
    simp [join, nothing]
  have filled : directory.isEmpty = false := by simpa using nothing
  by_cases slashed : directory.endsWith "/" = true
  · refine ⟨directory, .inr (endsWith_slash_iff.1 slashed), fun name whole => ?_⟩
    simp [join, filled, startsWith_slash_eq_false whole, slashed]
  · refine ⟨directory ++ "/", isPlace_slash directory, fun name whole => ?_⟩
    simp [join, filled, startsWith_slash_eq_false whole, slashed]

theorem join_ne_empty (directory : String) {name : String} (filled : name ≠ "") :
    join directory name ≠ "" := by
  unfold join
  split
  · exact filled
  · split <;> simp [filled]

theorem entryPath_ne_empty (directory : String) {name : String} (filled : name ≠ "") :
    FileSystem.entryPath directory name ≠ "" := by
  unfold FileSystem.entryPath
  split
  · exact filled
  · exact join_ne_empty directory filled

theorem exists_place_entryPath (directory : String) : ∃ front, IsPlace front ∧
    ∀ name : String, '/' ∉ name.toList →
      FileSystem.entryPath directory name = front ++ name := by
  by_cases here : isHere directory = true
  · refine ⟨"", .inl rfl, fun name _ => ?_⟩
    rw [FileSystem.entryPath, if_pos here, String.empty_append]
  · obtain ⟨front, place, paths⟩ := exists_place_join directory
    refine ⟨front, place, fun name whole => ?_⟩
    rw [FileSystem.entryPath, if_neg here, paths name whole]

/-- The path of an entry ends in a name, not in a slash. -/
theorem endsWith_slash_entryPath (directory : String) {name : String} (named : IsName name) :
    (FileSystem.entryPath directory name).endsWith "/" = false := by
  obtain ⟨filled, _, _, whole⟩ := named
  obtain ⟨front, _, paths⟩ := exists_place_entryPath directory
  rw [paths name whole, Bool.eq_false_iff, ne_eq, endsWith_slash_iff]
  rintro ⟨before, same⟩
  have last := congrArg (fun text => text.toList.getLast?) same
  obtain ⟨c, ends⟩ := Option.ne_none_iff_exists'.1
    (List.getLast?_eq_none_iff.not.2 (String.toList_eq_nil_iff.not.2 filled))
  simp [List.getLast?_append, ends] at last
  exact whole (last ▸ List.mem_of_getLast? ends)

/-! ## Another extension -/

section

variable {front name : String}

/-- The segments of a path whose last one is a name.  A name in front of nothing else is
a path too. -/
theorem exists_segments_of_place (place : IsPlace front) : ∃ around,
    (∀ name : String, '/' ∉ name.toList → segments (front ++ name) = around ++ [name]) ∧
    ∀ name : String, name ≠ "" → ofSegments (around ++ [name]) = front ++ name := by
  rcases place with rfl | ⟨before, rfl⟩
  · refine ⟨[], fun name whole => ?_, fun name filled => ?_⟩
    · rw [String.empty_append, segments_of_notMem whole, List.nil_append]
    · simp [ofSegments, filled]
  · refine ⟨segments before, fun name whole => ?_, fun name filled => ?_⟩
    · rw [segments_append, segments_of_notMem whole]
    · have several : ofSegments (segments before ++ [name]) =
          "/".intercalate (segments before ++ [name]) := by
        unfold ofSegments
        split
        · next alone =>
          have none_before : segments before = [] := by
            have counted := congrArg List.length alone
            simpa using counted
          exact absurd none_before (segments_ne_nil before)
        · rfl
      rw [several, String.intercalate_append_of_ne_nil (segments_ne_nil before) (by simp),
        intercalate_segments, String.intercalate_singleton]

theorem trimmed_concat (around : List String) (named : IsName name) :
    trimmed (around ++ [name]) = around ++ [name] := by
  cases around with
  | nil => rfl
  | cons first rest =>
      simp [trimmed, named.isIdle]

theorem fileName?_of_place (place : IsPlace front) (named : IsName name) :
    fileName? (front ++ name) = some name := by
  obtain ⟨around, cut, _⟩ := exists_segments_of_place place
  unfold fileName?
  rw [cut name named.2.2.2, trimmed_concat around named, List.getLast?_concat]
  obtain ⟨filled, notHere, notUp, _⟩ := named
  split
  · next gone => cases gone
  · next same => exact absurd (Option.some.inj same) filled
  · next same => exact absurd (Option.some.inj same) notHere
  · next same => exact absurd (Option.some.inj same) notUp
  · next same => exact same.symm

theorem withExtension_of_place (place : IsPlace front) (named : IsName name)
    (extension : String) :
    withExtension (front ++ name) extension = front ++ (stem name ++ "." ++ extension) := by
  obtain ⟨around, cut, joined⟩ := exists_segments_of_place place
  have filled : stem name ++ "." ++ extension ≠ "" := by simp
  unfold withExtension
  rw [fileName?_of_place place named, cut name named.2.2.2, trimmed_concat around named,
    List.dropLast_concat]
  exact joined _ filled

/-- With another extension the path of an entry is that of another entry. -/
theorem withExtension_entryPath (directory : String) (named : IsName name)
    {extension : String} (whole : '/' ∉ (stem name ++ "." ++ extension).toList) :
    withExtension (FileSystem.entryPath directory name) extension =
      FileSystem.entryPath directory (stem name ++ "." ++ extension) := by
  obtain ⟨front, place, paths⟩ := exists_place_entryPath directory
  rw [paths name named.2.2.2, withExtension_of_place place named, paths _ whole]

end

/-- What is left of a name without its extension; a name that is nothing but an extension
stays whole. -/
theorem stem_append_yaml (front : String) :
    stem (front ++ ".yaml") = if front = "" then ".yaml" else front := by
  have reversed : ((front ++ ".yaml").toList.reverse.dropWhile (· ≠ '.')) =
      '.' :: front.toList.reverse := by
    simp [String.toList_append]
  unfold stem
  rw [reversed]
  by_cases nothing : front = ""
  · simp [nothing]
  · rw [if_neg nothing]
    split
    · next impossible => cases impossible
    · next alone =>
      exact absurd (by simpa using alone) nothing
    · next before _ same =>
      cases same
      rw [List.reverse_reverse, String.ofList_toList]

end PathText

end YamlShape.Files
