/-
# YamlShape.Proofs.Files -- what accesses leave alone

There are two ways to change a file system.  Making directories puts directories where
there was nothing, and leaves those it made when it fails on the way
(`grown_makePath`).  Writing a file either fails before the file is opened, and then it
changes nothing, or it puts there what came through, all of it or a part
(`writeText_cases`).

A path is followed through directories.  Neither way takes a directory away, so what a
path led to before it leads to afterwards (`follow_of_directories`), and a file that
was written is found under the path that it was written to.  That there is room for it
comes from the path as well: all names that a path leads to can be written in one
(`isName_of_locate`).
-/
import YamlShape.Files.FileSystem
import YamlShape.Proofs.Paths

namespace YamlShape.Files

set_option autoImplicit false

open PathText (IsName)

namespace FileSystem

variable {before between after files : FileSystem} {location other : Location} {item : Item}

/-! ## An item is put -/

theorem item?_put (room : Admits files.items location item) (other : Location) :
    (files.put location item).item? other =
      if other = location then some item else files.item? other := by
  rw [put, dif_pos room]
  exact itemAt?_setItem room.inside other

theorem fault?_put (files : FileSystem) (location : Location) (item : Item) :
    (files.put location item).fault? = files.fault? := by
  rw [put]
  split <;> rfl

theorem workingDirectory_put (files : FileSystem) (location : Location) (item : Item) :
    (files.put location item).workingDirectory = files.workingDirectory := by
  rw [put]
  split <;> rfl

/-- No directory is taken away. -/
theorem directory_put (directory : files.item? other = some .directory) :
    (files.put location item).item? other = some .directory := by
  rw [put]
  split
  · next room => exact room.directory_of_directory directory
  · exact directory

theorem ne_nil_of_item?_ne (free : files.item? location ≠ some .directory) : location ≠ [] := by
  rintro rfl
  exact free rfl

/-- All names of an item can be written in a path. -/
theorem isName_of_item? (found : files.item? location = some item) {name : String}
    (inside : name ∈ location) : IsName name := by
  rw [item?, itemAt?, if_neg (List.ne_nil_of_mem inside), List.lookup_eq_some_iff] at found
  obtain ⟨_, _, whole, _⟩ := found
  exact files.tree.named (location, item) (whole ▸ by simp) name inside

theorem isDirectory_iff {path : String} : files.isDirectory path = true ↔
    ∃ location, files.locate path = .ok location ∧ files.item? location = some .directory := by
  rw [isDirectory, decide_eq_true_eq, find?]
  cases files.locate path with
  | error error => simp
  | ok location => simp

/-! ## Files that are kept -/

/-- There is a file after an access just where there was one before, with the same
bytes in it; of directories nothing is said. -/
def SameFileAt (before after : FileSystem) (location : Location) : Prop :=
  ∀ content, after.item? location = some (.file content) ↔
    before.item? location = some (.file content)

theorem SameFileAt.of_eq {location : Location}
    (same : after.item? location = before.item? location) : SameFileAt before after location := by
  intro content
  rw [same]

theorem SameFileAt.trans {location : Location} (first : SameFileAt before between location)
    (second : SameFileAt between after location) : SameFileAt before after location :=
  fun content => (second content).trans (first content)

/-! ## Directories are made -/

/-- Nothing came in but directories, each where there was nothing. -/
structure Grown (before after : FileSystem) : Prop where
  kept : ∀ location, after.item? location = before.item? location ∨
    before.item? location = none ∧ after.item? location = some .directory
  device : after.fault? = before.fault?

theorem Grown.refl (files : FileSystem) : Grown files files where
  kept _ := .inl rfl
  device := rfl

theorem Grown.trans (first : Grown before between) (second : Grown between after) :
    Grown before after where
  device := second.device.trans first.device
  kept location := by
    rcases second.kept location with same | ⟨free, made⟩
    · rw [same]
      exact first.kept location
    · rcases first.kept location with kept | ⟨_, taken⟩
      · exact .inr ⟨kept ▸ free, made⟩
      · rw [taken] at free
        cases free

theorem Grown.sameFileAt (grown : Grown before after) (location : Location) :
    SameFileAt before after location := by
  intro content
  rcases grown.kept location with same | ⟨free, made⟩
  · rw [same]
  · rw [free, made]
    constructor
    · intro directory
      cases directory
    · intro nothing
      cases nothing

theorem grown_put (free : files.item? location = none) :
    Grown files (files.put location .directory) where
  device := fault?_put files location .directory
  kept other := by
    by_cases room : Admits files.items location .directory
    · rw [item?_put room]
      by_cases same : other = location
      · rw [if_pos same, same]
        exact .inr ⟨free, rfl⟩
      · rw [if_neg same]
        exact .inl rfl
    · rw [put, dif_neg room]
      exact .inl rfl

theorem grown_makeDirectory {path : String} {made : FileSystem}
    (success : files.makeDirectory path = .ok made) : Grown files made := by
  cases located : files.locate path with
  | error error =>
      simp only [makeDirectory, located, bind, Except.bind] at success
      cases success
  | ok location =>
      simp only [makeDirectory, located, bind, Except.bind] at success
      split at success
      · cases success
      · next free _ =>
        cases success
        exact grown_put free
      · cases success
      · cases success

/-- Whether or not all directories could be made, nothing else has changed. -/
theorem grown_makeDirectories (files : FileSystem) (depth : Nat) (path : String) :
    Grown files (files.makeDirectories depth path).1 := by
  induction depth generalizing path with
  | zero => exact .refl files
  | succ depth ih =>
      rw [makeDirectories]
      split
      · exact .refl files
      · split
        · next made success => exact grown_makeDirectory success
        · dsimp only
          -- The directories around it come first; they stay, also when it cannot be made.
          split
          · exact .refl files
          · next parent _ =>
            split
            · exact ih parent
            · split
              · next made success => exact (ih parent).trans (grown_makeDirectory success)
              · exact ih parent
        · exact .refl files

theorem grown_makePath (files : FileSystem) (path : String) :
    Grown files (files.makePath path).1 :=
  grown_makeDirectories files _ path

/-! ## Paths are followed through directories -/

/-- A path leads on where all directories are still directories. -/
theorem follow_of_directories
    (kept : ∀ location, before.item? location = some .directory →
      after.item? location = some .directory) {segments : List String} {start location : Location}
    (leads : before.follow start segments = .ok location) :
    after.follow start segments = .ok location := by
  induction segments generalizing start with
  | nil => exact leads
  | cons segment rest ih =>
      unfold follow at leads ⊢
      cases found : before.item? start with
      | none =>
          rw [found] at leads
          cases leads
      | some item =>
          cases item with
          | file content =>
              rw [found] at leads
              cases leads
          | directory =>
              rw [found] at leads
              rw [kept start found]
              dsimp only at leads ⊢
              split at leads
              · next idle =>
                rw [if_pos idle]
                exact ih leads
              · next named =>
                rw [if_neg named]
                split at leads
                · next up =>
                  rw [if_pos up]
                  exact ih leads
                · next down =>
                  rw [if_neg down]
                  exact ih leads

theorem locate_of_directories
    (kept : ∀ location, before.item? location = some .directory →
      after.item? location = some .directory)
    (start : after.workingDirectory = before.workingDirectory) {path : String}
    {location : Location} (leads : before.locate path = .ok location) :
    after.locate path = .ok location := by
  unfold locate at leads ⊢
  split at leads
  · cases leads
  · next named =>
    rw [if_neg named]
    split at leads
    · next rooted =>
      rw [if_pos rooted]
      exact follow_of_directories kept leads
    · next relative =>
      rw [if_neg relative, start]
      exact follow_of_directories kept leads

/-- A path leads by names that can be written in a path. -/
theorem isName_of_follow {segments : List String} {start : Location}
    (clear : ∀ segment ∈ segments, '/' ∉ segment.toList) (named : ∀ name ∈ start, IsName name)
    (leads : files.follow start segments = .ok location) : ∀ name ∈ location, IsName name := by
  induction segments generalizing start with
  | nil =>
      cases leads
      exact named
  | cons segment rest ih =>
      obtain ⟨whole, others⟩ := List.forall_mem_cons.1 clear
      rw [follow] at leads
      split at leads
      · cases leads
      · cases leads
      · split at leads
        · exact ih others named leads
        · next counts =>
          split at leads
          · refine ih others (fun name inside => ?_) leads
            exact named name (List.dropLast_subset start inside)
          · next down =>
            refine ih others (fun name inside => ?_) leads
            rcases List.mem_append.1 inside with above | last
            · exact named name above
            · rw [List.mem_singleton.1 last]
              simp only [PathText.isIdle, Bool.or_eq_true, not_or, String.isEmpty_iff,
                decide_eq_true_eq] at counts
              exact ⟨counts.1, counts.2, down, whole⟩

theorem isName_of_locate {path : String} (leads : files.locate path = .ok location) :
    ∀ name ∈ location, IsName name := by
  have clear : ∀ segment ∈ PathText.segments path, '/' ∉ segment.toList :=
    fun _ => PathText.notMem_of_mem_segments
  rw [locate] at leads
  split at leads
  · cases leads
  · split at leads
    · exact isName_of_follow clear (fun _ inside => absurd inside List.not_mem_nil) leads
    · -- the starting directory is looked up before anything else
      cases cut : PathText.segments path with
      | nil => exact absurd cut (PathText.segments_ne_nil path)
      | cons first rest =>
          cases found : files.item? files.workingDirectory with
          | none =>
              rw [cut, follow, found] at leads
              cases leads
          | some item => exact isName_of_follow clear (fun _ => isName_of_item? found) leads

theorem locate_put {path : String} {led : Location} (leads : files.locate path = .ok led) :
    (files.put location item).locate path = .ok led :=
  locate_of_directories (fun _ => directory_put) (workingDirectory_put files location item) leads

/-! ## A file is written, and read -/

theorem readText_of_item? {path text : String}
    (leads : files.locate path = .ok location)
    (held : files.item? location = some (.file text.toByteArray)) :
    files.readText path = .ok text := by
  have decoded : String.fromUTF8? text.toByteArray = some text := by
    rw [String.fromUTF8?, dif_pos text.isValidUTF8]
    rfl
  simp only [readText, leads, held, decoded, bind, Except.bind]

theorem openError?_eq_none_iff : files.openError? location = none ↔
    files.item? location ≠ some .directory ∧
      files.item? location.dropLast = some .directory := by
  rw [openError?]
  split <;> simp_all

/-- Where a path leads there is room for a file that can be opened. -/
theorem admits_of_locate {path : String} (leads : files.locate path = .ok location)
    (opens : files.openError? location = none) (content : ByteArray) :
    Admits files.items location (.file content) := by
  obtain ⟨free, around⟩ := openError?_eq_none_iff.1 opens
  exact ⟨ne_nil_of_item?_ne free, isName_of_locate leads, around, .inr free⟩

/-- No directory comes in where a file is put, and none goes. -/
theorem directory_put_file_iff {content : ByteArray} :
    (files.put other (.file content)).item? location = some .directory ↔
      files.item? location = some .directory := by
  refine ⟨fun directory => ?_, directory_put⟩
  by_cases room : Admits files.items other (.file content)
  · rw [item?_put room] at directory
    split at directory
    · cases directory
    · exact directory
  · rwa [put, dif_neg room] at directory

/-- A file that is put leaves room for others. -/
theorem Admits.put_file {content more : ByteArray}
    (room : Admits files.items location (.file content)) :
    Admits (files.put other (.file more)).items location (.file content) := by
  rcases room.free with directory | free
  · cases directory
  · exact ⟨room.inside, room.named, directory_put room.around,
      .inr (mt directory_put_file_iff.1 free)⟩

theorem writeText_eq_writeAt {path : String} (slashless : path.endsWith "/" = false)
    (leads : files.locate path = .ok location) (text : String) :
    files.writeText path text = files.writeAt location text := by
  rw [writeText, slashless, leads]
  rfl

theorem writeAt_of_whole {text : String} (opens : files.openError? location = none)
    (whole : files.fault? location text.toByteArray = none) :
    files.writeAt location text = (files.put location (.file text.toByteArray), none) := by
  simp only [writeAt, opens, whole]

theorem writeAt_of_brokenOff {text : String} {written : Nat} {error : FileError}
    (opens : files.openError? location = none)
    (broken : files.fault? location text.toByteArray = some (.brokenOff written error)) :
    files.writeAt location text =
      (files.put location (.file (text.toByteArray.extract 0 written)), some error) := by
  simp only [writeAt, opens, broken]

/-- A write changes nothing, or it puts all of a text where its path leads, or it fails and
leaves a beginning there. -/
theorem writeText_cases (files : FileSystem) (path text : String) :
    (∃ error, files.writeText path text = (files, some error)) ∨
    ∃ location, files.locate path = .ok location ∧ files.openError? location = none ∧
      ((files.fault? location text.toByteArray = none ∧
        files.writeText path text = (files.put location (.file text.toByteArray), none)) ∨
      ∃ written error,
        files.fault? location text.toByteArray = some (.brokenOff written error) ∧
        files.writeText path text =
          (files.put location (.file (text.toByteArray.extract 0 written)), some error)) := by
  cases slashed : path.endsWith "/" with
  | true =>
      rw [writeText, if_pos slashed]
      left
      split
      · exact ⟨_, rfl⟩
      · exact ⟨_, rfl⟩
  | false =>
      cases located : files.locate path with
      | error error =>
          rw [writeText, slashed, located]
          exact .inl ⟨error, rfl⟩
      | ok location =>
          rw [writeText_eq_writeAt slashed located]
          cases opens : files.openError? location with
          | some error => exact .inl ⟨error, by simp only [writeAt, opens]⟩
          | none =>
              cases failed : files.fault? location text.toByteArray with
              | none =>
                  have whole := writeAt_of_whole opens failed
                  exact .inr ⟨location, rfl, opens, .inl ⟨failed, whole⟩⟩
              | some fault =>
                  cases fault with
                  | unopened error => exact .inl ⟨error, by simp only [writeAt, opens, failed]⟩
                  | brokenOff written error =>
                      have part := writeAt_of_brokenOff opens failed
                      exact .inr ⟨location, rfl, opens, .inr ⟨written, error, failed, part⟩⟩

end FileSystem

end YamlShape.Files
