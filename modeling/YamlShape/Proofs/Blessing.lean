/-
# YamlShape.Proofs.Blessing -- what blessing writes

Blessing writes the output of each fixture beside it.  A fixture has a name that ends in
`.yaml`, and its output one that ends in `.go`, so that no output takes the place of a
fixture, and none comes in among the fixtures (`Stands.actualText_eq`, `fixtures_eq`).
What is written for a fixture is therefore settled before anything is written
(`Stands.writes_iff`), and blessing is those writes, one after the other
(`checkFixtures_of_writes`, `exists_writes_of_checkFixtures`).

The name of an output is that of its fixture with another extension.  A name that is
nothing but an extension has none to change: the output of `.yaml` is `.yaml.go`, as is
that of `.yaml.yaml`, and no other names meet (`outputName_eq_iff`).
-/
import YamlShape.GoldenCheck
import YamlShape.Proofs.Globbing
import YamlShape.Proofs.Steps

namespace YamlShape.GoldenCheck

set_option autoImplicit false

open Files
open FileSystem (WroteOnly entryPath)

variable {files before after : FileSystem}

/-! ## Steps of a check -/

theorem actualText_eq_ok_iff {path text : String} : actualText files path = .ok text ↔
    ∃ source documents, files.readText path = .ok source ∧
      Node.ofYaml source = .ok documents ∧ (Generation.run documents {}).render = text := by
  simp only [actualText, bind_eq_ok_iff, mapError_eq_ok_iff, pure, Except.pure,
    Except.ok.injEq, exists_and_left]

theorem checkFixture_bless_eq_ok_iff {path : String} {verdict : Verdict} :
    checkFixture true files path = (after, .ok verdict) ↔
      ∃ text, actualText files path = .ok text ∧
        files.writeText (expectedPath path) text = (after, none) ∧ .blessed = verdict := by
  rw [checkFixture]
  cases actualText files path with
  | error error => simp
  | ok text =>
      cases written : files.writeText (expectedPath path) text with
      | mk left failure => cases failure <;> simp [written]

theorem checkFixture_eq_ok_iff {path : String} {verdict : Verdict} :
    checkFixture false files path = (after, .ok verdict) ↔
      ∃ actual expected, actualText files path = .ok actual ∧
        files.readText (expectedPath path) = .ok expected ∧ files = after ∧
        (if expected = actual then .pass else .fail expected actual) = verdict := by
  rw [checkFixture]
  cases actualText files path with
  | error error => simp
  | ok actual => cases files.readText (expectedPath path) <;> simp

/-- A fixture that is checked is only compared with its output, and the files stay as they
are. -/
theorem checkFixture_fst (files : FileSystem) (path : String) :
    (checkFixture false files path).1 = files := by
  rw [checkFixture]
  cases actualText files path with
  | error error => rfl
  | ok actual => cases files.readText (expectedPath path) <;> simp

/-! ## Fixtures and their outputs -/

/-- The name of the output of a fixture that is named by a text and its extension.  Without
that text the name is nothing but an extension, which stays. -/
def outputName (front : String) : String :=
  (if front = "" then ".yaml" else front) ++ ".go"

/-- The names that outputs are written under. -/
def IsOutputName (name : String) : Prop :=
  PathText.IsName name ∧ ∃ front, name = front ++ ".go"

/-- Where a path of a fixture leads, and where that of its output. -/
structure Stands (files : FileSystem) (path : String) (directory : Location) (front : String) :
    Prop where
  leads : files.locate path = .ok (directory ++ [front ++ ".yaml"])
  beside : files.locate (expectedPath path) = .ok (directory ++ [outputName front])
  slashless : (expectedPath path).endsWith "/" = false
  clear : '/' ∉ front.toList

theorem getLast?_append_go (front : String) : (front ++ ".go").toList.getLast? = some 'o' := by
  simp [List.getLast?_append]

theorem isOutputName_append_go {front : String} (clear : '/' ∉ front.toList) :
    IsOutputName (front ++ ".go") := by
  have unlike : ∀ text : String, text.toList.getLast? ≠ some 'o' → front ++ ".go" ≠ text := by
    rintro _ other rfl
    exact other (getLast?_append_go front)
  exact ⟨⟨unlike "" (by decide), unlike "." (by decide), unlike ".." (by decide),
    by simpa using clear⟩, front, rfl⟩

theorem isOutputName_outputName {front : String} (clear : '/' ∉ front.toList) :
    IsOutputName (outputName front) := by
  apply isOutputName_append_go
  split
  · decide
  · exact clear

theorem not_isOutputName {name : String} (ends : ".yaml".toList <:+ name.toList) :
    ¬ IsOutputName name := by
  rintro ⟨_, front, rfl⟩
  obtain ⟨chars, whole⟩ := ends
  have last := getLast?_append_go front
  rw [← whole, List.getLast?_append] at last
  cases last

/-- Two fixtures have one output only when they are one, or one is named by the extension
alone and the other by that extension twice. -/
theorem outputName_eq_iff {front other : String} : outputName front = outputName other ↔
    front = other ∨ front = "" ∧ other = ".yaml" ∨ front = ".yaml" ∧ other = "" := by
  unfold outputName
  rw [String.append_left_inj]
  by_cases bare : front = ""
  · by_cases other_bare : other = ""
    · simp [bare, other_bare]
    · simp [bare, other_bare, Ne.symm other_bare, @eq_comm _ ".yaml" other]
  · by_cases other_bare : other = ""
    · simp [bare, other_bare]
    · simp [bare, other_bare]

theorem read_star_yaml : GlobSegment.read "*.yaml" =
    .ok (.wildcard (.anyText :: ".yaml".toList.map .char)) := by
  cbv

theorem mem_of_fixtures {directory : String} {paths : List String}
    (listed : fixtures files directory = .ok paths) {path : String} (inside : path ∈ paths) :
    ∃ globbed, files.glob (PathText.join directory "*.yaml") = .ok globbed ∧ path ∈ globbed := by
  unfold fixtures at listed
  split at listed
  · cases listed
  · cases listed
  · next globbed _ found =>
    cases listed
    exact ⟨globbed, found, List.mem_mergeSort.1 inside⟩

theorem expectedPath_entryPath (around : String) {front : String}
    (named : PathText.IsName (front ++ ".yaml")) (clear : '/' ∉ front.toList) :
    expectedPath (entryPath around (front ++ ".yaml")) = entryPath around (outputName front) := by
  have renamed : PathText.stem (front ++ ".yaml") ++ "." ++ "go" = outputName front := by
    rw [PathText.stem_append_yaml, String.append_assoc]
    rfl
  have whole := (isOutputName_outputName clear).1.2.2.2
  rw [expectedPath, PathText.withExtension_entryPath around named (renamed ▸ whole), renamed]

theorem exists_stands {directory : String} {paths : List String}
    (listed : fixtures files directory = .ok paths) {path : String} (inside : path ∈ paths) :
    ∃ around front, Stands files path around front := by
  obtain ⟨globbed, found, held⟩ := mem_of_fixtures listed inside
  obtain ⟨before, place, joined⟩ := PathText.exists_place_join directory
  rw [joined "*.yaml" (by decide)] at found
  obtain ⟨around, name, rfl, entry, fitting⟩ := FileSystem.exists_of_mem_glob (by decide) place
    (by decide) (by decide) read_star_yaml found held
  obtain ⟨chars, whole⟩ := Pattern.fits_anyText_chars.1 fitting
  obtain rfl : name = String.ofList chars ++ ".yaml" := by
    rw [← String.toList_inj, String.toList_append, String.toList_ofList, whole]
  generalize String.ofList chars = front at *
  obtain ⟨location, leads, entry⟩ := FileSystem.mem_namesIn_iff.1 entry
  have directory_there := FileSystem.directory_of_mem_names entry
  have named := FileSystem.isName_of_mem_names entry
  have clear : '/' ∉ front.toList := fun slashed =>
    named.2.2.2 (String.toList_append ▸ List.mem_append_left _ slashed)
  have legal := (isOutputName_outputName clear).1
  have beside := expectedPath_entryPath around named clear
  exact ⟨location, front, FileSystem.locate_entry leads directory_there named,
    beside ▸ FileSystem.locate_entry leads directory_there legal,
    beside ▸ PathText.endsWith_slash_entryPath around legal, clear⟩

theorem Stands.eq_of_locate {path : String} {directory place : Location} {front other : String}
    (stands : Stands files path directory front)
    (leads : files.locate path = .ok (place ++ [other ++ ".yaml"])) :
    directory = place ∧ front = other := by
  obtain ⟨same, names⟩ := List.append_inj' (Except.ok.inj (stands.leads.symm.trans leads)) rfl
  exact ⟨same, (String.append_left_inj ".yaml").1 (List.singleton_inj.1 names)⟩

/-! ## Outputs do not touch fixtures -/

theorem Stands.of_wroteOnly {path : String} {directory : Location} {front : String}
    (stands : Stands before path directory front) (wrote : WroteOnly IsOutputName before after) :
    Stands after path directory front where
  leads := wrote.locate_iff.2 stands.leads
  beside := wrote.locate_iff.2 stands.beside
  slashless := stands.slashless
  clear := stands.clear

theorem Stands.actualText_eq {path : String} {directory : Location} {front : String}
    (stands : Stands before path directory front) (wrote : WroteOnly IsOutputName before after) :
    actualText after path = actualText before path := by
  have ends : ".yaml".toList <:+ (front ++ ".yaml").toList := by
    rw [String.toList_append]
    exact List.suffix_append _ _
  have kept := wrote.kept directory (front ++ ".yaml") (not_isOutputName ends)
  have read : after.readText path = before.readText path := by
    simp only [FileSystem.readText, stands.leads, wrote.locate_iff.2 stands.leads, kept, bind,
      Except.bind]
  rw [actualText, actualText, read]

theorem fixtures_eq (wrote : WroteOnly IsOutputName before after)
    (directory : String) : fixtures after directory = fixtures before directory := by
  obtain ⟨front, place, joined⟩ := PathText.exists_place_join directory
  have unfit : ∀ name, IsOutputName name →
      Pattern.fits (.anyText :: ".yaml".toList.map .char) name.toList = false := by
    intro name output
    rw [Bool.eq_false_iff, ne_eq, Pattern.fits_anyText_chars]
    exact fun ends => not_isOutputName ends output
  have same := wrote.glob_eq (fun _ output => output.1) unfit place (by decide) (by decide)
    read_star_yaml
  rw [fixtures, fixtures, joined "*.yaml" (by decide), same]

/-! ## What blessing writes -/

/-- What blessing a fixture comes to: its output, at a location where a file can be opened
and takes all of it. -/
structure Writes (files : FileSystem) (path : String) (write : Location × String) : Prop where
  leads : files.locate (expectedPath path) = .ok write.1
  text : actualText files path = .ok write.2
  opens : files.openError? write.1 = none
  whole : files.fault? write.1 write.2.toByteArray = none

theorem Writes.room {path : String} {write : Location × String}
    (writes : Writes files path write) :
    Files.Admits files.items write.1 (.file write.2.toByteArray) :=
  FileSystem.admits_of_locate writes.leads writes.opens _

theorem Stands.location_eq {path : String} {directory : Location} {front : String}
    (stands : Stands files path directory front) {write : Location × String}
    (writes : Writes files path write) : write.1 = directory ++ [outputName front] :=
  Except.ok.inj (writes.leads.symm.trans stands.beside)

/-- The files after some texts were written, one after the other. -/
def putTexts (files : FileSystem) (writes : List (Location × String)) : FileSystem :=
  writes.foldl (fun files write => files.put write.1 (.file write.2.toByteArray)) files

/-- There is room for each of some texts. -/
def Room (files : FileSystem) (writes : List (Location × String)) : Prop :=
  ∀ write ∈ writes, Files.Admits files.items write.1 (.file write.2.toByteArray)

theorem item?_putTexts {writes : List (Location × String)} (room : Room files writes)
    (location : Location) :
    (putTexts files writes).item? location =
      ((writes.reverse.lookup location).map fun text => Item.file text.toByteArray).or
        (files.item? location) := by
  induction writes generalizing files with
  | nil => rfl
  | cons write rest ih =>
      obtain ⟨place, text⟩ := write
      rw [Room, List.forall_mem_cons] at room
      rw [putTexts, List.foldl_cons, ← putTexts,
        ih fun other held => FileSystem.Admits.put_file (room.2 other held),
        FileSystem.item?_put room.1, List.reverse_cons, List.lookup_append]
      cases rest.reverse.lookup location with
      | some later => rfl
      | none =>
          by_cases same : location = place
          · simp [same]
          · have missed : (location == place) = false := by simpa using same
            simp [List.lookup_cons, missed, same]

/-- Texts that are written again leave what they left. -/
theorem item?_putTexts_putTexts {writes : List (Location × String)}
    (room : Room files writes) (again : Room (putTexts files writes) writes)
    (location : Location) :
    (putTexts (putTexts files writes) writes).item? location =
      (putTexts files writes).item? location := by
  rw [item?_putTexts again, item?_putTexts room, ← Option.or_assoc, Option.or_self]

/-- After writing, one of the texts that were written to a location is there. -/
theorem exists_text_of_putTexts {writes : List (Location × String)}
    (room : Room files writes) {write : Location × String}
    (held : write ∈ writes) : ∃ text, (write.1, text) ∈ writes ∧
      (putTexts files writes).item? write.1 = some (.file text.toByteArray) := by
  cases found : writes.reverse.lookup write.1 with
  | none =>
      rw [List.lookup_eq_none_iff] at found
      exact absurd (found write (List.mem_reverse.2 held)) (by simp)
  | some text =>
      obtain ⟨earlier, later, split, _⟩ := List.lookup_eq_some_iff.1 found
      refine ⟨text, List.mem_reverse.1 (split ▸ by simp), ?_⟩
      rw [item?_putTexts room, found]
      rfl

/-! ## Blessing -/

theorem Stands.checkFixture_of_writes {path : String} {directory : Location} {front : String}
    (stands : Stands files path directory front) {write : Location × String}
    (writes : Writes files path write) :
    checkFixture true files path =
      (files.put write.1 (.file write.2.toByteArray), .ok .blessed) := by
  have written := FileSystem.writeText_eq_writeAt stands.slashless writes.leads write.2
  rw [FileSystem.writeAt_of_whole writes.opens writes.whole] at written
  exact checkFixture_bless_eq_ok_iff.2 ⟨write.2, writes.text, written, rfl⟩

theorem exists_writes {path : String} {verdict : Verdict}
    (blessed : checkFixture true files path = (after, .ok verdict)) :
    ∃ write, Writes files path write := by
  obtain ⟨text, generated, written, _⟩ := checkFixture_bless_eq_ok_iff.1 blessed
  rcases files.writeText_cases (expectedPath path) text with
    ⟨error, failed⟩ | ⟨location, leads, opens, ⟨whole, _⟩ | ⟨_, _, _, failed⟩⟩
  · rw [failed] at written
    cases written
  · exact ⟨(location, text), leads, generated, opens, whole⟩
  · rw [failed] at written
    cases written

theorem Stands.writes_iff {path : String} {directory : Location} {front : String}
    (stands : Stands before path directory front) (wrote : WroteOnly IsOutputName before after)
    {write : Location × String} : Writes after path write ↔ Writes before path write := by
  have text := stands.actualText_eq wrote
  have opens := wrote.openError?_eq_none_iff write.1
  constructor
  · intro writes
    exact ⟨wrote.locate_iff.1 writes.leads, text ▸ writes.text, opens.1 writes.opens,
      wrote.device ▸ writes.whole⟩
  · intro writes
    exact ⟨wrote.locate_iff.2 writes.leads, text ▸ writes.text, opens.2 writes.opens,
      wrote.device ▸ writes.whole⟩

theorem Stands.wroteOnly_put {path : String} {directory : Location} {front : String}
    (stands : Stands files path directory front) {write : Location × String}
    (writes : Writes files path write) :
    WroteOnly IsOutputName files (files.put write.1 (.file write.2.toByteArray)) := by
  have room := writes.room
  rw [stands.location_eq writes] at room ⊢
  exact FileSystem.wroteOnly_put (isOutputName_outputName stands.clear) room

/-- Paths of fixtures. -/
def AllStand (files : FileSystem) (paths : List String) : Prop :=
  ∀ path ∈ paths, ∃ directory front, Stands files path directory front

section

variable {paths : List String} {plan : String → Location × String}

/-- What is written for some fixtures leaves what is written for the next as it was. -/
theorem wroteOnly_putTexts (stand : AllStand before paths)
    (planned : ∀ path ∈ paths, Writes before path (plan path))
    (wrote : WroteOnly IsOutputName before after) :
    WroteOnly IsOutputName before (putTexts after (paths.map plan)) := by
  induction paths generalizing after with
  | nil => exact wrote
  | cons path rest ih =>
      rw [AllStand, List.forall_mem_cons] at stand
      rw [List.forall_mem_cons] at planned
      obtain ⟨⟨directory, front, stands⟩, others⟩ := stand
      have here := (stands.writes_iff wrote).2 planned.1
      exact ih others planned.2 (wrote.trans ((stands.of_wroteOnly wrote).wroteOnly_put here))

theorem checkFixtures_of_writes (stand : AllStand before paths)
    (planned : ∀ path ∈ paths, Writes before path (plan path)) {progress : Progress}
    (wrote : WroteOnly IsOutputName before progress.files) :
    ∃ report, checkFixtures true progress paths =
      ({ files := putTexts progress.files (paths.map plan), report,
         failures := progress.failures }, none) := by
  induction paths generalizing progress with
  | nil => exact ⟨progress.report, rfl⟩
  | cons path rest ih =>
      rw [AllStand, List.forall_mem_cons] at stand
      rw [List.forall_mem_cons] at planned
      obtain ⟨⟨directory, front, stands⟩, others⟩ := stand
      have here := (stands.writes_iff wrote).2 planned.1
      rw [checkFixtures, (stands.of_wroteOnly wrote).checkFixture_of_writes here]
      exact ih others planned.2 (wrote.trans ((stands.of_wroteOnly wrote).wroteOnly_put here))

theorem exists_writes_of_checkFixtures (stand : AllStand before paths) {progress ended : Progress}
    (wrote : WroteOnly IsOutputName before progress.files)
    (blessed : checkFixtures true progress paths = (ended, none)) :
    ∀ path ∈ paths, ∃ write, Writes before path write := by
  induction paths generalizing progress with
  | nil => exact nofun
  | cons path rest ih =>
      rw [AllStand, List.forall_mem_cons] at stand
      obtain ⟨⟨directory, front, stands⟩, others⟩ := stand
      rw [checkFixtures] at blessed
      cases first : checkFixture true progress.files path with
      | mk left result =>
        cases result with
        | error error =>
          rw [first] at blessed
          cases blessed
        | ok verdict =>
          obtain ⟨write, here⟩ := exists_writes first
          rw [(stands.of_wroteOnly wrote).checkFixture_of_writes here] at blessed
          rw [List.forall_mem_cons]
          exact ⟨⟨write, (stands.writes_iff wrote).1 here⟩,
            ih others (wrote.trans ((stands.of_wroteOnly wrote).wroteOnly_put here)) blessed⟩

end

end YamlShape.GoldenCheck
