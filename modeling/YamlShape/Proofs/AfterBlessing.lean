/-
# YamlShape.Proofs.AfterBlessing -- checks after blessing

A fixture passes when the text of its output is what is in the place of that output
(`exists_text_of_pass`), and a check that ends without a failure has found so of every
fixture (`passed_of_check`).

After blessing there is in every such place one of the texts that were written to it.
Where a place is that of two fixtures it is the text of the later one, so both pass only
if their outputs are the same.  Two fixtures of a directory have one place when one is
named by the extension alone and the other by it twice, and in no other case: names are
texts here, no link leads to the place of another output, and what was written can be
read.  So this decides whether the check passes (`check_after_blessing`), and it can fail
(`check_after_blessing_two_unnamed`).
-/
import Mathlib.Tactic.Choose
import YamlShape.Proofs.Blessing

namespace YamlShape.GoldenCheck

set_option autoImplicit false

open Files
open FileSystem (WroteOnly entryPath)

variable {files before after : FileSystem}

/-! ## Checking -/

theorem exists_text_of_pass {path : String}
    (passed : checkFixture false files path = (files, .ok .pass)) :
    ∃ text, actualText files path = .ok text ∧ files.readText (expectedPath path) = .ok text := by
  obtain ⟨actual, expected, generated, found, -, verdict⟩ := checkFixture_eq_ok_iff.1 passed
  by_cases equal : expected = actual
  · exact ⟨actual, generated, equal ▸ found⟩
  · rw [if_neg equal] at verdict
    cases verdict

/-- A check leaves the files as they are, also when it ends early. -/
theorem files_checkFixtures (progress : Progress) (paths : List String) :
    (checkFixtures false progress paths).1.files = progress.files := by
  induction paths generalizing progress with
  | nil => rfl
  | cons path rest ih =>
      have kept := checkFixture_fst progress.files path
      rw [checkFixtures]
      split
      · next checked =>
        rw [checked] at kept
        exact kept
      · next checked =>
        rw [checked] at kept
        exact (ih _).trans kept

theorem checkFixtures_of_passed {paths : List String} {progress : Progress}
    (passed : ∀ path ∈ paths, checkFixture false progress.files path =
      (progress.files, .ok .pass)) :
    checkFixtures false progress paths =
      ({ progress with
          report := progress.report ++
            String.join (paths.map fun path => Verdict.pass.report (fixtureName path)) },
        none) := by
  induction paths generalizing progress with
  | nil =>
      rw [List.map_nil, String.join_nil, String.append_empty]
      rfl
  | cons path rest ih =>
      rw [List.forall_mem_cons] at passed
      rw [checkFixtures, passed.1]
      have later := @ih (progress.after path progress.files .pass) passed.2
      rw [List.map_cons, String.join_cons, ← String.append_assoc]
      exact later

/-- Failures are counted and never taken back. -/
theorem passed_of_checkFixtures {paths : List String} {progress ended : Progress}
    (checked : checkFixtures false progress paths = (ended, none)) :
    progress.failures ≤ ended.failures ∧ (ended.failures = 0 → ∀ path ∈ paths,
      checkFixture false progress.files path = (progress.files, .ok .pass)) := by
  induction paths generalizing progress with
  | nil =>
      cases checked
      exact ⟨Nat.le_refl _, fun _ => nofun⟩
  | cons path rest ih =>
      rw [checkFixtures] at checked
      cases first : checkFixture false progress.files path with
      | mk left result =>
        cases result with
        | error error =>
          rw [first] at checked
          cases checked
        | ok verdict =>
          obtain ⟨actual, expected, _, _, rfl, rfl⟩ := checkFixture_eq_ok_iff.1 first
          rw [first] at checked
          obtain ⟨grown, later⟩ := ih checked
          by_cases same : expected = actual
          · rw [if_pos same] at first grown
            refine ⟨grown, fun clean => ?_⟩
            rw [List.forall_mem_cons]
            exact ⟨first, later clean⟩
          · rw [if_neg same] at grown
            have more : progress.failures + 1 ≤ ended.failures := grown
            exact ⟨by omega, fun clean => by omega⟩

/-! ## Whole checks -/

/-- What is reported in the end of a check that nothing failed in. -/
def cleanSummary (paths : List String) : String :=
  toString paths.length ++ " fixtures, 0 failed\n"

theorem Request.check_eq_iff {request : Request} {ended : Progress} :
    request.check files = (ended, none) ↔
      ∃ paths progress, fixtures files request.directory = .ok paths ∧
        checkFixtures request.bless { files } paths = (progress, none) ∧
        progress.failures = 0 ∧
        ended = { progress with report := progress.report ++ cleanSummary paths } := by
  unfold Request.check
  cases listed : fixtures files request.directory with
  | error error => simp
  | ok paths =>
      cases ran : checkFixtures request.bless { files } paths with
      | mk progress failure =>
          cases failure with
          | some error => simp [ran]
          | none =>
              dsimp only
              rw [ran]
              dsimp only
              constructor
              · intro checked
                obtain ⟨report, clean⟩ := Prod.mk.inj checked
                have unfailed : progress.failures = 0 := by
                  by_contra failed
                  rw [if_neg failed] at clean
                  cases clean
                refine ⟨paths, progress, rfl, ran, unfailed, ?_⟩
                rw [← report, cleanSummary, unfailed]
                simp only [String.append_assoc]
                rfl
              · rintro ⟨_, _, same, again, unfailed, rfl⟩
                cases same
                cases ran.symm.trans again
                rw [if_pos unfailed, cleanSummary, unfailed]
                simp only [String.append_assoc]
                rfl

theorem execute_of_check {home : String} {request : Request} {arguments : List String}
    (asked : Request.read home arguments = .ok request) {ended : Progress}
    (done : request.check files = (ended, none)) :
    execute files arguments home = { files := ended.files, remarks := ended.report } := by
  rw [execute, asked]
  dsimp only
  rw [done]

theorem exists_check_of_code {home : String} {request : Request} {arguments : List String}
    (asked : Request.read home arguments = .ok request)
    (done : (execute files arguments home).code = 0) :
    ∃ ended, request.check files = (ended, none) := by
  rw [execute, asked] at done
  dsimp only at done
  split at done
  · next ended same => exact ⟨ended, same⟩
  · cases done

theorem files_execute {home : String} {request : Request} {arguments : List String}
    (asked : Request.read home arguments = .ok request) :
    (execute files arguments home).files = (request.check files).1.files := by
  rw [execute, asked]
  dsimp only
  split
  · next checked => rw [checked]
  · next checked => rw [checked]

theorem files_check (files : FileSystem) (directory : String) :
    (Request.check { directory } files).1.files = files := by
  unfold Request.check
  split
  · rfl
  · next paths _ =>
    have same := files_checkFixtures { files } paths
    split
    · next checked => rw [checked] at same; exact same
    · next checked => rw [checked] at same; exact same

/-! ## After blessing -/

/-- No directory has a fixture that is named by the extension alone beside one that is named
by it twice, unless their outputs are the same. -/
def Untangled (files : FileSystem) (paths : List String) : Prop :=
  ∀ place : Location, ∀ bare ∈ paths, ∀ doubled ∈ paths,
    files.locate bare = .ok (place ++ [".yaml"]) →
    files.locate doubled = .ok (place ++ [".yaml.yaml"]) →
    actualText files bare = actualText files doubled

theorem readText_congr {path other : String} (same : files.locate path = files.locate other) :
    files.readText path = files.readText other := by
  rw [FileSystem.readText, FileSystem.readText, same]

/-- The output of a fixture is settled by the file that its path leads to. -/
theorem actualText_inj {path other text more : String}
    (same : files.locate path = files.locate other) (first : actualText files path = .ok text)
    (second : actualText files other = .ok more) : text = more := by
  obtain ⟨source, documents, read, parsed, rfl⟩ := actualText_eq_ok_iff.1 first
  obtain ⟨found, others, read_again, parsed_again, rfl⟩ := actualText_eq_ok_iff.1 second
  rw [readText_congr same] at read
  cases read.symm.trans read_again
  cases parsed.symm.trans parsed_again
  rfl

section

variable {paths : List String} {plan : String → Location × String}

theorem room_of_planned (planned : ∀ path ∈ paths, Writes files path (plan path)) :
    Room files (paths.map plan) := by
  intro write listed
  obtain ⟨path, held, rfl⟩ := List.mem_map.1 listed
  exact (planned path held).room

/-- Fixtures with one output among them have the same text. -/
theorem plan_eq_of_untangled (stand : AllStand files paths)
    (planned : ∀ path ∈ paths, Writes files path (plan path)) (untangled : Untangled files paths)
    {path other : String} (inside : path ∈ paths) (held : other ∈ paths)
    (same : (plan path).1 = (plan other).1) : (plan path).2 = (plan other).2 := by
  obtain ⟨directory, front, stands⟩ := stand path inside
  obtain ⟨around, behind, others⟩ := stand other held
  have first := planned path inside
  have second := planned other held
  have located : directory ++ [outputName front] = around ++ [outputName behind] := by
    rw [← stands.location_eq first, same, others.location_eq second]
  obtain ⟨rfl, names⟩ := List.append_inj' located rfl
  rcases outputName_eq_iff.1 (List.singleton_inj.1 names) with rfl | ⟨rfl, rfl⟩ | ⟨rfl, rfl⟩
  · exact actualText_inj (stands.leads.trans others.leads.symm) first.text second.text
  · have alike := untangled directory path inside other held stands.leads others.leads
    exact Except.ok.inj (first.text.symm.trans (alike.trans second.text))
  · have alike := untangled directory other held path inside others.leads stands.leads
    exact Except.ok.inj (first.text.symm.trans (alike.symm.trans second.text))

theorem passed_iff_untangled (stand : AllStand files paths)
    (planned : ∀ path ∈ paths, Writes files path (plan path)) :
    (∀ path ∈ paths, checkFixture false (putTexts files (paths.map plan)) path =
      (putTexts files (paths.map plan), .ok .pass)) ↔ Untangled files paths := by
  have wrote := wroteOnly_putTexts stand planned (.refl _ files)
  constructor
  · intro passed place bare inside doubled held first second
    obtain ⟨directory, front, stands⟩ := stand bare inside
    obtain ⟨around, behind, others⟩ := stand doubled held
    -- Both outputs are in one place, and what is there is the output of each.
    obtain ⟨rfl, rfl⟩ : directory = place ∧ front = "" := stands.eq_of_locate first
    obtain ⟨rfl, rfl⟩ : around = directory ∧ behind = ".yaml" := others.eq_of_locate second
    obtain ⟨text, generated, read⟩ := exists_text_of_pass (passed bare inside)
    obtain ⟨more, again, read_again⟩ := exists_text_of_pass (passed doubled held)
    have beside : files.locate (expectedPath bare) = files.locate (expectedPath doubled) := by
      rw [stands.beside, others.beside]
      rfl
    have one_file := readText_congr ((wrote.locate_iff.2 stands.beside).trans
      (wrote.locate_iff.2 (beside ▸ stands.beside)).symm)
    rw [read, read_again] at one_file
    rw [← stands.actualText_eq wrote, ← others.actualText_eq wrote, generated, again,
      Except.ok.inj one_file]
  · intro untangled path inside
    obtain ⟨directory, front, stands⟩ := stand path inside
    have writes := planned path inside
    obtain ⟨text, listed, found⟩ := exists_text_of_putTexts (room_of_planned planned)
      (List.mem_map_of_mem inside)
    obtain ⟨other, held, same⟩ := List.mem_map.1 listed
    have own : (plan path).2 = text := by
      rw [plan_eq_of_untangled stand planned untangled inside held (by rw [same]), same]
    have read := FileSystem.readText_of_item? (wrote.locate_iff.2 writes.leads) found
    have generated := (stands.actualText_eq wrote).trans writes.text
    exact checkFixture_eq_ok_iff.2 ⟨_, _, generated, read, rfl, if_pos own.symm⟩

theorem check_bless_of_planned {directory : String}
    (listed : fixtures files directory = .ok paths) (stand : AllStand files paths)
    (planned : ∀ path ∈ paths, Writes files path (plan path)) :
    ∃ report, Request.check { directory, bless := true } files =
      ({ files := putTexts files (paths.map plan), report }, none) := by
  have start : WroteOnly IsOutputName files ({ files } : Progress).files := .refl _ files
  obtain ⟨report, ran⟩ := checkFixtures_of_writes stand planned start
  exact ⟨_, Request.check_eq_iff.2 ⟨paths, _, listed, ran, rfl, rfl⟩⟩

theorem check_of_passed {directory : String} (listed : fixtures files directory = .ok paths)
    (passed : ∀ path ∈ paths, checkFixture false files path = (files, .ok .pass)) :
    Request.check { directory } files =
      ({ files, report :=
          String.join (paths.map fun path => Verdict.pass.report (fixtureName path)) ++
            cleanSummary paths }, none) := by
  have ran := @checkFixtures_of_passed paths { files } passed
  rw [String.empty_append] at ran
  exact Request.check_eq_iff.2 ⟨paths, _, listed, ran, rfl, rfl⟩

theorem passed_of_check {directory : String} (listed : fixtures files directory = .ok paths)
    {ended : Progress} (checked : Request.check { directory } files = (ended, none)) :
    ∀ path ∈ paths, checkFixture false files path = (files, .ok .pass) := by
  obtain ⟨others, progress, again, ran, clean, _⟩ := Request.check_eq_iff.1 checked
  cases listed.symm.trans again
  exact (passed_of_checkFixtures ran).2 clean

end

/-- After blessing.  Blessing again changes no file, and neither does checking.  The check
passes, and reports so of every fixture, just when no two fixtures are in each other's way:
one that is named by the extension alone, and beside it one that is named by it twice and
has another output. -/
theorem check_after_blessing {files blessed : FileSystem} {home directory : String}
    {blessing checking : List String}
    (asked : Request.read home blessing = .ok { directory, bless := true })
    (plain : Request.read home checking = .ok { directory })
    (done : (execute files blessing home).code = 0)
    (left : (execute files blessing home).files = blessed) :
    ((execute blessed blessing home).code = 0 ∧
      ∀ location, (execute blessed blessing home).files.item? location =
        blessed.item? location) ∧
    (execute blessed checking home).files = blessed ∧
    ∃ paths, fixtures files directory = .ok paths ∧
      ((execute blessed checking home).code = 0 ↔ Untangled files paths) ∧
      ((execute blessed checking home).code = 0 → (execute blessed checking home).remarks =
        String.join (paths.map fun path => Verdict.pass.report (fixtureName path)) ++
          cleanSummary paths) := by
  obtain ⟨ended, checked⟩ := exists_check_of_code asked done
  obtain ⟨paths, progress, listed, ran, _, _⟩ := Request.check_eq_iff.1 checked
  have stand : AllStand files paths := fun path inside => exists_stands listed inside
  have start : WroteOnly IsOutputName files ({ files } : Progress).files := .refl _ files
  choose! plan planned using exists_writes_of_checkFixtures stand start ran
  obtain ⟨report, written⟩ := check_bless_of_planned listed stand planned
  rw [execute_of_check asked written] at left
  subst left
  -- The fixtures, and what is written for each, are the same after the outputs are written.
  have wrote := wroteOnly_putTexts stand planned (.refl _ files)
  have listed_again := (fixtures_eq wrote directory).trans listed
  have stand_again : AllStand (putTexts files (paths.map plan)) paths := by
    intro path inside
    obtain ⟨around, front, stands⟩ := stand path inside
    exact ⟨around, front, stands.of_wroteOnly wrote⟩
  have planned_again : ∀ path ∈ paths,
      Writes (putTexts files (paths.map plan)) path (plan path) := by
    intro path inside
    obtain ⟨around, front, stands⟩ := stand path inside
    exact (stands.writes_iff wrote).2 (planned path inside)
  refine ⟨?_, (files_execute plain).trans (files_check _ directory), paths, listed, ?_, ?_⟩
  · obtain ⟨_, again⟩ := check_bless_of_planned listed_again stand_again planned_again
    rw [execute_of_check asked again]
    exact ⟨rfl, item?_putTexts_putTexts (room_of_planned planned) (room_of_planned planned_again)⟩
  · rw [← passed_iff_untangled stand planned]
    constructor
    · intro passing
      obtain ⟨ended, checked⟩ := exists_check_of_code plain passing
      exact passed_of_check listed_again checked
    · intro passed
      rw [execute_of_check plain (check_of_passed listed_again passed)]
  · intro passing
    obtain ⟨ended, checked⟩ := exists_check_of_code plain passing
    have passed := passed_of_check listed_again checked
    rw [execute_of_check plain (check_of_passed listed_again passed)]

/-! ## Two fixtures in each other's way -/

/-- Two fixtures whose names are nothing but extensions. -/
def twoUnnamed : FileSystem where
  items := [(["fx"], .directory), (["fx", ".yaml"], .file "a: 1\n".toByteArray),
    (["fx", ".yaml.yaml"], .file "b: 1\n".toByteArray)]

theorem namesIn_twoUnnamed : twoUnnamed.namesIn "fx" = [".yaml", ".yaml.yaml"] := by
  have located : twoUnnamed.locate "fx" = .ok ["fx"] := by decide +kernel
  have inside : twoUnnamed.locations.filterMap (FileSystem.nameIn? ["fx"]) =
      [".yaml", ".yaml.yaml"] := by decide +kernel
  rw [FileSystem.namesIn, located]
  dsimp only
  rw [FileSystem.names_eq, inside]
  exact List.mergeSort_of_pairwise (by decide +kernel)

theorem fixtures_twoUnnamed : fixtures twoUnnamed "fx" = .ok ["fx/.yaml", "fx/.yaml.yaml"] := by
  have joined : PathText.join "fx" "*.yaml" = "fx/*.yaml" := by decide +kernel
  have read : globSegments "fx/*.yaml" =
      .ok [.name "fx", .wildcard (.anyText :: ".yaml".toList.map .char)] := by decide +kernel
  have present : twoUnnamed.pathExists "fx" = true := by decide +kernel
  have entered : twoUnnamed.isDirectory "fx" = true := by decide +kernel
  have here : FileSystem.entryPath "." "fx" = "fx" := by decide +kernel
  have expanded : twoUnnamed.expand
      [.name "fx", .wildcard (.anyText :: ".yaml".toList.map .char)] "." =
        ["fx/.yaml", "fx/.yaml.yaml"] := by
    simp only [FileSystem.expand, here, present, entered, namesIn_twoUnnamed]
    decide +kernel
  have globbed : twoUnnamed.glob "fx/*.yaml" = .ok ["fx/.yaml", "fx/.yaml.yaml"] := by
    rw [FileSystem.glob, read]
    have relative : "fx/*.yaml".startsWith "/" = false := by decide +kernel
    have named : "fx/*.yaml".endsWith "/" = false := by decide +kernel
    simp only [relative, named, expanded, bind, Except.bind, Bool.false_eq_true, if_false]
    rfl
  rw [fixtures, joined, globbed]
  dsimp only
  rw [List.mergeSort_of_pairwise (by decide +kernel)]

theorem locate_twoUnnamed : twoUnnamed.locate "fx/.yaml" = .ok ["fx", ".yaml"] ∧
    twoUnnamed.locate "fx/.yaml.yaml" = .ok ["fx", ".yaml.yaml"] := by
  decide +kernel

/-- What is generated from each of them, both for the same place. -/
def unnamedWrite (path : String) : Location × String :=
  (["fx", ".yaml.go"],
    if path = "fx/.yaml" then "type A struct \x7b\n\tA int `json:\"a\"`\n\x7d\n"
    else "type B struct \x7b\n\tB int `json:\"b\"`\n\x7d\n")

theorem writes_twoUnnamed : ∀ path ∈ ["fx/.yaml", "fx/.yaml.yaml"],
    Writes twoUnnamed path (unnamedWrite path) := by
  have located : ∀ path ∈ ["fx/.yaml", "fx/.yaml.yaml"],
      twoUnnamed.locate (expectedPath path) = .ok ["fx", ".yaml.go"] := by decide +kernel
  have generated : ∀ path ∈ ["fx/.yaml", "fx/.yaml.yaml"],
      actualText twoUnnamed path = .ok (unnamedWrite path).2 := by decide +kernel
  have opens : twoUnnamed.openError? ["fx", ".yaml.go"] = none := by decide +kernel
  exact fun path inside => ⟨located path inside, generated path inside, opens, rfl⟩

theorem code_blessing_twoUnnamed : (execute twoUnnamed ["fx", "--bless"]).code = 0 := by
  have asked : Request.read "fixtures" ["fx", "--bless"] =
      .ok { directory := "fx", bless := true } := rfl
  obtain ⟨report, blessed⟩ := check_bless_of_planned fixtures_twoUnnamed
    (fun path inside => exists_stands fixtures_twoUnnamed inside) writes_twoUnnamed
  rw [execute_of_check asked blessed]

/-- The second of them is blessed into the output of the first, which then fails. -/
theorem check_after_blessing_two_unnamed :
    (execute twoUnnamed ["fx", "--bless"]).code = 0 ∧
    (execute (execute twoUnnamed ["fx", "--bless"]).files ["fx", "--bless"]).code = 0 ∧
    (execute (execute twoUnnamed ["fx", "--bless"]).files ["fx"]).code ≠ 0 := by
  have asked : Request.read "fixtures" ["fx", "--bless"] =
      .ok { directory := "fx", bless := true } := rfl
  have plain : Request.read "fixtures" ["fx"] = .ok { directory := "fx" } := rfl
  obtain ⟨again, _, paths, listed, passes, _⟩ :=
    check_after_blessing asked plain code_blessing_twoUnnamed rfl
  refine ⟨code_blessing_twoUnnamed, again.1, fun passed => ?_⟩
  cases listed.symm.trans fixtures_twoUnnamed
  obtain ⟨first, second⟩ := locate_twoUnnamed
  have alike := passes.1 passed ["fx"] "fx/.yaml" (by simp) "fx/.yaml.yaml" (by simp) first second
  have differ : actualText twoUnnamed "fx/.yaml" ≠ actualText twoUnnamed "fx/.yaml.yaml" := by
    decide +kernel
  exact differ alike

end YamlShape.GoldenCheck
