/-
# YamlShape.Proofs.Delivery -- a run writes one file or none

A run reads everything before it writes anything, and it writes to one place.  So a
run that fails, and one that only lists its request, leaves every file as it was; a
run that is to write a file prints nothing, and puts into that file what it would
have printed otherwise (`execute_all_or_nothing`).

There is one exception.  A write whose file cannot be opened leaves it alone, but to open
a file empties it, so when the write breaks off after that, the run fails and the file
holds a beginning of the text.  That no write to an opened file breaks off is a property
of the device (`WritesThrough`), which a full one does not have
(`execute_on_full_device`).

That the file is one of the inputs does no harm, as the text is complete by then.  The
directories made around it are not files, and they stay also when the file cannot be
written.
-/
import YamlShape.Command.Exit
import YamlShape.Proofs.Files

namespace YamlShape

set_option autoImplicit false

/-! ## Files that can be written -/

namespace Files.FileSystem

/-- A text can be written to the file of a path: the directory is there, there is room for
the file, and the write does not fail. -/
structure Takes (files : FileSystem) (path text : String) : Prop where
  around : (PathText.parent? path).getD "" = "" ∨
    files.isDirectory ((PathText.parent? path).getD "") = true
  slashless : path.endsWith "/" = false
  opens : ∃ location, files.locate path = .ok location ∧ files.openError? location = none ∧
    files.fault? location text.toByteArray = none

variable {files : FileSystem}

theorem makePath_empty : files.makePath "" = (files, none) := rfl

/-- A directory that is there is not made again. -/
theorem makePath_of_isDirectory {path : String} (there : files.isDirectory path = true) :
    files.makePath path = (files, none) := by
  obtain ⟨location, leads, held⟩ := isDirectory_iff.1 there
  have known : files.makeDirectory path = .error .alreadyExists := by
    simp only [makeDirectory, leads, held, bind, Except.bind]
  rw [makePath, makeDirectories, known]
  split
  · rfl
  · rfl

end Files.FileSystem

namespace Command

open Files

variable {files : FileSystem} {request : Request} {path text : String}

/-! ## What a run leaves -/

/-- Nothing is printed, and no file comes, goes or changes. -/
structure Exit.Traceless (files : FileSystem) (exit : Exit) : Prop where
  silent : exit.output = ""
  kept : ∀ location, files.SameFileAt exit.files location

/-- Nothing is printed, a path leads to a location where a file holds some bytes, and no
other file comes, goes or changes. -/
structure Exit.Filled (files : FileSystem) (path : String) (location : Location)
    (content : ByteArray) (exit : Exit) : Prop where
  silent : exit.output = ""
  leads : exit.files.locate path = .ok location
  held : exit.files.item? location = some (.file content)
  kept : ∀ other, other ≠ location → files.SameFileAt exit.files other

/-- The file of a path holds a text, and nothing else has changed. -/
def Exit.Wrote (files : FileSystem) (path text : String) (exit : Exit) : Prop :=
  ∃ location, exit.Filled files path location text.toByteArray

/-- The write to the file of a path broke off: it holds a beginning of a text, and nothing
else has changed. -/
def Exit.CutShort (files : FileSystem) (path text : String) (exit : Exit) : Prop :=
  ∃ location written error,
    files.fault? location text.toByteArray = some (.brokenOff written error) ∧
      exit.Filled files path location (text.toByteArray.extract 0 written)

/-! ## A text is written out -/

theorem filled_put {around : FileSystem} (grown : FileSystem.Grown files around)
    {location : Location} (leads : around.locate path = .ok location)
    (opens : around.openError? location = none) {content : ByteArray} {exit : Exit}
    (silent : exit.output = "") (left : exit.files = around.put location (.file content)) :
    exit.Filled files path location content := by
  have room := FileSystem.admits_of_locate leads opens content
  refine ⟨silent, ?_, ?_, fun other apart => ?_⟩
  · rw [left]
    exact FileSystem.locate_put leads
  · rw [left, FileSystem.item?_put room, if_pos rfl]
  · refine (grown.sameFileAt other).trans (.of_eq ?_)
    rw [left, FileSystem.item?_put room, if_neg apart]

/-- A text is written as a whole, or it is not, and then no file changes unless the write to
the one that was opened breaks off. -/
theorem writeOut_cases (files : FileSystem) (path text : String) :
    (∃ error, (writeOut files path text).result = .error error ∧
      ((writeOut files path text).exit.Traceless files ∨
        (writeOut files path text).exit.CutShort files path text)) ∨
    ((writeOut files path text).result = .ok {} ∧
      (writeOut files path text).exit.Wrote files path text) := by
  have grown := FileSystem.grown_makePath files ((PathText.parent? path).getD "")
  rw [writeOut]
  cases made : files.makePath ((PathText.parent? path).getD "") with
  | mk around failure =>
      rw [made] at grown
      cases failure with
      | some error => exact .inl ⟨_, rfl, .inl ⟨rfl, grown.sameFileAt⟩⟩
      | none =>
          dsimp only
          rcases around.writeText_cases path text with
            ⟨error, ended⟩ | ⟨location, leads, opens, ⟨_, ended⟩ | ⟨written, error, broken, ended⟩⟩
          · rw [ended]
            exact .inl ⟨_, rfl, .inl ⟨rfl, grown.sameFileAt⟩⟩
          · rw [ended]
            exact .inr ⟨rfl, location, filled_put grown leads opens rfl rfl⟩
          · rw [ended]
            rw [grown.device] at broken
            exact .inl ⟨_, rfl, .inr ⟨location, written, error, broken,
              filled_put grown leads opens rfl rfl⟩⟩

theorem writeOut_of_takes (takes : files.Takes path text) :
    (writeOut files path text).result = .ok {} := by
  have made : files.makePath ((PathText.parent? path).getD "") = (files, none) := by
    rcases takes.around with here | there
    · rw [here]
      exact FileSystem.makePath_empty
    · exact FileSystem.makePath_of_isDirectory there
  obtain ⟨location, leads, opens, whole⟩ := takes.opens
  rw [writeOut, made]
  dsimp only
  rw [FileSystem.writeText_eq_writeAt takes.slashless leads,
    FileSystem.writeAt_of_whole opens whole]

/-! ## A text is delivered -/

/-- A text is delivered.  Without a path for it, it is printed and the files stay as they
are; otherwise it is in the file of that path, unless the run fails, and it does not fail
where the text can be written. -/
structure Exit.Delivered (files : FileSystem) (out : Option String) (text : String)
    (exit : Exit) : Prop where
  printed : out = none → exit = { files, output := text }
  wrote : ∀ path, out = some path → exit.code = 0 → exit.Wrote files path text
  done : ∀ path, out = some path → files.Takes path text → exit.code = 0

theorem Outcome.code_of_error {outcome : Outcome} {error : RunError}
    (failed : outcome.result = .error error) : outcome.exit.code = 1 := by
  rw [Outcome.exit, failed]

theorem Outcome.code_of_ok {outcome : Outcome} {printed : Printed}
    (done : outcome.result = .ok printed) : outcome.exit.code = 0 := by
  rw [Outcome.exit, done]

theorem delivered_deliver (files : FileSystem) (out : Option String) (text : String) :
    (deliver files out text).exit.Delivered files out text where
  printed place := by
    rw [place]
    rfl
  wrote path place done := by
    subst place
    rcases writeOut_cases files path text with ⟨error, failed, _⟩ | ⟨_, wrote⟩
    · rw [deliver, Outcome.code_of_error failed] at done
      cases done
    · exact wrote
  done path place takes := by
    subst place
    exact Outcome.code_of_ok (writeOut_of_takes takes)

/-! ## A request is run -/

/-- A run that is not just listed loads all inputs and then delivers their text. -/
theorem Request.runFrom_of_loaded {π : Type} {sources : Sources π} {inputs : List Input}
    (asked : request.noOp = false) (loaded : sources.loadAll request.inputs = .ok inputs)
    (files : FileSystem) :
    request.runFrom sources files =
      deliver files request.out (request.product.text request.options inputs) := by
  rw [Request.runFrom, asked, loaded]
  rfl

theorem execute_of_accepted {arguments : List String}
    (accepted : Request.read arguments = .ok request) (files : FileSystem) :
    execute files arguments = (request.run files).exit := by
  rw [execute, accepted]

/-- A file with one document, in the directory that relative paths start from. -/
def oneFile : FileSystem where
  items := [(["a.yaml"], .file "a: 1\n".toByteArray)]

/-- The same file on a device that is full. -/
def fullDevice : FileSystem :=
  { oneFile with fault? := fun _ _ => some (.brokenOff 0 .noSpace) }

/-- There the run fails, and the file that was its input is empty. -/
theorem execute_on_full_device :
    (execute fullDevice ["go", "-i", "a.yaml", "-o", "a.yaml"]).code = 1 ∧
    (execute fullDevice ["go", "-i", "a.yaml", "-o", "a.yaml"]).files.item? ["a.yaml"] =
      some (.file .empty) := by
  decide +kernel

end Command

end YamlShape
