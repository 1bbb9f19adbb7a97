/-
# YamlShape.Command.Run -- what a request does

All inputs are resolved, then all are loaded, and only then is anything written:
to a file, or else to the output.  Every input is a run of its own.
-/
import YamlShape.Command.Listing
import YamlShape.Files.Glob
import YamlShape.FromYaml
import YamlShape.Generation

namespace YamlShape.Command

set_option autoImplicit false

open Files

/-! ## Failures -/

inductive RunError where
  | badPattern (error : PatternError)
  | noMatches (pattern : String)
  | unreadable (path : String) (error : FileError)
  | invalid (path : String) (error : Yaml.ReadError)
  | unwritable (path : String) (error : FileError)

namespace RunError

/-- What is below a failure. -/
def cause? : RunError → Option String
  | .badPattern error => some error.message
  | .noMatches _ => none
  | .unreadable _ error => some error.message
  | .invalid _ error => some error.message
  | .unwritable _ error => some error.message

def text : RunError → String
  | .badPattern error => "invalid glob pattern: " ++ error.message
  | .noMatches pattern => "glob pattern matched no files: " ++ pattern
  | .unreadable path error => "failed to read " ++ path ++ ": " ++ error.message
  | .invalid path error => "failed to parse YAML (" ++ path ++ "): " ++ error.message
  | .unwritable path error => "failed to write " ++ path ++ ": " ++ error.message

/-- A failure in words, and then what is below it. -/
def message (error : RunError) : String :=
  match error.cause? with
  | none => error.text
  | some cause => error.text ++ ": " ++ cause

end RunError

/-! ## Patterns -/

def isPattern (input : String) : Bool :=
  input.toList.any fun c => c = '*' || c = '?' || c = '['

/-- What patterns stand for: paths in the order in which they are met and, in the place
of those below a directory that cannot be listed, why it cannot. -/
abbrev Expansion (ε : Type) := String → Except PatternError (List (Except ε String))

inductive ResolveError (ε : Type) where
  | badPattern (error : PatternError)
  | unlisted (error : ε)
  | noMatches (pattern : String)

namespace Expansion

variable {ε : Type}

/-- Puts what a pattern stands for behind the paths that were found before. -/
def addEntry (found : List String) : Except ε String → Except (ResolveError ε) (List String)
  | .ok path => .ok (found ++ [path])
  | .error error => .error (.unlisted error)

/-- Puts the paths of an input behind those that were found before.  A pattern that adds
none is refused. -/
def addInput (expansion : Expansion ε) (found : List String) (input : String) :
    Except (ResolveError ε) (List String) :=
  if isPattern input then do
    let entries ← (expansion input).mapError .badPattern
    let more ← entries.foldlM addEntry found
    if more.length = found.length then .error (.noMatches input) else .ok more
  else .ok (found ++ [input])

def resolve (expansion : Expansion ε) (inputs : List String) :
    Except (ResolveError ε) (List String) :=
  inputs.foldlM expansion.addInput []

end Expansion

/-! ## Inputs -/

/-- What patterns stand for among files.  There is no directory that cannot be listed. -/
def expansionIn (files : FileSystem) : Expansion Empty := fun pattern => do
  return (← files.glob pattern).map .ok

def RunError.ofResolveError : ResolveError Empty → RunError
  | .badPattern error => .badPattern error
  | .noMatches pattern => .noMatches pattern

def resolve (files : FileSystem) (inputs : List String) : Except RunError (List String) :=
  ((expansionIn files).resolve inputs).mapError .ofResolveError

def load (files : FileSystem) (path : String) : Except RunError (List Node) := do
  let text ← (files.readText path).mapError (.unreadable path)
  (Node.ofYaml text).mapError (.invalid path)

/-- Where inputs come from: the paths that they stand for, the text that a path is shown
by, and the documents of its file.  Paths need be no texts, and then two can be shown by
the same one. -/
structure Sources (π : Type) where
  resolve : List String → Except RunError (List π)
  shown : π → String
  load : π → Except RunError (List Node)

/-- The path of a file, as it is shown, and its documents. -/
structure Input where
  path : String
  documents : List Node

def Sources.loadAll {π : Type} (sources : Sources π) (inputs : List String) :
    Except RunError (List Input) := do
  (← sources.resolve inputs).mapM fun path => do
    return { path := sources.shown path, documents := ← sources.load path }

/-- Inputs among files, whose paths are texts. -/
def sourcesIn (files : FileSystem) : Sources String where
  resolve := resolve files
  shown := id
  load := load files

/-! ## Products -/

/-- The Go source of all inputs: what each of them gives, one blank line apart. -/
def goText (options : Options) (inputs : List Input) : String :=
  let blocks := inputs.map fun input => (Generation.run input.documents options).render
  "\n".intercalate (blocks.filter (· ≠ ""))

/-- The schemas of all inputs by their paths; that of a single path stands alone. -/
def schemaView (options : Options) (inputs : List Input) : Json :=
  let schemas := OrderedMap.ofList (inputs.map fun input =>
    (input.path, (Generation.run input.documents options).schema))
  match schemas.entries with
  | [(_, schema)] => schema
  | several => .object several

def Product.text (product : Product) (options : Options) (inputs : List Input) : String :=
  match product with
  | .goSource => goText options inputs
  | .schema => (schemaView options inputs).pretty ++ "\n"

/-! ## Runs -/

structure Printed where
  output : String := ""
  remarks : String := ""
  deriving DecidableEq

/-- The files after a run, and what it printed or why it failed. -/
structure Outcome where
  files : FileSystem
  result : Except RunError Printed

/-- Writes a text to a file, after the directories around it. -/
def writeOut (files : FileSystem) (path text : String) : Outcome :=
  let around := (PathText.parent? path).getD ""
  match files.makePath around with
  | (files, some error) => ⟨files, .error (.unwritable around error)⟩
  | (files, none) =>
    match files.writeText path text with
    | (files, some error) => ⟨files, .error (.unwritable path error)⟩
    | (files, none) => ⟨files, .ok {}⟩

def deliver (files : FileSystem) (out : Option String) (text : String) : Outcome :=
  match out with
  | none => ⟨files, .ok { output := text }⟩
  | some path => writeOut files path text

/-- Does what a request asks for with inputs from anywhere. -/
def Request.runFrom {π : Type} (sources : Sources π) (request : Request)
    (files : FileSystem) : Outcome :=
  if request.noOp then ⟨files, .ok { remarks := request.listing }⟩
  else
    match sources.loadAll request.inputs with
    | .error error => ⟨files, .error error⟩
    | .ok inputs =>
      deliver files request.out (request.product.text request.options inputs)

def Request.run (request : Request) (files : FileSystem) : Outcome :=
  request.runFrom (sourcesIn files) files

end YamlShape.Command
