/-
# YamlShape.GoldenCheck -- comparing with expected outputs

Every `.yaml` file of a directory is a fixture: the Go source of its documents
under the default policy has to be the text of the `.go` file beside it.  Blessing
writes those files instead of comparing.

A check ends at the first file that cannot be read, parsed or written; what it
reported and wrote before stays.
-/
import YamlShape.Command.Exit

namespace YamlShape.GoldenCheck

set_option autoImplicit false

open Files

/-! ## Requests -/

/-- What a check is asked for. -/
structure Request where
  directory : String
  bless : Bool := false
  deriving DecidableEq

inductive UsageFault where
  | emptyDirectory
  | repeatedBless
  | unexpectedValue (option value : String)
  | unknownArgument (argument : String)
  deriving DecidableEq

/-- Why a command line asks for no check. -/
inductive Stop where
  | help
  | misuse (fault : UsageFault)
  deriving DecidableEq

/-- Reads arguments; `directory` and `bless` are what those before have set, and
behind two dashes all arguments are plain.  Without a directory it is that at `home`. -/
def readArguments (home : String) (directory : Option String) (bless allPlain : Bool) :
    List String → Except Stop Request
  | [] => .ok { directory := directory.getD home, bless }
  | text :: rest =>
    let refused (fault : UsageFault) : Except Stop Request := .error (.misuse fault)
    let plain : Except Stop Request :=
      if directory.isSome then refused (.unknownArgument text)
      else if text.isEmpty then refused .emptyDirectory
      else readArguments home (some text) bless allPlain rest
    if allPlain then plain
    else
      match text.toList with
      | ['-', '-'] => readArguments home directory bless true rest
      | '-' :: '-' :: long =>
        match Command.Argument.splitValue long with
        | (name, none) =>
          if name = "help".toList then .error .help
          else if name ≠ "bless".toList then refused (.unknownArgument text)
          else if bless then refused .repeatedBless
          else readArguments home directory true allPlain rest
        | (name, some value) =>
          if name = "help".toList ∨ name = "bless".toList then
            refused (.unexpectedValue ("--" ++ String.ofList name) value)
          else refused (.unknownArgument text)
      | '-' :: 'h' :: _ => .error .help
      | '-' :: _ :: _ => refused (.unknownArgument text)
      | _ => plain

def Request.read (home : String) (arguments : List String) : Except Stop Request :=
  readArguments home none false false arguments

/-! ## Messages -/

def usage : String := "dev-test-runner [OPTIONS] [FIXTURES]"

def helpText (home : String) : String :=
  "Usage: " ++ usage ++ "\n"
    ++ "\nArguments:\n"
    ++ "  [FIXTURES]  directory holding `*.yaml` fixtures and their expected `*.go` output"
    ++ " [default: " ++ home ++ "]\n"
    ++ "\nOptions:\n"
    ++ "      --bless  rewrite expected files from current output instead of comparing\n"
    ++ "  -h, --help   Print help\n"

def UsageFault.text : UsageFault → String
  | .emptyDirectory => "a value is required for '[FIXTURES]' but none was supplied"
  | .repeatedBless => "the argument '--bless' cannot be used multiple times"
  | .unexpectedValue option value =>
    "unexpected value '" ++ value ++ "' for '" ++ option ++ "' found; no more were expected"
  | .unknownArgument argument => "unexpected argument '" ++ argument ++ "' found"

def UsageFault.message (fault : UsageFault) : String :=
  "error: " ++ fault.text ++ "\n\nUsage: " ++ usage
    ++ "\n\nFor more information, try '--help'.\n"

inductive Step where
  | reading
  | parsing
  | writing
  deriving DecidableEq

def Step.text : Step → String
  | .reading => "reading"
  | .parsing => "parsing"
  | .writing => "writing"

inductive CheckError where
  | badPattern (error : PatternError)
  | noFixtures (directory : String)
  | failedFixtures (count : Nat)
  | atFile (step : Step) (path cause : String)
  deriving DecidableEq

/-- A text with every line four spaces further in. -/
def indented (text : String) : String :=
  "    " ++ "\n    ".intercalate (text.splitOn "\n")

def CheckError.message : CheckError → String
  | .badPattern error => "Error: " ++ error.message ++ "\n"
  | .noFixtures directory => "Error: no fixtures under " ++ directory ++ "\n"
  | .failedFixtures count => "Error: " ++ toString count ++ " fixture(s) failed\n"
  | .atFile step path cause =>
    "Error: " ++ step.text ++ " " ++ path ++ "\n\nCaused by:\n" ++ indented cause ++ "\n"

/-! ## Fixtures -/

/-- What a check finds out about a fixture. -/
inductive Verdict where
  | pass
  | blessed
  | fail (expected actual : String)
  deriving DecidableEq

def Verdict.report (name : String) : Verdict → String
  | .pass => "✅ pass " ++ name ++ "\n"
  | .blessed => "✍️ blessed " ++ name ++ "\n"
  | .fail expected actual =>
    "❌ fail " ++ name ++ "\n--- expected\n" ++ expected ++ "--- actual\n" ++ actual ++ "---\n"

def fixtureName (path : String) : String :=
  ((PathText.fileName? path).map PathText.stem).getD ""

/-- The path of the expected output of a fixture. -/
def expectedPath (path : String) : String :=
  PathText.withExtension path "go"

def actualText (files : FileSystem) (path : String) : Except CheckError String := do
  let text ← (files.readText path).mapError fun error => .atFile .reading path error.message
  let documents ← (Node.ofYaml text).mapError fun error => .atFile .parsing path error.message
  return (Generation.run documents {}).render

/-- Checks a fixture, or blesses it. -/
def checkFixture (bless : Bool) (files : FileSystem) (path : String) :
    FileSystem × Except CheckError Verdict :=
  match actualText files path with
  | .error error => (files, .error error)
  | .ok actual =>
    if bless then
      match files.writeText (expectedPath path) actual with
      | (files, some error) =>
        (files, .error (.atFile .writing (expectedPath path) error.message))
      | (files, none) => (files, .ok .blessed)
    else
      match files.readText (expectedPath path) with
      | .error error => (files, .error (.atFile .reading (expectedPath path) error.message))
      | .ok expected => (files, .ok (if expected = actual then .pass else .fail expected actual))

/-! ## Checks -/

/-- How far a check has come. -/
structure Progress where
  files : FileSystem
  report : String := ""
  failures : Nat := 0

def Progress.after (progress : Progress) (path : String) (files : FileSystem)
    (verdict : Verdict) : Progress where
  files := files
  report := progress.report ++ verdict.report (fixtureName path)
  failures := match verdict with
    | .fail _ _ => progress.failures + 1
    | .pass | .blessed => progress.failures

def checkFixtures (bless : Bool) (progress : Progress) :
    List String → Progress × Option CheckError
  | [] => (progress, none)
  | path :: rest =>
    match checkFixture bless progress.files path with
    | (files, .error error) => ({ progress with files }, some error)
    | (files, .ok verdict) => checkFixtures bless (progress.after path files verdict) rest

/-- The fixtures of a directory, in the order of their paths. -/
def fixtures (files : FileSystem) (directory : String) : Except CheckError (List String) :=
  match files.glob (PathText.join directory "*.yaml") with
  | .error error => .error (.badPattern error)
  | .ok [] => .error (.noFixtures directory)
  | .ok paths => .ok (paths.mergeSort PathText.order)

/-- Checks all fixtures of a directory, and counts them in the end. -/
def Request.check (request : Request) (files : FileSystem) : Progress × Option CheckError :=
  match fixtures files request.directory with
  | .error error => ({ files }, some error)
  | .ok paths =>
    match checkFixtures request.bless { files } paths with
    | (progress, some error) => (progress, some error)
    | (progress, none) =>
      let count := toString paths.length ++ " fixtures, " ++ toString progress.failures
        ++ " failed\n"
      ({ progress with report := progress.report ++ count },
        if progress.failures = 0 then none else some (.failedFixtures progress.failures))

/-- The check on its command line, where `home` is the directory that it was built with.  All
that it prints are remarks. -/
def execute (files : FileSystem) (arguments : List String) (home : String := "fixtures") :
    Command.Exit :=
  match Request.read home arguments with
  | .error .help => { files, output := helpText home }
  | .error (.misuse fault) => { files, code := 2, remarks := fault.message }
  | .ok request =>
    match request.check files with
    | (progress, none) => { files := progress.files, remarks := progress.report }
    | (progress, some error) =>
      { files := progress.files, code := 1, remarks := progress.report ++ error.message }

end YamlShape.GoldenCheck
