/-
# YamlShape.Command.Exit -- how the program ends

The program ends with a code: 0 if what was asked for is done, 1 if a run failed,
2 if the command line asks for nothing that can be done.
-/
import YamlShape.Command.Help
import YamlShape.Command.Run

namespace YamlShape.Command

set_option autoImplicit false

/-- The files when a program has ended, its code and what it printed. -/
structure Exit where
  files : Files.FileSystem
  code : Nat := 0
  output : String := ""
  remarks : String := ""

def Stop.exit (stop : Stop) (files : Files.FileSystem) : Exit :=
  if stop.isAsked then { files, output := stop.text }
  else { files, code := 2, remarks := stop.text }

def Outcome.exit (outcome : Outcome) : Exit :=
  match outcome.result with
  | .ok printed => { files := outcome.files, output := printed.output, remarks := printed.remarks }
  | .error error =>
    { files := outcome.files, code := 1, remarks := "error: " ++ error.message ++ "\n" }

/-- The program on its command line. -/
def execute (files : Files.FileSystem) (arguments : List String) : Exit :=
  match Request.read arguments with
  | .error stop => stop.exit files
  | .ok request => (request.run files).exit

end YamlShape.Command
