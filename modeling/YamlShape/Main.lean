/-
# YamlShape.Main -- the program on real files

What a command line names is copied into a `FileSystem`, the program runs on that
value, and what it changed there is carried out on the real files.
-/
import YamlShape.Command.Exit

namespace YamlShape.Main

set_option autoImplicit false

open Files

/-- The path of a location, from the root on. -/
def absolute (location : Location) : String :=
  "/" ++ "/".intercalate location

/-- Copies what is at a location, if there is something. -/
def copyItem (files : FileSystem) (location : Location) : IO FileSystem := do
  if location = [] then return files
  let path := (← IO.currentDir) / absolute location
  if ← path.isDir then return files.put location .directory
  else if ← path.pathExists then
    return files.put location (.file (← IO.FS.readBinFile path))
  else return files

/-- Copies a directory with all below it. -/
partial def copyTree (files : FileSystem) (location : Location) : IO FileSystem := do
  let files ← copyItem files location
  if files.item? location = some .directory then
    let path := (← IO.currentDir) / absolute location
    (← path.readDir).foldlM
      (fun files entry => copyTree files (location ++ [entry.fileName])) files
  else return files

/-- Copies what the segments of a path lead through, and all below the first one
with a wildcard. -/
def copySegments (files : FileSystem) (location : Location) : List String → IO FileSystem
  | [] => copyItem files location
  | segment :: rest => do
    let files ← copyItem files location
    if Command.isPattern segment then copyTree files location
    else if PathText.isIdle segment then copySegments files location rest
    else if segment = ".." then copySegments files location.dropLast rest
    else copySegments files (location ++ [segment]) rest

/-- Copies what paths and patterns name. -/
def copyNamed (paths : List String) : IO FileSystem := do
  let here := (PathText.segments (← IO.currentDir).toString).filter (· ≠ "")
  let above := (List.range (here.length + 1)).map here.take
  let start ← above.foldlM copyItem { items := [], workingDirectory := here }
  paths.foldlM
    (fun files path =>
      copySegments files (if path.startsWith "/" then [] else here) (PathText.segments path))
    start

/-- Carries out what has changed. -/
def carryOut (before after : FileSystem) : IO Unit :=
  after.items.forM fun (location, item) => do
    if before.item? location ≠ some item then
      match item with
      | .directory => IO.FS.createDir (absolute location)
      | .file content => IO.FS.writeBinFile (absolute location) content

/-- The paths and patterns that a command line names. -/
def named (arguments : List String) : List String :=
  match Command.Request.read arguments with
  | .ok request => request.inputs ++ request.out.toList
  | .error _ => []

def run (arguments : List String) : IO UInt32 := do
  let files ← copyNamed (named arguments)
  let exit := Command.execute files arguments
  carryOut files exit.files
  IO.print exit.output
  IO.eprint exit.remarks
  return exit.code.toUInt32

end YamlShape.Main

def main (arguments : List String) : IO UInt32 :=
  YamlShape.Main.run arguments
