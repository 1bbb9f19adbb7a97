/-
# YamlShape.Files.Glob -- the paths that a pattern stands for

A glob is a pattern for every segment of a path.  A segment without wildcards is
looked up; any other is compared with the names of the directory that is reached,
in byte order.  Two stars step down into directories at any depth, each before
what is in it.
-/
import YamlShape.Files.FileSystem
import YamlShape.Files.Pattern

namespace YamlShape.Files

set_option autoImplicit false

/-! ## Segments -/

inductive GlobSegment where
  | name (text : String)
  | wildcard (pattern : Pattern)
  | anyDirectories
  deriving DecidableEq

namespace GlobSegment

def read (text : String) : Except PatternError GlobSegment := do
  let pattern ← Pattern.read text
  return match pattern, pattern.literal? with
    | [.anyDirectories], _ => .anyDirectories
    | _, some text => .name text
    | pattern, none => .wildcard pattern

def fits (segment : GlobSegment) (entry : String) : Bool :=
  match segment with
  | .name text => text = entry
  | .wildcard pattern => pattern.fits entry.toList
  | .anyDirectories => true

end GlobSegment

/-- The texts between the slashes of a glob, without a slash at its front or its
end. -/
def globTexts (glob : String) : List String :=
  let texts := PathText.segments ((glob.dropPrefix "/").toString)
  if texts.length > 1 ∧ texts.getLast? = some "" then texts.dropLast else texts

/-- Segments with one of several `anyDirectories` in a row. -/
def oneDepth : List GlobSegment → List GlobSegment
  | [] => []
  | .anyDirectories :: rest =>
    match oneDepth rest with
    | .anyDirectories :: rest => .anyDirectories :: rest
    | rest => .anyDirectories :: rest
  | segment :: rest => segment :: oneDepth rest

def globSegments (glob : String) : Except PatternError (List GlobSegment) := do
  let _ ← Pattern.read glob
  return oneDepth (← (globTexts glob).mapM GlobSegment.read)

namespace FileSystem

/-! ## Entries -/

/-- The path of an entry.  Those of the starting directory go by their names. -/
def entryPath (directory name : String) : String :=
  if PathText.isHere directory then name else PathText.join directory name

/-- The names below a directory and their paths, each before those below it, down
to a depth. -/
def below (files : FileSystem) : Nat → String → List (String × String)
  | 0, _ => []
  | depth + 1, directory =>
    (files.namesIn directory).flatMap fun name =>
      let path := entryPath directory name
      (name, path) :: if files.isDirectory path then files.below depth path else []

/-- The names that stand for a directory itself and for the one around it, as far
as they fit a pattern.  Only one that starts with a point is compared. -/
def dotPaths (directory : String) (pattern : Pattern) : List String :=
  if pattern.head? = some (.char '.') then
    ["..", "."].filterMap fun dots =>
      if pattern.fits dots.toList then some (PathText.join directory dots) else none
  else []

/-! ## Expansion -/

/-- The paths that segments lead to from a directory. -/
def expand (files : FileSystem) : List GlobSegment → String → List String
  | [], path => [path]
  | .name text :: rest, path =>
    let next := entryPath path text
    let there :=
      if text = "." ∨ text = ".." then files.isDirectory path else files.pathExists next
    if there then files.expand rest next else []
  | .wildcard pattern :: rest, path =>
    if files.isDirectory path then
      let fitting := (files.namesIn path).filter fun name => pattern.fits name.toList
      (dotPaths path pattern ++ fitting.map (entryPath path)).flatMap (files.expand rest)
    else []
  | .anyDirectories :: rest, path =>
    let entries := files.below (files.items.length + 1) path
    match rest with
    | [] => (entries.map Prod.snd).filter files.isDirectory
    | segment :: rest =>
      entries.flatMap fun (name, path) =>
        if segment.fits name then files.expand rest path else []

/-- The paths that a glob stands for.  One that ends in a slash stands for
directories only. -/
def glob (files : FileSystem) (text : String) : Except PatternError (List String) := do
  let paths := files.expand (← globSegments text) (if text.startsWith "/" then "/" else ".")
  return if text.endsWith "/" then paths.filter files.isDirectory else paths

end FileSystem

end YamlShape.Files
