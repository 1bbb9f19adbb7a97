/-
# YamlShape.Files.PathText -- paths as texts

A path is segments between slashes.  An empty segment or a point counts for
nothing, except at the front: there an empty segment is the root of all, and a
point the directory that relative paths start from.
-/
import YamlShape.Text.Bytes

namespace YamlShape.Files

set_option autoImplicit false

namespace PathText

def segments (path : String) : List String :=
  (path.toList.splitOn '/').map String.ofList

def ofSegments : List String → String
  | [""] => "/"
  | segments => "/".intercalate segments

/-- Whether a segment counts for nothing behind the front. -/
def isIdle (segment : String) : Bool :=
  segment.isEmpty || segment = "."

/-- Segments without idle ones at the end; the one at the front stays. -/
def trimmed : List String → List String
  | [] => []
  | front :: rest => front :: (rest.reverse.dropWhile isIdle).reverse

/-- The path without its last name.  That of a single name is empty. -/
def parent? (path : String) : Option String :=
  match trimmed (segments path) with
  | [] | [""] => none
  | [_] => some ""
  | several => some (ofSegments (trimmed several.dropLast))

def join (directory name : String) : String :=
  if directory.isEmpty ∨ name.startsWith "/" then name
  else if directory.endsWith "/" then directory ++ name
  else directory ++ "/" ++ name

/-- A name that a directory can hold: a segment that does not stand for a directory
that is there anyway. -/
def IsName (name : String) : Prop :=
  name ≠ "" ∧ name ≠ "." ∧ name ≠ ".." ∧ '/' ∉ name.toList

instance (name : String) : Decidable (IsName name) :=
  inferInstanceAs (Decidable (_ ∧ _ ∧ _ ∧ _))

/-- The last name of a path, unless it ends in two points. -/
def fileName? (path : String) : Option String :=
  match (trimmed (segments path)).getLast? with
  | none | some "" | some "." | some ".." => none
  | some name => some name

def isHere (path : String) : Bool :=
  trimmed (segments path) = ["."]

/-- A name without its extension: what stands before the last point, unless that
is nothing. -/
def stem (name : String) : String :=
  match name.toList.reverse.dropWhile (· ≠ '.') with
  | [] | ['.'] => name
  | _ :: before => String.ofList before.reverse

def withExtension (path extension : String) : String :=
  match fileName? path with
  | none => path
  | some name =>
    let front := (trimmed (segments path)).dropLast
    ofSegments (front ++ [stem name ++ "." ++ extension])

/-- What a path is ordered by: its segments in turn, the root before the starting
point, that before steps up, and those before names. -/
def orderKey (path : String) : List (List UInt8) :=
  match segments path with
  | [] => []
  | front :: rest =>
    let named (segment : String) : List UInt8 :=
      if segment = ".." then [2] else 3 :: Text.bytes segment
    let first := if front.isEmpty then [0] else if front = "." then [1] else named front
    first :: (rest.filter (!isIdle ·)).map named

/-- Whether a path comes before another or is the same. -/
def order (left right : String) : Bool :=
  orderKey left ≤ orderKey right

end PathText

end YamlShape.Files
