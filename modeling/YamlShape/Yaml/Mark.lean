/-
# YamlShape.Yaml.Mark -- places in a text

A mark counts the characters and line ends before a place.  Its text counts
lines and columns from one.
-/

namespace YamlShape.Yaml

set_option autoImplicit false

/-- A place in a text: characters passed, line and column, all from zero. -/
structure Mark where
  index : Nat := 0
  line : Nat := 0
  column : Nat := 0
  deriving DecidableEq

namespace Mark

def isOrigin (mark : Mark) : Bool :=
  mark.line = 0 && mark.column = 0

def sameAs (left right : Mark) : Bool :=
  left.line = right.line && left.column = right.column

def text (mark : Mark) : String :=
  "line " ++ toString (mark.line + 1) ++ " column " ++ toString (mark.column + 1)

/-- The text of a mark behind a message; the first place of all is left out. -/
def suffix (mark : Mark) : String :=
  if mark.isOrigin then "" else " at " ++ mark.text

def advance (mark : Mark) (count : Nat) : Mark :=
  { mark with index := mark.index + count, column := mark.column + count }

/-- The mark behind a line end of `count` characters. -/
def nextLine (mark : Mark) (count : Nat) : Mark :=
  { index := mark.index + count, line := mark.line + 1, column := 0 }

end Mark

end YamlShape.Yaml
