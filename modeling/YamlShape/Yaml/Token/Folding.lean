/-
# YamlShape.Yaml.Token.Folding -- blanks and line ends inside a scalar

In a plain or quoted scalar the blanks and line ends between two characters are
held back until the next character shows.  Blanks alone are kept.  Once a line
has ended the blanks around it are dropped; one line end becomes a space, and of
several the first is dropped and the others are kept.  A line end that keeps its
own character is kept in any case.
-/
import YamlShape.Yaml.Cursor

namespace YamlShape.Yaml

set_option autoImplicit false

/-- What has been read since the last character of a scalar: blanks within a
line, or line ends, the first apart from the others.  An escaped line end is a
first line end that counts for nothing. -/
inductive Pending where
  | blanks (text : String)
  | lines (first : Option Char) (others : String)

namespace Pending

def none : Pending := .blanks ""

/-- Whether a line has ended. -/
def crossedLine : Pending → Bool
  | .blanks _ => false
  | .lines _ _ => true

def addBlank (pending : Pending) (c : Char) : Pending :=
  match pending with
  | .blanks text => .blanks (text.push c)
  | .lines first others => .lines first others

def addLine (pending : Pending) (kept : Char) : Pending :=
  match pending with
  | .blanks _ => .lines (some kept) ""
  | .lines first others => .lines first (others.push kept)

/-- What the next character is joined to the scalar with. -/
def joint : Pending → String
  | .blanks text => text
  | .lines (some first) others =>
    if first = '\n' then if others.isEmpty then " " else others
    else first.toString ++ others
  | .lines Option.none others => others

end Pending

end YamlShape.Yaml
