/-
# YamlShape.Yaml.Layout -- text that grows by columns

Block style depends on where the text stands: how wide the last line is, whether
a blank came last, and whether the line holds nothing but indentation and
indicators of block collections so far.
-/
import YamlShape.Yaml.Cursor

namespace YamlShape.Yaml

set_option autoImplicit false

/-- A text and what its last line looks like.  `blank` holds behind white space,
`indenting` while the line has no content. -/
structure Layout where
  text : String := ""
  column : Nat := 0
  blank : Bool := true
  indenting : Bool := true

namespace Layout

def push (layout : Layout) (c : Char) : Layout :=
  { layout with text := layout.text.push c, column := layout.column + 1 }

def append (layout : Layout) (text : String) : Layout :=
  { layout with text := layout.text ++ text, column := layout.column + text.length }

def endLineBy (layout : Layout) (c : Char) : Layout :=
  { layout with text := layout.text.push c, column := 0 }

def endLine (layout : Layout) : Layout :=
  layout.endLineBy '\n'

/-- Adds a space if the line does not end in white space. -/
def space (layout : Layout) : Layout :=
  if layout.blank then layout else layout.push ' '

def content (layout : Layout) : Layout :=
  { layout with blank := false, indenting := false }

/-- Adds an indicator.  `spaced` asks for white space before it, `blank` says
that it counts as white space, `indenting` that it belongs to the indentation. -/
def indicator (layout : Layout) (text : String) (spaced blank indenting : Bool) : Layout :=
  let layout := (if spaced then layout.space else layout).append text
  { layout with blank, indenting := layout.indenting && indenting }

/-- Goes to a column, on a new line unless the line allows it. -/
def indent (layout : Layout) (column : Nat) : Layout :=
  let layout :=
    if !layout.indenting || layout.column > column
        || (layout.column = column && !layout.blank) then layout.endLine
    else layout
  let filled := layout.append ("".pushn ' ' (column - layout.column))
  { filled with blank := true, indenting := true }

end Layout

end YamlShape.Yaml
