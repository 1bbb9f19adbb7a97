/-
# YamlShape.Yaml.Token.Block -- scalars of whole lines

A block scalar is a header line and the lines below that are indented deeper
than the collection around it.  The header says whether lines are kept (`|`) or
folded (`>`), what happens to the line ends behind the last line, and, where the
first line cannot show it, the indentation.

Folding joins two lines by a space, or by the empty lines between them; a line
that starts with a blank is never folded with its neighbours.
-/
import YamlShape.Yaml.Token
import YamlShape.Yaml.Cursor

namespace YamlShape.Yaml

set_option autoImplicit false

namespace Block

/-! ## The header -/

/-- What happens to the line ends behind the last line: one is kept, none, or
all. -/
inductive Chomping where
  | clip
  | strip
  | keep
  deriving DecidableEq

/-- The header of a block scalar.  The indentation is counted from that of the
collection around it. -/
structure Header where
  chomping : Chomping := .clip
  indentation : Option Nat := none

def chomping? (cursor : Cursor) : Option Chomping :=
  if cursor.starts '+' then some .keep
  else if cursor.starts '-' then some .strip
  else none

def indentation? (start : Mark) (cursor : Cursor) :
    Except SyntaxError (Option Nat × Cursor) :=
  match cursor.peek with
  | some c =>
    if c = '0' then cursor.problem .zeroIndentation .blockScalar start
    else if c.isDigit then .ok (some (c.toNat - '0'.toNat), cursor.skip 1)
    else .ok (none, cursor)
  | none => .ok (none, cursor)

/-- The indicators behind `|` or `>`, in either order. -/
def indicators (start : Mark) (cursor : Cursor) : Except SyntaxError (Header × Cursor) := do
  match chomping? cursor with
  | some chomping =>
    let (indentation, cursor) ← indentation? start (cursor.skip 1)
    return ({ chomping, indentation }, cursor)
  | none =>
    let (indentation, cursor) ← indentation? start cursor
    match indentation, chomping? cursor with
    | some _, some chomping => return ({ chomping, indentation }, cursor.skip 1)
    | _, _ => return ({ indentation }, cursor)

def header (start : Mark) (cursor : Cursor) : Except SyntaxError (Header × Cursor) := do
  let (header, cursor) ← indicators start cursor
  let cursor := cursor.skipBlanks.skipComment
  if isBreakOrEnd cursor.peek then return (header, cursor.takeLineEnd.2)
  else cursor.problem .missingLineEnd .blockScalar start

/-! ## Lines -/

/-- Empty lines that have been read: their line ends, the place behind the last,
and the widest indentation met. -/
structure Gap where
  lines : String := ""
  stop : Mark
  widest : Nat := 0

/-- Reads indentation and empty lines up to a line with text.  While the
indentation is not known every space counts to it. -/
def gap (start : Mark) (indentation : Option Nat) :
    Nat → Gap → Cursor → Except SyntaxError (Gap × Cursor)
  | 0, gap, cursor => .ok (gap, cursor)
  | turns + 1, found, cursor =>
    let spaces := (cursor.rest.takeWhile (· = ' ')).length
    let cursor := cursor.skip <| match indentation with
      | some column => min spaces (column - cursor.mark.column)
      | none => spaces
    let found := { found with widest := max found.widest cursor.mark.column }
    if indentation.all (cursor.mark.column < ·) && cursor.starts '\t' then
      cursor.problem .tabForIndentation .blockScalar start
    else
      match cursor.takeLineEnd with
      | ([], _) => .ok (found, cursor)
      | (kept, next) =>
        gap start indentation turns
          { found with lines := found.lines ++ String.ofList kept, stop := next.mark } next

/-- Text that has been read: its lines, the line end and the empty lines behind
the last, the place behind them, and whether the last line starts with a blank. -/
structure Reading where
  text : String := ""
  lineEnd : String := ""
  gap : Gap
  afterBlank : Bool := false

def Reading.join (reading : Reading) (folded blank : Bool) : String :=
  let joint :=
    if folded ∧ reading.lineEnd.startsWith "\n" ∧ !reading.afterBlank ∧ !blank then
      if reading.gap.lines.isEmpty then " " else ""
    else reading.lineEnd
  reading.text ++ joint ++ reading.gap.lines

def lines (folded : Bool) (start : Mark) (indentation : Nat) :
    Nat → Reading → Cursor → Except SyntaxError (Reading × Cursor)
  | 0, reading, cursor => .ok (reading, cursor)
  | turns + 1, reading, cursor =>
    if cursor.mark.column = indentation ∧ !cursor.rest.isEmpty then do
      let blank := cursor.peek.any isBlank
      let (line, cursor) := cursor.span (!isBreak ·)
      let (kept, cursor) := cursor.takeLineEnd
      let (found, next) ←
        gap start (some indentation) cursor.turns { stop := cursor.mark } cursor
      lines folded start indentation turns
        { text := reading.join folded blank ++ String.ofList line
          lineEnd := String.ofList kept
          gap := found
          afterBlank := blank }
        next
    else .ok (reading, cursor)

def Reading.chomped (reading : Reading) : Chomping → String
  | .strip => reading.text
  | .clip => reading.text ++ reading.lineEnd
  | .keep => reading.text ++ reading.lineEnd ++ reading.gap.lines

/-- Reads the block scalar that starts here, in a collection at column `around`,
or -1 at the top. -/
def token (folded : Bool) (around : Int) (cursor : Cursor) :
    Except SyntaxError (Token × Cursor) := do
  let start := cursor.mark
  let (header, cursor) ← header start (cursor.skip 1)
  let stated := header.indentation.map (· + around.toNat)
  let (found, cursor) ← gap start stated cursor.turns { stop := cursor.mark } cursor
  let indentation := stated.getD (max (max found.widest (around + 1).toNat) 1)
  let (reading, cursor) ← lines folded start indentation cursor.turns { gap := found } cursor
  let word := .scalar (reading.chomped header.chomping) false
  return ({ word, start, stop := reading.gap.stop }, cursor)

end Block

end YamlShape.Yaml
