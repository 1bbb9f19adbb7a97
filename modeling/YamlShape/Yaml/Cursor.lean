/-
# YamlShape.Yaml.Cursor -- a text read from the front

A cursor is what is left of a text and the place it starts at.  A line end is a
carriage return, a line feed, the pair of both, or one of the three line ends of
Unicode (U+0085, U+2028, U+2029); the last two keep their character, the others
count as a line feed.
-/
import YamlShape.Yaml.SyntaxError

namespace YamlShape.Yaml

set_option autoImplicit false

/-! ## Character classes -/

def isBlank (c : Char) : Bool :=
  c = ' ' || c = '\t'

/-- A character that a line end starts with. -/
def isBreak (c : Char) : Bool :=
  c = '\n' || c = '\r' || c = '\x85' || c = '\u2028' || c = '\u2029'

def isNameChar (c : Char) : Bool :=
  c.isAlphanum || c = '_' || c = '-'

def isBreakOrEnd (c : Option Char) : Bool :=
  c.all isBreak

def isBlankOrEnd (c : Option Char) : Bool :=
  c.all fun c => isBlank c || isBreak c

/-- A character that a document may hold.  Apart from tab and line ends these
are the printable characters. -/
def isAllowed (c : Char) : Bool :=
  let code := c.toNat
  code = 0x09 || code = 0x0A || code = 0x0D || (0x20 ≤ code && code ≤ 0x7E) || code = 0x85
    || (0xA0 ≤ code && code ≤ 0xD7FF) || (0xE000 ≤ code && code ≤ 0xFFFD) || 0x10000 ≤ code

/-- The line end that a text starts with: what it counts as, its length, and the
rest of the text. -/
def lineEnd? : List Char → Option (Char × Nat × List Char)
  | '\r' :: '\n' :: rest => some ('\n', 2, rest)
  | c :: rest =>
    if c = '\u2028' ∨ c = '\u2029' then some (c, 1, rest)
    else if isBreak c then some ('\n', 1, rest)
    else none
  | [] => none

/-! ## Cursors -/

/-- The rest of a text, and the place where it starts. -/
structure Cursor where
  rest : List Char
  mark : Mark := {}

namespace Cursor

def peek (cursor : Cursor) : Option Char :=
  cursor.rest.head?

def peekAt (cursor : Cursor) (distance : Nat) : Option Char :=
  cursor.rest[distance]?

def starts (cursor : Cursor) (c : Char) : Bool :=
  cursor.peek = some c

def skip (cursor : Cursor) (count : Nat) : Cursor :=
  { rest := cursor.rest.drop count, mark := cursor.mark.advance count }

def skipWhile (cursor : Cursor) (property : Char → Bool) : Cursor :=
  cursor.skip (cursor.rest.takeWhile property).length

def span (cursor : Cursor) (property : Char → Bool) : List Char × Cursor :=
  (cursor.rest.takeWhile property, cursor.skipWhile property)

/-- The cursor behind a line end, if there is one, and what the line end counts as. -/
def takeLineEnd (cursor : Cursor) : List Char × Cursor :=
  match lineEnd? cursor.rest with
  | some (kept, count, rest) => ([kept], { rest, mark := cursor.mark.nextLine count })
  | none => ([], cursor)

def skipBlanks (cursor : Cursor) : Cursor :=
  cursor.skipWhile isBlank

def skipComment (cursor : Cursor) : Cursor :=
  if cursor.starts '#' then cursor.skipWhile (!isBreak ·) else cursor

/-- Whether a line `---` or `...` starts here: three such characters at the
start of a line, then a blank or the end of the line. -/
def atIndicator (cursor : Cursor) (c : Char) : Bool :=
  cursor.mark.column = 0 && cursor.rest.take 3 = [c, c, c] && isBlankOrEnd (cursor.peekAt 3)

def atDocumentIndicator (cursor : Cursor) : Bool :=
  cursor.atIndicator '-' || cursor.atIndicator '.'

/-- A bound on the steps of a loop that takes at least one character a turn. -/
def turns (cursor : Cursor) : Nat :=
  cursor.rest.length + 1

/-- The error for a problem that shows here, in a construct that began at `start`. -/
def problem {α : Type} (cursor : Cursor) (problem : Problem) (construct : Construct)
    (start : Mark) : Except SyntaxError α :=
  .error { problem, mark := cursor.mark, within := some (construct, start) }

end Cursor

end YamlShape.Yaml
