/-
# YamlShape.Yaml.Token.Plain -- scalars without quotes

A plain scalar goes on until a colon before a blank, a comment, a line of three
dashes or dots, or, inside brackets, an indicator of a flow collection.  Outside
brackets it also ends at a line that is not indented deeper than the collection
around it.
-/
import YamlShape.Yaml.Token
import YamlShape.Yaml.Token.Folding

namespace YamlShape.Yaml

set_option autoImplicit false

def isFlowIndicator (c : Char) : Bool :=
  c = ',' || c = '[' || c = ']' || c = '\x7b' || c = '\x7d'

namespace Plain

/-- A scalar that is being read: what belongs to it, what is held back, the
place behind its last character, and whether a blank or a line end came last. -/
structure Reading where
  text : String := ""
  pending : Pending := .none
  stop : Mark
  behindBlanks : Bool := false

/-- Whether the scalar ends before a character that is neither blank nor a line
end.  `indentation` is the least column of a further line. -/
def endsBefore (flow : Bool) (indentation : Int) (reading : Reading) (cursor : Cursor)
    (c : Char) : Bool :=
  (reading.behindBlanks && (c = '#' || cursor.atDocumentIndicator
      || (!flow && cursor.mark.column < indentation)))
    || (c = ':' && isBlankOrEnd (cursor.peekAt 1))
    || (flow && isFlowIndicator c)

def read (flow : Bool) (indentation : Int) (start : Mark) :
    Nat → Reading → Cursor → Except SyntaxError (Reading × Cursor)
  | 0, reading, cursor => .ok (reading, cursor)
  | turns + 1, reading, cursor =>
    match cursor.rest with
    | [] => .ok (reading, cursor)
    | c :: _ =>
      if isBlank c then
        if c = '\t' ∧ reading.pending.crossedLine ∧ cursor.mark.column < indentation then
          cursor.problem .tabBeforeIndentation .plainScalar start
        else
          read flow indentation start turns
            { reading with pending := reading.pending.addBlank c, behindBlanks := true }
            (cursor.skip 1)
      else if isBreak c then
        let (kept, next) := cursor.takeLineEnd
        read flow indentation start turns
          { reading with
            pending := kept.foldl Pending.addLine reading.pending
            behindBlanks := true }
          next
      else if flow ∧ c = ':' ∧ (cursor.peekAt 1).any (fun d => isFlowIndicator d || d = '?') then
        cursor.problem .unexpectedColon .plainScalar start
      else if endsBefore flow indentation reading cursor c then .ok (reading, cursor)
      else
        read flow indentation start turns
          { text := (reading.text ++ reading.pending.joint).push c
            stop := cursor.mark.advance 1 }
          (cursor.skip 1)

/-- Reads the plain scalar that starts here.  The flag says whether a line ended
behind its last character. -/
def token (flow : Bool) (indentation : Int) (cursor : Cursor) :
    Except SyntaxError (Token × Bool × Cursor) := do
  let start := cursor.mark
  let (reading, cursor) ← read flow indentation start cursor.turns { stop := start } cursor
  return ({ word := .scalar reading.text true, start, stop := reading.stop },
    reading.pending.crossedLine, cursor)

end Plain

end YamlShape.Yaml
