/-
# YamlShape.Yaml.Token.Quoted -- scalars in quotes

Between single quotes only the quote itself is special, and is written twice.
Between double quotes a backslash starts an escape; before a line end it joins
the lines without a blank.  In both, line ends fold as in a plain scalar, and a
line of three dashes or dots may not stand inside.
-/
import YamlShape.Text.Hex
import YamlShape.Yaml.Token
import YamlShape.Yaml.Token.Folding

namespace YamlShape.Yaml

set_option autoImplicit false

namespace Quoted

/-! ## Escapes -/

def letterEscape? : Char → Option Char
  | '0' => some '\x00'
  | 'a' => some '\x07'
  | 'b' => some '\x08'
  | 't' => some '\t'
  | '\t' => some '\t'
  | 'n' => some '\n'
  | 'v' => some '\x0b'
  | 'f' => some '\x0c'
  | 'r' => some '\r'
  | 'e' => some '\x1b'
  | ' ' => some ' '
  | '"' => some '"'
  | '/' => some '/'
  | '\\' => some '\\'
  | 'N' => some '\x85'
  | '_' => some '\xa0'
  | 'L' => some '\u2028'
  | 'P' => some '\u2029'
  | _ => none

def codeLength? : Char → Option Nat
  | 'x' => some 2
  | 'u' => some 4
  | 'U' => some 8
  | _ => none

/-- The number that a run of hexadecimal digits stands for, if all are digits
and none is missing. -/
def codeValue? (digits : List Char) (count : Nat) : Option Nat :=
  if digits.length < count then none
  else digits.foldlM (fun value c => (Text.hexValue? c).map (16 * value + ·)) 0

/-- The escape behind a backslash that stands here, and the cursor behind it. -/
def escape (start : Mark) (cursor : Cursor) : Except SyntaxError (Char × Cursor) :=
  match cursor.peekAt 1 with
  | none => cursor.problem .unknownEscape .escape start
  | some letter =>
    match letterEscape? letter, codeLength? letter with
    | some c, _ => .ok (c, cursor.skip 2)
    | none, none => cursor.problem .unknownEscape .escape start
    | none, some count =>
      let digits := cursor.skip 2
      match codeValue? (digits.rest.take count) count with
      | none => digits.problem .missingHexDigit .escape start
      | some code =>
        if code.isValidChar then .ok (Char.ofNat code, digits.skip count)
        else digits.problem .badEscapeCode .escape start

/-! ## Scalars -/

def read (quote : Char) (start : Mark) :
    Nat → String → Pending → Cursor → Except SyntaxError (String × Cursor)
  | 0, _, _, cursor => cursor.problem .endOfStream .quotedScalar start
  | turns + 1, text, pending, cursor =>
    match cursor.rest with
    | [] => cursor.problem .endOfStream .quotedScalar start
    | c :: rest =>
      if isBlank c then read quote start turns text (pending.addBlank c) (cursor.skip 1)
      else if isBreak c then
        let (kept, next) := cursor.takeLineEnd
        read quote start turns text (kept.foldl Pending.addLine pending) next
      else if cursor.atDocumentIndicator then
        cursor.problem .documentIndicator .quotedScalar start
      else
        let text := text ++ pending.joint
        if c = quote then
          if quote = '\'' ∧ rest.head? = some '\'' then
            read quote start turns (text.push '\'') .none (cursor.skip 2)
          else .ok (text, cursor)
        else if quote = '"' ∧ c = '\\' then
          if rest.head?.any isBreak then
            read quote start turns text (.lines none "") (cursor.skip 1).takeLineEnd.2
          else do
            let (escaped, next) ← escape start cursor
            read quote start turns (text.push escaped) .none next
        else read quote start turns (text.push c) .none (cursor.skip 1)

/-- Reads the scalar whose opening quote stands here. -/
def token (quote : Char) (cursor : Cursor) : Except SyntaxError (Token × Cursor) := do
  let start := cursor.mark
  let (text, closing) ← read quote start cursor.turns "" .none (cursor.skip 1)
  let behind := closing.skip 1
  return ({ word := .scalar text false, start, stop := behind.mark }, behind)

end Quoted

end YamlShape.Yaml
