/-
# YamlShape.Yaml.Style -- how a scalar is written

A scalar is written plain if it can be and would be read as the same value, in
quotes otherwise, and line by line if it has line feeds.  What cannot be written
in the style chosen falls back to single and then to double quotes, in which
everything can be written.
-/
import YamlShape.Yaml.Layout
import YamlShape.Yaml.Scalar

namespace YamlShape.Yaml

set_option autoImplicit false

/-! ## What a text is made of -/

def isWritable (c : Char) : Bool :=
  let code := c.toNat
  c = '\n' || (0x20 ≤ code && code ≤ 0x7E)
    || (0xA0 ≤ code && code ≠ 0xFEFF && code ≠ 0xFFFE && code ≠ 0xFFFF)

def withNeighbours (before : Option Char) : List Char → List (Option Char × Char × Option Char)
  | [] => []
  | c :: rest => (before, c, rest.head?) :: withNeighbours (some c) rest

/-- Whether a character stands for something else than itself in a plain scalar. -/
def isIndicator (before : Option Char) (c : Char) (next : Option Char) : Bool :=
  let ends := isBlankOrEnd next
  (before.isNone && ("#,[]\x7b\x7d&*!|>'\"%@`".toList.contains c || ((c = '?' || c = '-') && ends)))
    || (c = ':' && ends)
    || (c = '#' && before.any fun d => isBlank d || isBreak d)

structure Analysis where
  multiline : Bool
  plainAllowed : Bool
  singleAllowed : Bool
  literalAllowed : Bool

/-- Whether a text is in the form of a line that starts or ends a document. -/
def startsLikeIndicator (text : List Char) : Bool :=
  text.take 3 = ['-', '-', '-'] || text.take 3 = ['.', '.', '.']

def Analysis.of (text : List Char) : Analysis :=
  let places := withNeighbours none text
  let multiline := text.any isBreak
  let edge (c : Option Char) : Bool := c.any fun c => c = ' ' || isBreak c
  let edges := edge text.head? || edge text.getLast?
  let spaceBeforeBreak := places.any fun (_, c, next) => c = ' ' && next.any isBreak
  let spaceBehindBreak := places.any fun (before, c, _) => c = ' ' && before.any isBreak
  let special := spaceBeforeBreak || text.any (!isWritable ·)
  let indicators := startsLikeIndicator text
    || places.any fun (before, c, next) => isIndicator before c next
  { multiline
    plainAllowed := !(edges || spaceBehindBreak || special || multiline || indicators)
    singleAllowed := !(spaceBehindBreak || special)
    literalAllowed := !(special || text.isEmpty || text.getLast? = some ' ') }

/-! ## Styles -/

inductive Style where
  | plain
  | single
  | double
  | literal
  deriving DecidableEq

/-- The style that a string asks for: single quotes where it would be read as
something else, or has a leading zero. -/
def Style.wanted (text : String) : Style :=
  if text.toList.contains '\n' then .literal
  else match Scalar.plain text with
    | .ok (.string _) => if Scalar.hasLeadingZero text.toList then .single else .plain
    | _ => .single

/-- The style that a text can be written in.  A key before its colon stands on
one line. -/
def Style.possible (wanted : Style) (analysis : Analysis) (beforeColon : Bool) : Style :=
  let style := if beforeColon && analysis.multiline then .double else wanted
  let style := if style = .plain && !analysis.plainAllowed then .single else style
  let style := if style = .single && !analysis.singleAllowed then .double else style
  if style = .literal && (!analysis.literalAllowed || beforeColon) then .double else style

/-! ## Writing -/

namespace Layout

def plain (layout : Layout) (text : String) : Layout :=
  ((if text.isEmpty then layout else layout.space).append text).content

/-- Adds the characters of a text in single quotes; `broken` holds behind a line
end. -/
def singleQuotedChars (column : Nat) : Bool → List Char → Layout → Layout
  | broken, [], layout => if broken then layout.indent column else layout
  | broken, c :: rest, layout =>
    if isBreak c then
      let layout := if c = '\n' && !broken then layout.endLine else layout
      singleQuotedChars column true rest { layout.endLineBy c with indenting := true }
    else if c = ' ' then singleQuotedChars column broken rest (layout.push c)
    else
      let layout := if broken then layout.indent column else layout
      let layout := if c = '\'' then layout.push c else layout
      singleQuotedChars column false rest { layout.push c with indenting := false }

def singleQuoted (layout : Layout) (column : Nat) (text : String) : Layout :=
  let opened := layout.indicator "'" true false false
  (singleQuotedChars column false text.toList opened).indicator "'" false false false |>.content

def doubleQuotedChar (c : Char) : String :=
  if c = '"' then "\\\""
  else if c = '\\' then "\\\\"
  else if isWritable c && !isBreak c then c.toString
  else match c with
    | '\x00' => "\\0"
    | '\x07' => "\\a"
    | '\x08' => "\\b"
    | '\t' => "\\t"
    | '\n' => "\\n"
    | '\x0b' => "\\v"
    | '\x0c' => "\\f"
    | '\r' => "\\r"
    | '\x1b' => "\\e"
    | '\x85' => "\\N"
    | '\u2028' => "\\L"
    | '\u2029' => "\\P"
    | c =>
      let code := c.toNat
      if code ≤ 0xFF then "\\x" ++ Text.upperHex 2 code
      else if code ≤ 0xFFFF then "\\u" ++ Text.upperHex 4 code
      else "\\U" ++ Text.upperHex 8 code

def doubleQuoted (layout : Layout) (text : String) : Layout :=
  let opened := layout.indicator "\"" true false false
  let written := opened.append (String.join (text.toList.map doubleQuotedChar))
  (written.indicator "\"" false false false).content

/-- The header of a literal scalar behind its bar: the indentation where the text
does not show it, and what becomes of the line ends at its end. -/
def literalHints (text : List Char) : String :=
  let indentation := if text.head?.any (fun c => c = ' ' || isBreak c) then "2" else ""
  let chomping := match text.reverse with
    | [] => "-"
    | last :: before =>
      if !isBreak last then "-"
      else if before.head?.all isBreak then "+"
      else ""
  indentation ++ chomping

/-- Adds the lines of a literal scalar; `broken` holds behind a line end. -/
def literalChars (column : Nat) : Bool → List Char → Layout → Layout
  | _, [], layout => layout
  | broken, c :: rest, layout =>
    if isBreak c then
      literalChars column true rest { layout.endLineBy c with indenting := true }
    else
      let layout := if broken then layout.indent column else layout
      literalChars column false rest { layout.push c with indenting := false }

def literal (layout : Layout) (column : Nat) (text : String) : Layout :=
  let header := layout.indicator ("|" ++ literalHints text.toList) true false false
  let body := { header.endLine with blank := true, indenting := true }
  literalChars column true text.toList body

/-- Adds a scalar in a style; further lines start at a column. -/
def scalar (layout : Layout) (column : Nat) (style : Style) (text : String) : Layout :=
  match style with
  | .plain => layout.plain text
  | .single => layout.singleQuoted column text
  | .double => layout.doubleQuoted text
  | .literal => layout.literal column text

end Layout

end YamlShape.Yaml
