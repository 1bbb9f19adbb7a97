/-
# YamlShape.Yaml.BlockText -- values in block style

A value is written in block style, two columns for each level: a sequence has a
dash before each item and is not indented inside a mapping; a mapping has a
colon behind each key, or, where a key does not fit before a colon on its line,
a question mark before it and a colon on the next line.  Tags stand before their
values, empty collections in brackets.

A mapping of one entry has the form of a tagged value, so one whose key has that
form too cannot be written; then there is no text.
-/
import YamlShape.Text.Bytes
import YamlShape.Yaml.Style

namespace YamlShape.Yaml

set_option autoImplicit false

namespace Value

/-! ## Values that can be written -/

def hasTagForm : Value → Bool
  | .mapping [_] => true
  | .tagged _ _ => true
  | _ => false

mutual

/-- Whether a value can be written; `tagged` holds right below a tag. -/
def isWritable (tagged : Bool) : Value → Bool
  | .sequence items => itemsWritable items
  | .mapping [(key, value)] =>
    (tagged || !hasTagForm key) && isWritable false key && isWritable false value
  | .mapping entries => entriesWritable entries
  | .tagged _ value => isWritable true value
  | _ => true

def itemsWritable : List Value → Bool
  | [] => true
  | item :: rest => isWritable false item && itemsWritable rest

def entriesWritable : List (Value × Value) → Bool
  | [] => true
  | (key, value) :: rest =>
    isWritable false key && isWritable false value && entriesWritable rest

end

/-! ## Tags and keys -/

/-- A character of a tag, escaped by its bytes unless it is allowed there. -/
def tagChar (c : Char) : String :=
  if isNameChar c || ";/?:@&=+$,.~*'()[]".toList.contains c then c.toString
  else String.join ((Text.bytes c.toString).map fun byte =>
    "%" ++ Text.upperHex 2 byte.toNat)

def tagChars (text : String) : String :=
  String.join (text.toList.map tagChar)

def tagText (name : String) : String :=
  let full := if name.startsWith "!" then name else "!" ++ name
  if full = "!" then "!<" ++ tagChars full ++ ">"
  else "!" ++ tagChars (full.drop 1).toString

def tagSize (name : String) : Nat :=
  (if name.startsWith "!" then name else "!" ++ name).utf8ByteSize

def scalarText? : Value → Option (String × Style)
  | .string text => some (text, Style.wanted text)
  | value => value.literal?.map (·, .plain)

/-- Whether a key fits before its colon: it is a scalar of one line or an empty
collection, of at most 128 bytes with its tag. -/
def fitsBeforeColon (tagBytes : Nat) : Value → Bool
  | .tagged name value => fitsBeforeColon (tagSize name) value
  | .sequence items => items.isEmpty && tagBytes ≤ 128
  | .mapping entries => entries.isEmpty && tagBytes ≤ 128
  | value =>
    match value.scalarText? with
    | some (text, _) => !text.toList.any isBreak && tagBytes + text.utf8ByteSize ≤ 128
    | none => false

/-! ## Writing -/

/-- Where a value stands: the column of the collection around it, if there is
one, whether that is a mapping, and whether the value is a key before its colon. -/
structure Place where
  column : Option Nat := none
  inMapping : Bool := false
  beforeColon : Bool := false

namespace Place

def scalarColumn (place : Place) : Nat :=
  place.column.elim 2 (· + 2)

/-- The column of a collection; a bare one stands where the one around it does. -/
def collectionColumn (place : Place) (bare : Bool) : Nat :=
  place.column.elim 0 fun column => if bare then column else column + 2

end Place

mutual

/-- Adds a value at a place. -/
def write (place : Place) (layout : Layout) : Value → Layout
  | .tagged name value => write place ((layout.space.append (tagText name)).content) value
  | .sequence [] =>
    (layout.indicator "[" true true false).indicator "]" false false false
  | .sequence (item :: items) =>
    let column := place.collectionColumn (place.inMapping && !layout.indenting)
    writeItems column layout (item :: items)
  | .mapping [] =>
    (layout.indicator "\x7b" true true false).indicator "\x7d" false false false
  | .mapping (entry :: entries) =>
    writeEntries (place.collectionColumn false) layout (entry :: entries)
  | .string text =>
    let style := (Style.wanted text).possible (.of text.toList) place.beforeColon
    layout.scalar place.scalarColumn style text
  | .null => layout.plain "null"
  | .bool value => layout.plain (if value then "true" else "false")
  | .integer value => layout.plain (toString value)
  | .float value => layout.plain value.text

def writeItems (column : Nat) (layout : Layout) : List Value → Layout
  | [] => layout
  | item :: rest =>
    let dashed := (layout.indent column).indicator "-" true false true
    writeItems column (write { column := some column } dashed item) rest

def writeEntries (column : Nat) (layout : Layout) : List (Value × Value) → Layout
  | [] => layout
  | (key, value) :: rest =>
    let place : Place := { column := some column, inMapping := true }
    let start := layout.indent column
    let behindKey :=
      if key.fitsBeforeColon 0 then
        (write { place with beforeColon := true } start key).indicator ":" false false false
      else
        let written := write place (start.indicator "?" true false true) key
        (written.indent column).indicator ":" true false true
    writeEntries column (write place behindKey value) rest

end

/-- The text of a value in block style, if it can be written. -/
def blockText? (value : Value) : Option String :=
  if value.isWritable false then some (value.write {} {}).text else none

end Value

end YamlShape.Yaml
