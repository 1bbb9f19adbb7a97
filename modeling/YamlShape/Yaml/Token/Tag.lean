/-
# YamlShape.Yaml.Token.Tag -- tags, anchors and directives

A tag is written in full between `!<` and `>`, or as a handle and a suffix: the
handle is `!`, `!!` or a name between exclamation marks.  A suffix may name
bytes by escapes; escaped bytes have to come in the groups of UTF-8.  A zero
byte ends a tag.
-/
import YamlShape.Text.Bytes
import YamlShape.Text.Hex
import YamlShape.Yaml.Token
import YamlShape.Yaml.Cursor

namespace YamlShape.Yaml

set_option autoImplicit false

/-! ## Suffixes -/

namespace Tag

/-- A character of a suffix.  Inside `<` and `>` commas and square brackets are
allowed too. -/
def isSuffixChar (verbatim : Bool) (c : Char) : Bool :=
  isNameChar c || ";/?:@&=+$.%!~*'()".toList.contains c ||
    (verbatim && (c = ',' || c = '[' || c = ']'))

/-- The number of bytes in the group that a byte leads. -/
def groupLength? (byte : Nat) : Option Nat :=
  if byte < 0x80 then some 1
  else if byte < 0xC0 then none
  else if byte < 0xE0 then some 2
  else if byte < 0xF0 then some 3
  else if byte < 0xF8 then some 4
  else none

def octet? (cursor : Cursor) : Option Nat :=
  match cursor.rest with
  | '%' :: high :: low :: _ =>
    match Text.hexValue? high, Text.hexValue? low with
    | some high, some low => some (16 * high + low)
    | _, _ => none
  | _ => none

/-- Reads the bytes of a group behind the first. -/
def trailingOctets (construct : Construct) (start : Mark) :
    Nat → TagBytes → Cursor → Except SyntaxError (TagBytes × Cursor)
  | 0, bytes, cursor => .ok (bytes, cursor)
  | count + 1, bytes, cursor =>
    match octet? cursor with
    | none => cursor.problem .missingOctet construct start
    | some byte =>
      if 0x80 ≤ byte ∧ byte < 0xC0 then
        trailingOctets construct start count (bytes ++ [UInt8.ofNat byte]) (cursor.skip 3)
      else cursor.problem .badTrailingOctet construct start

def octets (construct : Construct) (start : Mark) (cursor : Cursor) :
    Except SyntaxError (TagBytes × Cursor) :=
  match octet? cursor with
  | none => cursor.problem .missingOctet construct start
  | some byte =>
    match groupLength? byte with
    | none => cursor.problem .badLeadingOctet construct start
    | some count =>
      trailingOctets construct start (count - 1) [UInt8.ofNat byte] (cursor.skip 3)

/-- Reads the characters and escapes of a suffix. -/
def suffixBytes (verbatim : Bool) (construct : Construct) (start : Mark) :
    Nat → TagBytes → Cursor → Except SyntaxError (TagBytes × Cursor)
  | 0, bytes, cursor => .ok (bytes, cursor)
  | turns + 1, bytes, cursor =>
    match cursor.peek with
    | none => .ok (bytes, cursor)
    | some c =>
      if !isSuffixChar verbatim c then .ok (bytes, cursor)
      else if c = '%' then do
        let (group, next) ← octets construct start cursor
        suffixBytes verbatim construct start turns (bytes ++ group) next
      else
        suffixBytes verbatim construct start turns (bytes ++ [UInt8.ofNat c.toNat]) (cursor.skip 1)

/-- Reads a suffix behind what is known of it already.  Unless something is, it
may not be empty. -/
def suffix (verbatim : Bool) (construct : Construct) (known : Option TagBytes) (start : Mark)
    (cursor : Cursor) : Except SyntaxError (TagBytes × Cursor) := do
  let (bytes, next) ←
    suffixBytes verbatim construct start cursor.turns (known.getD []) cursor
  if known.isNone ∧ next.mark.index = cursor.mark.index then
    next.problem .missingTagUri construct start
  else return (bytes.takeWhile (· ≠ 0), next)

/-! ## Handles -/

/-- Reads `!`, a name, and a further `!` if it stands there. -/
def handle (construct : Construct) (start : Mark) (cursor : Cursor) :
    Except SyntaxError (String × Cursor) :=
  if !cursor.starts '!' then cursor.problem .missingExclamation construct start
  else
    let (name, cursor) := (cursor.skip 1).span isNameChar
    if cursor.starts '!' then .ok (String.ofList ('!' :: name ++ ['!']), cursor.skip 1)
    else .ok (String.ofList ('!' :: name), cursor)

def parts (start : Mark) (cursor : Cursor) :
    Except SyntaxError (String × TagBytes × Cursor) := do
  if cursor.peekAt 1 = some '<' then
    let (bytes, cursor) ← suffix true .tagUri none start (cursor.skip 2)
    if cursor.starts '>' then return ("", bytes, cursor.skip 1)
    else cursor.problem .missingTagClose .tag start
  else
    let (written, cursor) ← handle .tag start cursor
    if written.length > 1 ∧ written.endsWith "!" then
      let (bytes, cursor) ← suffix false .tagUri none start cursor
      return (written, bytes, cursor)
    else
      let known := (Text.bytes written).drop 1
      let (bytes, cursor) ← suffix false .tagUri (some known) start cursor
      if bytes.isEmpty then return ("", [0x21], cursor) else return ("!", bytes, cursor)

def token (flow : Bool) (cursor : Cursor) : Except SyntaxError (Token × Cursor) := do
  let start := cursor.mark
  let (handle, bytes, cursor) ← parts start cursor
  if isBlankOrEnd cursor.peek || (flow && cursor.starts ',') then
    return ({ word := .tag handle bytes, start, stop := cursor.mark }, cursor)
  else cursor.problem .missingSpaceOrLineEnd .tag start

end Tag

/-! ## Anchors and aliases -/

namespace Anchor

/-- Whether a name may end before a character. -/
def mayEnd (c : Option Char) : Bool :=
  isBlankOrEnd c || c.any fun c =>
    c = '?' || c = ':' || c = ',' || c = ']' || c = '\x7d' || c = '%' || c = '@' || c = '\x60'

def token (isAlias : Bool) (cursor : Cursor) : Except SyntaxError (Token × Cursor) :=
  let start := cursor.mark
  let (name, cursor) := (cursor.skip 1).span isNameChar
  if name.isEmpty || !mayEnd cursor.peek then
    cursor.problem .missingAnchorName (if isAlias then .alias else .anchor) start
  else
    let name := String.ofList name
    let word := if isAlias then .alias name else .anchor name
    .ok ({ word, start, stop := cursor.mark }, cursor)

end Anchor

/-! ## Directives -/

namespace Directive

def versionNumber (start : Mark) (cursor : Cursor) : Except SyntaxError (Nat × Cursor) :=
  let (digits, next) := cursor.span Char.isDigit
  if digits.length > 9 then (cursor.skip 9).problem .longVersionNumber .versionDirective start
  else if digits.isEmpty then next.problem .missingVersionNumber .versionDirective start
  else
    .ok (digits.foldl (fun value c => 10 * value + (c.toNat - '0'.toNat)) 0, next)

def version (start : Mark) (cursor : Cursor) : Except SyntaxError (Word × Cursor) := do
  let (major, cursor) ← versionNumber start cursor.skipBlanks
  if !cursor.starts '.' then cursor.problem .missingVersionDot .versionDirective start
  else
    let (minor, cursor) ← versionNumber start (cursor.skip 1)
    return (.versionDirective major minor, cursor)

def tagHandle (start : Mark) (cursor : Cursor) : Except SyntaxError (Word × Cursor) := do
  let (handle, cursor) ← Tag.handle .tagDirectiveStart start cursor.skipBlanks
  if !handle.endsWith "!" then cursor.problem .missingExclamation .tagDirectiveHandle start
  else if !cursor.peek.any isBlank then cursor.problem .missingSpace .tagDirective start
  else
    let (expansion, cursor) ← Tag.suffix true .tagDirectivePrefix none start cursor.skipBlanks
    if isBlankOrEnd cursor.peek then return (.tagDirective handle expansion, cursor)
    else cursor.problem .missingSpaceOrLineEnd .tagDirective start

def token (cursor : Cursor) : Except SyntaxError (Token × Cursor) := do
  let start := cursor.mark
  let (name, cursor) := (cursor.skip 1).span isNameChar
  if name.isEmpty then cursor.problem .missingDirectiveName .directive start
  else if !isBlankOrEnd cursor.peek then cursor.problem .badDirectiveName .directive start
  else
    let (word, cursor) ← match String.ofList name with
      | "YAML" => version start cursor
      | "TAG" => tagHandle start cursor
      | _ => cursor.problem .unknownDirective .directive start
    let behind := cursor.skipBlanks.skipComment
    if isBreakOrEnd behind.peek then
      return ({ word, start, stop := cursor.mark }, behind.takeLineEnd.2)
    else behind.problem .missingLineEnd .directive start

end Directive

end YamlShape.Yaml
