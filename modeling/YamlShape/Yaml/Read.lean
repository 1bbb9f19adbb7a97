/-
# YamlShape.Yaml.Read -- the values of a text

Every document of a text has a value; the first document that has none makes an
error of the whole text.  Collections may be nested 128 deep, and a document may
follow at most a hundred aliases for each of its events.

A local tag, one that starts with an exclamation mark, stays with its value.

An error in a value tells the path to that value.
-/
import YamlShape.Yaml.Scalar
import YamlShape.Yaml.Tree

namespace YamlShape.Yaml

set_option autoImplicit false

/-! ## Paths -/

/-- The way from the root to a value.  A key that is not a scalar has no text. -/
inductive Path where
  | root
  | item (parent : Path) (index : Nat)
  | entry (parent : Path) (key : Option String)

namespace Path

mutual

def text : Path → String
  | .root => "."
  | .item parent index => parent.text ++ "[" ++ toString index ++ "]"
  | .entry parent key => parent.textBefore ++ key.getD "?"

/-- The text of a path before a key. -/
def textBefore : Path → String
  | .root => ""
  | .item parent index => parent.text ++ "[" ++ toString index ++ "]."
  | .entry parent key => parent.textBefore ++ key.getD "?" ++ "."

end

end Path

/-! ## Errors -/

inductive ReadError where
  | controlCharacter (offset : Nat)
  | malformed (error : SyntaxError)
  | unknownAnchor (mark : Mark)
  | tooDeep (mark : Mark)
  | tooManyAliases
  | badValue (path : Path) (mark : Mark) (fault : Fault)

def ReadError.message : ReadError → String
  | .controlCharacter offset =>
    "control characters are not allowed"
      ++ if offset = 0 then "" else " at position " ++ toString offset
  | .malformed error => error.message
  | .unknownAnchor mark => "unknown anchor" ++ mark.suffix
  | .tooDeep mark => "recursion limit exceeded" ++ mark.suffix
  | .tooManyAliases => "repetition limit exceeded"
  | .badValue path mark fault =>
    let text := path.text
    (if text = "." then "" else text ++ ": ") ++ fault.message ++ mark.suffix

def Break.error : Break → ReadError
  | .malformed error => .malformed error
  | .unknownAnchor mark => .unknownAnchor mark

/-! ## Tags -/

inductive TagMeaning where
  | local (name : String)
  | unreadable
  | core (type : CoreType)
  | other

def coreNamespace : String := "tag:yaml.org,2002:"

/-- A text without one leading exclamation mark, unless it is nothing else. -/
def withoutExclamation (text : String) : String :=
  if text.startsWith "!" ∧ text ≠ "!" then (text.drop 1).toString else text

/-- What the bytes of a tag say.  The name of a local tag is without the
exclamation mark that makes it one, and without a second. -/
def TagMeaning.ofBytes (bytes : TagBytes) : TagMeaning :=
  match bytes, String.fromUTF8? ⟨bytes.toArray⟩ with
  | 0x21 :: _, none => .unreadable
  | 0x21 :: _, some text => .local (withoutExclamation (withoutExclamation text))
  | _, some text =>
    if text = coreNamespace ++ "bool" then .core .bool
    else if text = coreNamespace ++ "int" then .core .int
    else if text = coreNamespace ++ "float" then .core .float
    else if text = coreNamespace ++ "null" then .core .null
    else .other
  | _, none => .other

def localTag? (tag : Option TagBytes) : Option String :=
  match tag.map TagMeaning.ofBytes with
  | some (.local name) => some name
  | _ => none

/-- What a scalar stands for.  Below a local tag, and below one that should be
local but is no text, it is read as if it had no tag. -/
def scalarValue (tag : Option TagBytes) (text : String) (plain : Bool) : Except Fault Value :=
  match tag.map TagMeaning.ofBytes with
  | some (.core type) => Scalar.ofType type text
  | some .other => .ok (.string text)
  | some (.local _) | some .unreadable | none =>
    if plain then Scalar.plain text else .ok (.string text)

/-! ## Values of trees -/

/-- Readings count the aliases that they have followed. -/
abbrev Reading := StateT Nat (Except ReadError)

namespace Document

def breakError (document : Document) : ReadError :=
  match document.failure with
  | some failure => failure.error
  | none => .malformed { problem := .endOfStream, mark := {} }

/-- Follows an alias, within the limit. -/
def follow (document : Document) (anchor : Nat) : Reading Tree := do
  let followed ← get
  if document.size * 100 < followed + 1 then throw .tooManyAliases
  else
    set (followed + 1)
    return (document.anchored.lookup anchor).getD .missing

def readItems (read : Path → Tree → Reading Value) (path : Path) :
    Nat → List Tree → Reading (List Value)
  | _, [] => return []
  | index, item :: rest => do
    let value ← read (.item path index) item
    let values ← readItems read path (index + 1) rest
    return value :: values

def keyText? : Tree → Option String
  | .scalar _ text _ _ => some text
  | _ => none

def readEntries (read : Path → Tree → Reading Value) (path : Path) (mark : Mark) :
    List (Value × Value) → List Tree → Reading (List (Value × Value))
  | known, keyPart :: valuePart :: rest => do
    let key ← read path keyPart
    if Value.hasKey known key then throw (.badValue path mark (.duplicateKey key))
    else
      let value ← read (.entry path (keyText? keyPart)) valuePart
      readEntries read path mark (known ++ [(key, value)]) rest
  | known, [keyPart] => do
    -- the document breaks off behind this key, which may be at fault itself
    let _ ← read path keyPart
    return known
  | known, [] => return known

/-- The value under a local tag, or as it is. -/
def withTag (tag : Option TagBytes) (value : Value) : Value :=
  match localTag? tag with
  | some name => .tagged name value
  | none => value

/-- Reads a node that is not an alias; `inner` reads the nodes inside a
collection, if it may have any. -/
def readNode (document : Document) (inner : Option (Path → Tree → Reading Value))
    (path : Path) : Tree → Reading Value
  | .scalar tag text plain mark =>
    match scalarValue tag text plain with
    | .ok value => return withTag tag value
    | .error fault => throw (.badValue path mark fault)
  | .sequence tag items mark =>
    match inner with
    | none => throw (.tooDeep mark)
    | some read => do return withTag tag (.sequence (← readItems read path 0 items))
  | .mapping tag parts mark =>
    match inner with
    | none => throw (.tooDeep mark)
    | some read => do return withTag tag (.mapping (← readEntries read path mark [] parts))
  | .alias _ _ | .missing => throw document.breakError

/-- Reads a node with at most `depth` collections inside one another. -/
def readTree (document : Document) : Nat → Path → Tree → Reading Value
  | depth, path, tree => do
    let inner := match depth with
      | 0 => none
      | depth + 1 => some (document.readTree depth)
    match tree with
    | .alias anchor _ => document.readNode inner path (← document.follow anchor)
    | tree => document.readNode inner path tree

def depthLimit : Nat := 128

def value (document : Document) : Except ReadError Value := do
  let (value, _) ← (document.readTree depthLimit .root document.root).run 0
  -- what was read before the document broke off is no value of it
  match document.failure with
  | some failure => throw failure.error
  | none => return value

end Document

/-! ## Texts -/

/-- The offset in bytes of the first character that a text may not hold. -/
def controlCharacter? : Nat → List Char → Option Nat
  | _, [] => none
  | offset, c :: rest =>
    if isAllowed c then controlCharacter? (offset + c.utf8Size) rest else some offset

def read (text : String) : Except ReadError (List Value) :=
  match controlCharacter? 0 text.toList with
  | some offset => .error (.controlCharacter offset)
  | none => (documents text.toList).mapM Document.value

end YamlShape.Yaml
