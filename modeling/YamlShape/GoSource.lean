/-
# YamlShape.GoSource -- records as Go struct declarations

A record is a block: a header line, one line for each field, a closing line.

    type User struct {
    	Name string `json:"name"`
    	Tags []string `json:"tags,omitempty"`
    }

Blocks are separated by one empty line.  Roots come first, in the order given,
and every other record after them, in the byte order of the names.

An `Emitter` writes blocks into a `Sink`, which may hold a limited number of
bytes.  A sink takes text character by character; the first character that does
not fit is refused, and so is every later one.  A block goes to the sink in pieces
(`goPieces`), and the first piece that is refused ends the block.

* `goBlock_eq`, `join_goPieces`: a block is its lines, each with a line feed, and its pieces
  make up the same text;
* `writeAll_eq`: a sink takes pieces as it takes the text that they make up.
-/
import YamlShape.Name
import YamlShape.Text.Bytes
import YamlShape.Walk

namespace YamlShape

set_option autoImplicit false

/-! ## Lines -/

namespace Text

/-- A text with a line feed behind each of its parts. -/
def ofLines (parts : List String) : String :=
  String.join (parts.map (· ++ "\n"))

theorem ofLines_cons (part : String) (parts : List String) :
    ofLines (part :: parts) = part ++ "\n" ++ ofLines parts := by
  rw [ofLines, List.map_cons, String.join_cons, ofLines]

theorem ofLines_append (first second : List String) :
    ofLines (first ++ second) = ofLines first ++ ofLines second := by
  rw [ofLines, List.map_append, String.join_append, ofLines, ofLines]

end Text

/-! ## Types and tags -/

/-- A type as Go source. -/
def TypeExpr.goText : TypeExpr → String
  | .scalar name => name
  | .recordRef name => name
  | .optional inner => "*" ++ inner.goText
  | .slice element => "[]" ++ element.goText
  | .genericMap => "map[string]any"
  | .any => "interface\x7b\x7d"

namespace Field

/-- Whether a field has no tag: there is no tag key or no source key. -/
def untagged (tagKey : String) (field : Field) : Bool :=
  tagKey.isEmpty || field.sourceKey.isEmpty

/-- The words of a tag after the source key, each with the comma before it. -/
def tagWords (field : Field) : List String :=
  (if field.omitEmpty then ["omitempty"] else []) ++ field.flags

/-- The tag of a field, which keeps the source key as it stands. -/
def goTag (tagKey : String) (field : Field) : String :=
  if field.untagged tagKey then ""
  else "`" ++ tagKey ++ ":\"" ++ field.sourceKey
    ++ String.join (field.tagWords.map ("," ++ ·)) ++ "\"`"

/-- The line that declares a field, without its line feed. -/
def line (tagKey : String) (field : Field) : String :=
  "\t" ++ Name.normalize field.sourceKey ++ " " ++ field.type.goText
    ++ (if field.untagged tagKey then "" else " " ++ field.goTag tagKey)

def goLine (tagKey : String) (field : Field) : String :=
  field.line tagKey ++ "\n"

end Field

namespace Record

/-- A header, a line for every field, and a closing brace. -/
def lines (tagKey : String) (record : Record) : List String :=
  ("type " ++ record.name ++ " struct \x7b") :: record.fields.map (·.line tagKey) ++ ["\x7d"]

/-- The block that declares a record. -/
def goBlock (tagKey : String) (record : Record) : String :=
  Text.ofLines (record.lines tagKey)

theorem goBlock_eq (tagKey : String) (record : Record) :
    record.goBlock tagKey = "type " ++ record.name ++ " struct \x7b\n"
      ++ String.join (record.fields.map (·.goLine tagKey)) ++ "\x7d\n" := by
  have fields : Text.ofLines (record.fields.map (·.line tagKey)) =
      String.join (record.fields.map (·.goLine tagKey)) := by
    rw [Text.ofLines, List.map_map]
    rfl
  have header : " struct \x7b\n" = " struct \x7b" ++ "\n" := rfl
  have closing : Text.ofLines ["\x7d"] = "\x7d\n" := rfl
  rw [goBlock, lines, List.cons_append, Text.ofLines_cons, Text.ofLines_append, fields, header,
    closing]
  simp only [String.append_assoc]

end Record

/-! ## Pieces

What is written at once: the pieces of a text, in order. -/

theorem join_flatMap {α : Type} (pieces : α → List String) (items : List α) :
    String.join (items.flatMap pieces) =
      String.join (items.map fun item => String.join (pieces item)) := by
  induction items with
  | nil => rfl
  | cons item rest ih =>
      rw [List.flatMap_cons, String.join_append, ih, List.map_cons, String.join_cons]

def TypeExpr.goPieces : TypeExpr → List String
  | .scalar name => [name]
  | .recordRef name => [name]
  | .optional inner => "*" :: inner.goPieces
  | .slice element => "[]" :: element.goPieces
  | .genericMap => ["map[string]any"]
  | .any => ["interface\x7b\x7d"]

theorem TypeExpr.join_goPieces (type : TypeExpr) : String.join type.goPieces = type.goText := by
  induction type with
  | optional inner ih => rw [goPieces, String.join_cons, ih, goText]
  | slice element ih => rw [goPieces, String.join_cons, ih, goText]
  | _ => simp [goPieces, goText, String.join_cons, String.join_nil]

namespace Field

def goTagPieces (tagKey : String) (field : Field) : List String :=
  if field.untagged tagKey then []
  else ["`", tagKey, ":\"", field.sourceKey]
    ++ field.tagWords.flatMap ([",", ·]) ++ ["\"`"]

def goLinePieces (tagKey : String) (field : Field) : List String :=
  ["\t", Name.normalize field.sourceKey, " "] ++ field.type.goPieces
    ++ (if field.untagged tagKey then [] else " " :: field.goTagPieces tagKey) ++ ["\n"]

theorem join_goTagPieces (tagKey : String) (field : Field) :
    String.join (field.goTagPieces tagKey) = field.goTag tagKey := by
  rw [goTagPieces, goTag]
  split
  · exact String.join_nil
  · simp only [String.join_append, String.join_cons, String.join_nil, join_flatMap,
      String.append_assoc, String.append_empty]

theorem join_goLinePieces (tagKey : String) (field : Field) :
    String.join (field.goLinePieces tagKey) = field.goLine tagKey := by
  rw [goLinePieces, goLine, line]
  simp only [String.join_append, String.join_cons, String.join_nil, TypeExpr.join_goPieces,
    String.append_assoc, String.append_empty]
  split <;> simp only [String.join_cons, String.join_nil, join_goTagPieces]

end Field

def Record.goPieces (tagKey : String) (record : Record) : List String :=
  ["type ", record.name, " struct \x7b\n"]
    ++ record.fields.flatMap (·.goLinePieces tagKey) ++ ["\x7d\n"]

theorem Record.join_goPieces (tagKey : String) (record : Record) :
    String.join (record.goPieces tagKey) = record.goBlock tagKey := by
  rw [goPieces, goBlock_eq]
  simp only [String.join_append, String.join_cons, String.join_nil, join_flatMap,
    Field.join_goLinePieces, String.append_assoc, String.append_empty]

/-! ## Order of emission -/

namespace Registry

/-- The keys in order of emission: roots that are registered, each once, then
every other key in byte order. -/
def emissionKeys (registry : Registry) (roots : List String) : List String :=
  roots.eraseDups.filter registry.contains
    ++ (registry.keys.filter (· ∉ roots)).mergeSort Text.byteOrder

/-- The records in order of emission. -/
def emissionOrder (registry : Registry) (roots : List String) : List Record :=
  (registry.emissionKeys roots).filterMap registry.get?

end Registry

/-! ## Sinks -/

/-- Where text goes.  Without a capacity every character is taken. -/
structure Sink where
  capacity : Option Nat := none
  text : String := ""
  closed : Bool := false

namespace Sink

/-- Whether one more character is taken. -/
def takes (sink : Sink) (c : Char) : Bool :=
  !sink.closed &&
    match sink.capacity with
    | none => true
    | some capacity => sink.text.utf8ByteSize + c.utf8Size ≤ capacity

/-- Writes characters up to the first one that is refused; the flag says whether
all were taken. -/
def writeChars (sink : Sink) : List Char → Sink × Bool
  | [] => (sink, true)
  | c :: rest =>
    if sink.takes c then writeChars { sink with text := sink.text.push c } rest
    else ({ sink with closed := true }, false)

def write (sink : Sink) (text : String) : Sink × Bool :=
  sink.writeChars text.toList

/-- Writes pieces of a text up to the first one that is refused. -/
def writeAll (sink : Sink) : List String → Sink × Bool
  | [] => (sink, true)
  | piece :: rest =>
    match sink.write piece with
    | (sink, true) => sink.writeAll rest
    | (sink, false) => (sink, false)

theorem writeChars_append (sink : Sink) (first second : List Char) :
    sink.writeChars (first ++ second) =
      match sink.writeChars first with
      | (sink, true) => sink.writeChars second
      | (sink, false) => (sink, false) := by
  induction first generalizing sink with
  | nil => rfl
  | cons c rest ih =>
      rw [List.cons_append, writeChars, writeChars]
      split
      · exact ih _
      · rfl

/-- How a text is cut into pieces makes no difference to a sink. -/
theorem writeAll_eq (sink : Sink) (pieces : List String) :
    sink.writeAll pieces = sink.write (String.join pieces) := by
  induction pieces generalizing sink with
  | nil => rfl
  | cons piece rest ih =>
      rw [String.join_cons, write, String.toList_append, writeChars_append, writeAll]
      simp only [ih]
      rfl

end Sink

/-! ## Emitters -/

/-- Writes blocks into a sink and counts those that were completed. -/
structure Emitter where
  tagKey : String
  sink : Sink := {}
  blocks : Nat := 0

namespace Emitter

/-- What stands before the next block: an empty line if it is not the first. -/
def separator (emitter : Emitter) : List String :=
  if emitter.blocks = 0 then [] else ["\n"]

/-- Writes one record. -/
def emitRecord (emitter : Emitter) (record : Record) : Emitter × Bool :=
  let (sink, complete) :=
    emitter.sink.writeAll (emitter.separator ++ record.goPieces emitter.tagKey)
  let blocks := if complete then emitter.blocks + 1 else emitter.blocks
  ({ emitter with sink, blocks }, complete)

/-- Writes records up to the first one that is refused. -/
def emitRecords (emitter : Emitter) : List Record → Emitter × Bool
  | [] => (emitter, true)
  | record :: rest =>
    match emitter.emitRecord record with
    | (emitter, true) => emitter.emitRecords rest
    | (emitter, false) => (emitter, false)

/-- Writes the records of a registry in order of emission. -/
def emit (emitter : Emitter) (registry : Registry) (roots : List String) : Emitter × Bool :=
  emitter.emitRecords (registry.emissionOrder roots)

end Emitter

/-- The Go source of a registry; an empty registry gives an empty text. -/
def Registry.render (registry : Registry) (roots : List String) (tagKey : String) : String :=
  (({ tagKey } : Emitter).emit registry roots).1.sink.text

end YamlShape
