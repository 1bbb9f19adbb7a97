/-
# YamlShape.Proofs.Lines -- the lines of the Go source

A block has a line for its header, one for every field and one for the closing brace, and
an empty line keeps two blocks apart (`Generation.render_eq_ofLines`).  Each of them ends
in a line feed, but it need not be a line: whatever stands in a key is written as it
stands, and a key may hold a line feed.

Then it comes up again and again.  The key is in the identifier and in the tag of its
field, and it may name the record below it, which is in a header and in the types that
refer to it.  No other part of a line has one: the upper-case forms do not bring it in
(`Name.newline_mem_normalize`), and the names in a type are those of scalars and of
records (`Generation.newline_notMem_goText`).  So the text has the lines that it was
written with exactly if no name of a record and no key of a field holds a line feed
(`run_one_line_per_field_iff`).
-/
import Mathlib.Algebra.GroupWithZero.Nat
import YamlShape.Proofs.References
import YamlShape.Proofs.Unambiguous

namespace YamlShape

set_option autoImplicit false

/-! ## Lines of a text -/

namespace Text

/-- The lines of a text, each up to the line feed that ends it.  What stands behind the
last line feed is none. -/
def lines (text : String) : List String :=
  ((text.toList.splitOn '\n').dropLast).map String.ofList

theorem length_splitOn (text : List Char) :
    (text.splitOn '\n').length = text.count '\n' + 1 := by
  induction text with
  | nil => rfl
  | cons c rest ih =>
      rw [List.splitOn_cons_eq_if_modifyHead]
      by_cases feed : c = '\n'
      · simp [feed, ih]
      · simp [feed, ih]

/-- A text has as many lines as line feeds. -/
theorem length_lines (text : String) : (lines text).length = text.toList.count '\n' := by
  rw [lines, List.length_map, List.length_dropLast, length_splitOn, Nat.add_sub_cancel]

theorem splitOn_ofLines {parts : List String} (clear : ∀ part ∈ parts, '\n' ∉ part.toList) :
    (ofLines parts).toList.splitOn '\n' = parts.map String.toList ++ [[]] := by
  induction parts with
  | nil => rfl
  | cons part rest ih =>
      obtain ⟨first, others⟩ := List.forall_mem_cons.1 clear
      have cut : (ofLines (part :: rest)).toList =
          part.toList ++ '\n' :: (ofLines rest).toList := by
        simp [ofLines_cons]
      rw [cut, List.splitOn_append_cons_self_of_not_mem first, ih others]
      rfl

/-- Parts without line feeds are the lines of their text. -/
theorem lines_ofLines {parts : List String} (clear : ∀ part ∈ parts, '\n' ∉ part.toList) :
    lines (ofLines parts) = parts := by
  rw [lines, splitOn_ofLines clear, List.dropLast_concat, List.map_map]
  have same : String.ofList ∘ String.toList = id := funext fun _ => String.ofList_toList
  rw [same, List.map_id]

theorem count_ofLines (parts : List String) :
    (ofLines parts).toList.count '\n' =
      parts.length + (parts.map fun part => part.toList.count '\n').sum := by
  induction parts with
  | nil => rfl
  | cons part rest ih =>
      have feed : "\n".toList.count '\n' = 1 := rfl
      rw [ofLines_cons, String.toList_append, String.toList_append, List.count_append,
        List.count_append, feed, ih, List.length_cons, List.map_cons, List.sum_cons]
      omega

/-- A text has as many lines as parts exactly if no part has a line feed of its own. -/
theorem length_lines_ofLines_iff {parts : List String} :
    (lines (ofLines parts)).length = parts.length ↔ ∀ part ∈ parts, '\n' ∉ part.toList := by
  rw [length_lines, count_ofLines, Nat.add_eq_left, List.sum_eq_zero_iff_forall_eq_nat]
  simp only [List.forall_mem_map, List.count_eq_zero]

theorem lines_ofLines_iff {parts : List String} :
    lines (ofLines parts) = parts ↔ ∀ part ∈ parts, '\n' ∉ part.toList := by
  refine ⟨fun same => ?_, lines_ofLines⟩
  exact length_lines_ofLines_iff.1 (congrArg List.length same)

end Text

/-! ## Lines of records -/

/-- The lines of records in turn, with an empty line between every two. -/
def linesOf (tagKey : String) (records : List Record) : List String :=
  [""].intercalate (records.map (·.lines tagKey))

theorem Record.length_lines (tagKey : String) (record : Record) :
    (record.lines tagKey).length = record.fields.length + 2 := by
  simp [lines]

theorem linesOf_cons_cons (tagKey : String) (record next : Record) (rest : List Record) :
    linesOf tagKey (record :: next :: rest) =
      record.lines tagKey ++ "" :: linesOf tagKey (next :: rest) := by
  rw [linesOf, List.map_cons, List.map_cons, List.intercalate_cons_cons, linesOf, List.map_cons,
    List.append_assoc, List.singleton_append]

theorem linesOf_singleton (tagKey : String) (record : Record) :
    linesOf tagKey [record] = record.lines tagKey := by
  rw [linesOf, List.map_singleton, List.intercalate_singleton]

theorem length_linesOf (tagKey : String) (records : List Record) :
    (linesOf tagKey records).length =
      (records.map fun record => record.fields.length + 2).sum + (records.length - 1) := by
  induction records with
  | nil => rfl
  | cons record rest ih =>
      cases rest with
      | nil => simp [linesOf_singleton, Record.length_lines]
      | cons next others =>
          rw [linesOf_cons_cons, List.length_append, List.length_cons, ih, Record.length_lines]
          simp only [List.map_cons, List.sum_cons, List.length_cons]
          omega

theorem mem_linesOf {tagKey line : String} {records : List Record}
    (inside : line ∈ linesOf tagKey records) :
    line = "" ∨ ∃ record ∈ records, line ∈ record.lines tagKey := by
  induction records with
  | nil => cases inside
  | cons record rest ih =>
      cases rest with
      | nil =>
          rw [linesOf_singleton] at inside
          exact .inr ⟨record, List.mem_cons_self, inside⟩
      | cons next others =>
          rw [linesOf_cons_cons, List.mem_append, List.mem_cons] at inside
          rcases inside with own | empty | later
          · exact .inr ⟨record, List.mem_cons_self, own⟩
          · exact .inl empty
          · exact (ih later).imp_right fun ⟨other, listed, among⟩ =>
              ⟨other, List.mem_cons_of_mem _ listed, among⟩

theorem mem_linesOf_of_mem {tagKey line : String} {record : Record} {records : List Record}
    (listed : record ∈ records) (inside : line ∈ record.lines tagKey) :
    line ∈ linesOf tagKey records := by
  induction records with
  | nil => cases listed
  | cons first rest ih =>
      cases rest with
      | nil =>
          obtain rfl := List.mem_singleton.1 listed
          rwa [linesOf_singleton]
      | cons next others =>
          rw [linesOf_cons_cons, List.mem_append, List.mem_cons]
          rcases List.mem_cons.1 listed with rfl | later
          · exact .inl inside
          · exact .inr (.inr (ih later))

/-- **The Go source is its lines, each with a line feed.** -/
theorem Generation.render_eq_ofLines (generation : Generation) :
    generation.render =
      Text.ofLines (linesOf generation.options.tagKey generation.orderedRecords) := by
  rw [render_eq]
  induction generation.orderedRecords with
  | nil => rfl
  | cons record rest ih =>
      cases rest with
      | nil => simp [linesOf_singleton, Record.goBlock]
      | cons next others =>
          rw [List.map_cons] at ih
          rw [List.map_cons, List.map_cons, String.intercalate_cons_cons, ih, linesOf_cons_cons,
            Text.ofLines_append, Text.ofLines_cons, Record.goBlock,
            String.empty_append, String.append_assoc]

/-! ## Line feeds in a line -/

/-- The upper-case form of a line feed is a line feed, so an identifier has one where its
key does. -/
theorem Name.newline_mem_pascal {opening : Bool} {key : List Char} (inside : '\n' ∈ key) :
    '\n' ∈ pascal opening key := by
  induction key generalizing opening with
  | nil => cases inside
  | cons c rest ih =>
      rw [pascal]
      rcases List.mem_cons.1 inside with rfl | later
      · cases opening
        · exact List.mem_cons_self
        · exact List.mem_append_left _ (by decide)
      · split
        · exact ih later
        · split
          · exact List.mem_append_right _ (ih later)
          · exact List.mem_cons_of_mem _ (ih later)

theorem Name.newline_mem_normalize {key : String} :
    '\n' ∈ (normalize key).toList ↔ '\n' ∈ key.toList := by
  constructor
  · intro inside
    by_contra clear
    exact newline_notMem_normalize clear inside
  · intro inside
    rw [normalize, String.toList_ofList]
    exact newline_mem_pascal inside

namespace Field

variable {tagKey : String} {field : Field}

theorem newline_notMem_goTag (oneLine : '\n' ∉ tagKey.toList) (unflagged : field.flags = [])
    (clear : '\n' ∉ field.sourceKey.toList) : '\n' ∉ (field.goTag tagKey).toList := by
  have words : ∀ word ∈ field.tagWords, '\n' ∉ word.toList := by
    rw [tagWords, unflagged]
    split <;> decide
  rw [goTag]
  split
  · decide
  · simpa [oneLine, clear] using words

/-- Of what a line is made of, the key decides whether it has a line feed of its own. -/
theorem newline_notMem_line_iff (oneLine : '\n' ∉ tagKey.toList) (unflagged : field.flags = [])
    (typed : '\n' ∉ field.type.goText.toList) :
    '\n' ∉ (field.line tagKey).toList ↔ '\n' ∉ field.sourceKey.toList := by
  constructor
  · intro clear inside
    refine clear ?_
    have identifier := Name.newline_mem_normalize.2 inside
    simp [line, identifier]
  · intro clear
    have identifier : '\n' ∉ (Name.normalize field.sourceKey).toList :=
      fun inside => clear (Name.newline_mem_normalize.1 inside)
    have tag := newline_notMem_goTag oneLine unflagged clear
    rw [line]
    split
    · simp [identifier, typed]
    · simp [identifier, typed, tag]

end Field

theorem Record.newline_notMem_lines_iff {tagKey : String} {record : Record} :
    (∀ line ∈ record.lines tagKey, '\n' ∉ line.toList) ↔
      '\n' ∉ record.name.toList ∧ ∀ field ∈ record.fields, '\n' ∉ (field.line tagKey).toList := by
  rw [lines, List.cons_append, List.forall_mem_cons, List.forall_mem_append, List.forall_mem_map,
    List.forall_mem_singleton]
  simp

theorem newline_notMem_linesOf_iff {tagKey : String} {records : List Record} :
    (∀ line ∈ linesOf tagKey records, '\n' ∉ line.toList) ↔
      ∀ record ∈ records, ∀ line ∈ record.lines tagKey, '\n' ∉ line.toList := by
  constructor
  · intro clear record listed line inside
    exact clear line (mem_linesOf_of_mem listed inside)
  · intro clear line inside
    rcases mem_linesOf inside with rfl | ⟨record, listed, among⟩
    · decide
    · exact clear record listed line among

/-- The names in the type of a value are those of scalars and of the record that the type
refers to. -/
theorem Inference.refersTo_of_mem_names {optionality : Optionality} {path : List String}
    {slot : Slot} {key name : String} {node : Node}
    (inside : name ∈ (typed optionality path slot key node).1.names) :
    (typed optionality path slot key node).1.RefersTo name ∨ '\n' ∉ name.toList := by
  induction node using Node.induction generalizing slot key with
  | scalar kind literal =>
      right
      cases kind <;> cases optionality <;> cases slot <;>
        simp_all [typed, scalarType, scalarName, TypeExpr.names]
  | unknown tag => cases inside
  | sequence items ih =>
      cases items with
      | nil => cases inside
      | cons first rest => exact ih first List.mem_cons_self inside
  | mapping entries =>
      cases entries with
      | nil => cases inside
      | cons entry rest => exact .inl (List.mem_singleton.1 inside).symm

namespace Generation

variable {documents : List Node} {options : Options}

theorem mem_orderedRecords_of_get?_run {name : String} {record : Record}
    (stands : (run documents options).registry.get? name = some record) :
    record ∈ (run documents options).orderedRecords := by
  refine List.mem_filterMap.2 ⟨name, Registry.mem_emissionKeys.2 ?_, stands⟩
  exact OrderedMap.mem_keys_iff.2 ⟨record, stands⟩

/-- If no record that is emitted has a line feed in its name, no type that is emitted has
one. -/
theorem newline_notMem_goText
    (clear : ∀ record ∈ (run documents options).orderedRecords, '\n' ∉ record.name.toList)
    {record : Record} (emitted : record ∈ (run documents options).orderedRecords)
    {field : Field} (listed : field ∈ record.fields) : '\n' ∉ field.type.goText.toList := by
  obtain ⟨name, stands⟩ := mem_registry_of_mem_orderedRecords emitted
  refine TypeExpr.newline_notMem_goText fun referred among => ?_
  have refers : field.type.RefersTo referred ∨ '\n' ∉ referred.toList := by
    obtain ⟨entries, _, typed⟩ := fields_of_get?_run stands
    rw [typed] at listed
    obtain ⟨entry, _, rfl⟩ := List.mem_map.1 listed
    exact Inference.refersTo_of_mem_names among
  rcases refers with refers | plain
  · -- what is referred to is registered, and emitted under its name
    have registered := registered_of_refersTo stands ⟨field, listed, refers⟩
    obtain ⟨other, held⟩ := OrderedMap.mem_keys_iff.1 registered
    rw [← name_of_get?_run held]
    exact clear other (mem_orderedRecords_of_get?_run held)
  · exact plain

theorem flags_of_mem_orderedRecords {record : Record}
    (emitted : record ∈ (run documents options).orderedRecords) {field : Field}
    (listed : field ∈ record.fields) : field.flags = [] := by
  obtain ⟨name, stands⟩ := mem_registry_of_mem_orderedRecords emitted
  obtain ⟨entries, _, typed⟩ := fields_of_get?_run stands
  rw [typed] at listed
  obtain ⟨entry, _, rfl⟩ := List.mem_map.1 listed
  rfl

/-- The lines of a run have no line feeds of their own exactly if none is in the name of a
record or in the key of a field. -/
theorem newline_notMem_linesOf_run_iff (oneLine : '\n' ∉ options.tagKey.toList) :
    (∀ line ∈ linesOf options.tagKey (run documents options).orderedRecords,
      '\n' ∉ line.toList) ↔
        ∀ record ∈ (run documents options).orderedRecords, '\n' ∉ record.name.toList ∧
          ∀ field ∈ record.fields, '\n' ∉ field.sourceKey.toList := by
  rw [newline_notMem_linesOf_iff]
  simp only [Record.newline_notMem_lines_iff]
  constructor
  · intro clear record emitted
    have names := fun other listed => (clear other listed).1
    refine ⟨names record emitted, fun field listed => ?_⟩
    rw [← Field.newline_notMem_line_iff oneLine (flags_of_mem_orderedRecords emitted listed)
      (newline_notMem_goText names emitted listed)]
    exact (clear record emitted).2 field listed
  · intro clear record emitted
    have names := fun other listed => (clear other listed).1
    refine ⟨names record emitted, fun field listed => ?_⟩
    rw [Field.newline_notMem_line_iff oneLine (flags_of_mem_orderedRecords emitted listed)
      (newline_notMem_goText names emitted listed)]
    exact (clear record emitted).2 field listed

end Generation

/-! ## One line for each field -/

/-- **Every field has one line, unless a key brings in another.**  The Go source of a run
is written line by line: for each record in order of emission a header, a line for every
field and a closing brace, and an empty line between two records, each with a line feed at
its end.  These are the lines of the text, and as many as it has, exactly if no name of an
emitted record and no key of its fields holds a line feed. -/
theorem run_one_line_per_field_iff (documents : List Node) {options : Options}
    (oneLine : '\n' ∉ options.tagKey.toList) :
    ∃ written : List String,
      (Generation.run documents options).render = Text.ofLines written ∧
      written = [""].intercalate
        ((Generation.run documents options).orderedRecords.map fun record =>
          ("type " ++ record.name ++ " struct \x7b")
            :: record.fields.map (·.line options.tagKey) ++ ["\x7d"]) ∧
      written.length =
        ((Generation.run documents options).orderedRecords.map fun record =>
          record.fields.length + 2).sum +
            ((Generation.run documents options).orderedRecords.length - 1) ∧
      (Text.lines (Generation.run documents options).render = written ↔
        ∀ record ∈ (Generation.run documents options).orderedRecords,
          '\n' ∉ record.name.toList ∧ ∀ field ∈ record.fields, '\n' ∉ field.sourceKey.toList) ∧
      ((Text.lines (Generation.run documents options).render).length = written.length ↔
        ∀ record ∈ (Generation.run documents options).orderedRecords,
          '\n' ∉ record.name.toList ∧ ∀ field ∈ record.fields, '\n' ∉ field.sourceKey.toList) := by
  have rendered : (Generation.run documents options).render =
      Text.ofLines (linesOf options.tagKey (Generation.run documents options).orderedRecords) :=
    Generation.render_eq_ofLines _
  refine ⟨_, rendered, rfl, length_linesOf _ _, ?_, ?_⟩
  · rw [rendered, Text.lines_ofLines_iff, Generation.newline_notMem_linesOf_run_iff oneLine]
  · rw [rendered, Text.length_lines_ofLines_iff, Generation.newline_notMem_linesOf_run_iff oneLine]

/-- Two records of one line for each field. -/
theorem run_one_line_per_field_of_two_records :
    let held : Node := .mapping [("d", .scalar .string "")]
    let documents : List Node := [.mapping [("a_b", .scalar .integer "1"), ("c", held)]]
    '\n' ∉ ({} : Options).tagKey.toList ∧
      Text.lines (Generation.run documents {}).render =
        ["type Document struct \x7b", "\tAB int `json:\"a_b\"`", "\tC C `json:\"c\"`", "\x7d", "",
          "type C struct \x7b", "\tD string `json:\"d,omitempty\"`", "\x7d"] := by
  intro held documents
  have oneLine : '\n' ∉ ({} : Options).tagKey.toList := by decide
  have emitted : (Generation.run documents {}).orderedRecords =
      [{ name := "Document", fields := [
          { sourceKey := "a_b", type := .scalar "int", omitEmpty := false },
          { sourceKey := "c", type := .recordRef "C", omitEmpty := false }] },
        { name := "C", fields := [
          { sourceKey := "d", type := .scalar "string", omitEmpty := true }] }] := by
    decide +kernel
  obtain ⟨written, _, parts, _, exact, _⟩ := run_one_line_per_field_iff documents oneLine
  refine ⟨oneLine, (exact.2 ?_).trans ?_⟩
  · rw [emitted]
    decide
  · rw [parts, emitted]
    decide +kernel

/-- A field whose key holds a line feed takes more than its line. -/
theorem line_feed_in_key_takes_more_lines :
    ¬ ∀ (documents : List Node) (options : Options), '\n' ∉ options.tagKey.toList →
      (Text.lines (Generation.run documents options).render).length =
        ((Generation.run documents options).orderedRecords.map fun record =>
          record.fields.length + 2).sum +
            ((Generation.run documents options).orderedRecords.length - 1) := by
  intro claimed
  let documents : List Node := [.mapping [("a\nb", .scalar .integer "1")]]
  have oneLine : '\n' ∉ ({} : Options).tagKey.toList := by decide
  have counted := claimed documents {} oneLine
  have stands : (Generation.run documents {}).registry.get? "A\nb" =
      some { name := "A\nb", fields := [
        { sourceKey := "a\nb", type := .scalar "int", omitEmpty := false }] } := by
    decide +kernel
  rw [Generation.render_eq_ofLines, ← length_linesOf ({} : Options).tagKey] at counted
  have clear := (Generation.newline_notMem_linesOf_run_iff oneLine).1
    (Text.length_lines_ofLines_iff.1 counted)
  exact absurd (clear _ (Generation.mem_orderedRecords_of_get?_run stands)).1 (by decide)

end YamlShape
