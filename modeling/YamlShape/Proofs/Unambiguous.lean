/-
# YamlShape.Proofs.Unambiguous -- the Go source determines the records

A record's name and a field's type may hold spaces, tabs, brackets, even what looks
like a tag or a header, and an identifier says less than the key that it comes from.
Still nothing of a record is lost in its block as long as no line feed stands in a name
and the words of the tags are free of what tags are made of (`Record.Legible`).  A text
is then read from left to right:

* a line ends at its first line feed, and a block with the first line that does not
  begin with a tab (`goLines_append_inj`, `goBlock_append_inj`);
* of a field's line the tag is read first, from the right: it begins after the last
  quote but one.  It gives the source key and with it the identifier, so that what is
  left of the line is the type (`goLine_append_inj`).

Each of these steps is stated for any continuation of the text, and with the
continuation it leaves the rest to be read.
-/
import YamlShape.Proofs.Blocks
import YamlShape.Proofs.Names

namespace YamlShape

set_option autoImplicit false

open List (Forall₂)

/-! ## Cuts -/

section Cuts

variable {α : Type} [DecidableEq α] {mark : α} {first second rest more : List α}

/-- What comes before the first mark, and what comes after it. -/
theorem cut_at_first (clear : mark ∉ first) (unmarked : mark ∉ second)
    (same : first ++ mark :: rest = second ++ mark :: more) : first = second ∧ rest = more := by
  have pieces := congrArg (List.splitOn mark) same
  rw [List.splitOn_append_cons_self_of_not_mem clear,
    List.splitOn_append_cons_self_of_not_mem unmarked] at pieces
  obtain ⟨before, after⟩ := List.cons.inj pieces
  have joined := congrArg (List.intercalate [mark]) after
  rw [List.intercalate_splitOn, List.intercalate_splitOn] at joined
  exact ⟨before, joined⟩

/-- What comes before the last mark, and what comes after it. -/
theorem cut_at_last (clear : mark ∉ rest) (unmarked : mark ∉ more)
    (same : first ++ mark :: rest = second ++ mark :: more) : first = second ∧ rest = more := by
  have backwards := congrArg List.reverse same
  simp only [List.reverse_append, List.reverse_cons, List.append_assoc,
    List.singleton_append] at backwards
  obtain ⟨after, before⟩ := cut_at_first (by simpa using clear) (by simpa using unmarked) backwards
  exact ⟨List.reverse_inj.1 before, List.reverse_inj.1 after⟩

end Cuts

/-! ## Records whose text can be read -/

/-- The names that a type is made of. -/
def TypeExpr.names : TypeExpr → List String
  | .scalar name => [name]
  | .recordRef name => [name]
  | .optional inner => inner.names
  | .slice element => element.names
  | .genericMap => []
  | .any => []

/-- A text without line feeds, and without the characters that end the words of a tag.
A backtick would do no harm. -/
def Unmarked (text : String) : Prop :=
  ∀ c ∈ text.toList, c ≠ '\n' ∧ c ≠ ',' ∧ c ≠ '"'

instance (text : String) : Decidable (Unmarked text) :=
  List.decidableBAll _ text.toList

/-- A field whose line can be read back. -/
structure Field.Legible (field : Field) : Prop where
  keyed : field.sourceKey ≠ ""
  key : Unmarked field.sourceKey
  flags : ∀ flag ∈ field.flags, Unmarked flag ∧ flag ≠ "omitempty"
  types : ∀ name ∈ field.type.names, '\n' ∉ name.toList

/-- A record whose block can be read back. -/
structure Record.Legible (record : Record) : Prop where
  name : '\n' ∉ record.name.toList
  fields : ∀ field ∈ record.fields, field.Legible

instance (field : Field) : Decidable field.Legible :=
  decidable_of_iff (field.sourceKey ≠ "" ∧ Unmarked field.sourceKey ∧
      (∀ flag ∈ field.flags, Unmarked flag ∧ flag ≠ "omitempty") ∧
      ∀ name ∈ field.type.names, '\n' ∉ name.toList)
    ⟨fun parts => ⟨parts.1, parts.2.1, parts.2.2.1, parts.2.2.2⟩,
      fun legible => ⟨legible.keyed, legible.key, legible.flags, legible.types⟩⟩

instance (record : Record) : Decidable record.Legible :=
  decidable_of_iff ('\n' ∉ record.name.toList ∧ ∀ field ∈ record.fields, field.Legible)
    ⟨fun parts => ⟨parts.1, parts.2⟩, fun legible => ⟨legible.name, legible.fields⟩⟩

/-- Two fields differ in nothing that their lines keep. -/
structure Field.SameLine (left right : Field) : Prop where
  sourceKey : left.sourceKey = right.sourceKey
  omitEmpty : left.omitEmpty = right.omitEmpty
  flags : left.flags = right.flags
  goText : left.type.goText = right.type.goText

/-- Two records differ in nothing that their blocks keep. -/
structure Record.SameBlock (left right : Record) : Prop where
  name : left.name = right.name
  fields : Forall₂ Field.SameLine left.fields right.fields

theorem TypeExpr.newline_notMem_goText {type : TypeExpr}
    (clear : ∀ name ∈ type.names, '\n' ∉ name.toList) : '\n' ∉ type.goText.toList := by
  induction type with
  | scalar name => exact clear name List.mem_cons_self
  | recordRef name => exact clear name List.mem_cons_self
  | optional inner ih => simpa [goText] using ih clear
  | slice element ih => simpa [goText] using ih clear
  | genericMap => decide
  | any => decide

/-! ## Words of a tag -/

/-- Words are cut apart at the commas before them. -/
theorem splitOn_words {first : String} {words : List String} (clear : ',' ∉ first.toList)
    (unmarked : ∀ word ∈ words, ',' ∉ word.toList) :
    (first ++ String.join (words.map ("," ++ ·))).toList.splitOn ',' =
      first.toList :: words.map String.toList := by
  induction words generalizing first with
  | nil => simpa [String.join_nil] using List.splitOn_eq_singleton clear
  | cons word rest ih =>
      obtain ⟨next, others⟩ := List.forall_mem_cons.1 unmarked
      have commas : (first ++ String.join ((word :: rest).map ("," ++ ·))).toList =
          first.toList ++ ',' :: (word ++ String.join (rest.map ("," ++ ·))).toList := by
        simp [String.join_cons]
      rw [commas, List.splitOn_append_cons_self_of_not_mem clear, ih next others, List.map_cons]

namespace Field

variable {tagKey : String} {field other : Field}

theorem Legible.unmarked_tagWords (legible : field.Legible) :
    ∀ word ∈ field.tagWords, Unmarked word := by
  intro word inside
  rw [tagWords, List.mem_append] at inside
  rcases inside with mark | flag
  · split at mark
    · obtain rfl := List.mem_singleton.1 mark
      decide
    · cases mark
  · exact (legible.flags word flag).1

/-- The words of a tag tell whether the field may be left out. -/
theorem Legible.tagWords_inj (legible : field.Legible) (readable : other.Legible)
    (same : field.tagWords = other.tagWords) :
    field.omitEmpty = other.omitEmpty ∧ field.flags = other.flags := by
  rw [tagWords, tagWords] at same
  cases left : field.omitEmpty <;> cases right : other.omitEmpty
  · simpa [left, right] using same
  -- a mark on one side only would be a flag on the other
  · have marked : field.flags = "omitempty" :: other.flags := by simpa [left, right] using same
    exact absurd rfl (legible.flags _ (marked ▸ List.mem_cons_self)).2
  · have marked : "omitempty" :: field.flags = other.flags := by simpa [left, right] using same
    exact absurd rfl (readable.flags _ (marked ▸ List.mem_cons_self)).2
  · simpa [left, right] using same

/-! ## Lines -/

/-- The text between the quotes of a tag. -/
def tagText (field : Field) : String :=
  field.sourceKey ++ String.join (field.tagWords.map ("," ++ ·))

/-- A field's line up to the quote before its source key. -/
def lead (tagKey : String) (field : Field) : String :=
  "\t" ++ Name.normalize field.sourceKey ++ " " ++ field.type.goText ++ " `" ++ tagKey ++ ":"

/-- The characters of a field's line, without the line feed. -/
def lineChars (tagKey : String) (field : Field) : List Char :=
  (field.lead tagKey).toList ++ '"' :: field.tagText.toList ++ "\"`".toList

theorem Legible.toList_goLine (legible : field.Legible) (tagged : tagKey ≠ "") :
    (field.goLine tagKey).toList = field.lineChars tagKey ++ ['\n'] := by
  have shown : field.untagged tagKey = false := by
    simp [untagged, tagged, legible.keyed]
  rw [goLine, line, goTag, shown, lineChars, lead, tagText]
  simp

theorem Legible.unmarked_tagText (legible : field.Legible) {c : Char}
    (inside : c ∈ field.tagText.toList) : c ≠ '\n' ∧ c ≠ '"' := by
  rw [tagText, String.toList_append, List.mem_append, String.toList_join] at inside
  rcases inside with key | words
  · exact ⟨(legible.key c key).1, (legible.key c key).2.2⟩
  · simp only [List.flatMap_map, List.mem_flatMap, String.toList_append, List.mem_append] at words
    obtain ⟨word, listed, comma | letter⟩ := words
    · obtain rfl : c = ',' := by simpa using comma
      decide
    · have unmarked := legible.unmarked_tagWords word listed c letter
      exact ⟨unmarked.1, unmarked.2.2⟩

theorem Legible.newline_notMem_lineChars (legible : field.Legible)
    (oneLine : '\n' ∉ tagKey.toList) : '\n' ∉ field.lineChars tagKey := by
  have key := Name.newline_notMem_normalize fun inside => (legible.key _ inside).1 rfl
  have type := TypeExpr.newline_notMem_goText legible.types
  have text : '\n' ∉ field.tagText.toList := fun inside => (legible.unmarked_tagText inside).1 rfl
  simp [lineChars, lead, key, type, text, oneLine]

theorem Legible.tagText_inj (legible : field.Legible) (readable : other.Legible)
    (same : field.tagText = other.tagText) :
    field.sourceKey = other.sourceKey ∧ field.tagWords = other.tagWords := by
  have pieces := congrArg (fun text => text.toList.splitOn ',') same
  simp only [tagText] at pieces
  rw [splitOn_words (fun inside => (legible.key _ inside).2.1 rfl)
      fun word listed inside => (legible.unmarked_tagWords word listed _ inside).2.1 rfl,
    splitOn_words (fun inside => (readable.key _ inside).2.1 rfl)
      fun word listed inside => (readable.unmarked_tagWords word listed _ inside).2.1 rfl] at pieces
  obtain ⟨key, words⟩ := List.cons.inj pieces
  exact ⟨String.toList_inj.1 key,
    (List.map_inj_right fun _ _ => String.toList_inj.1).1 words⟩

/-- A line without its line feed determines what it was written for. -/
theorem Legible.lineChars_inj (legible : field.Legible) (readable : other.Legible)
    (same : field.lineChars tagKey = other.lineChars tagKey) : field.SameLine other := by
  -- the quote after the tag's text goes, so that the one before it is the last
  have quoted := List.append_cancel_right same
  obtain ⟨leads, texts⟩ := cut_at_last
    (fun inside => (legible.unmarked_tagText inside).2 rfl)
    (fun inside => (readable.unmarked_tagText inside).2 rfl) quoted
  obtain ⟨key, words⟩ := legible.tagText_inj readable (String.toList_inj.1 texts)
  obtain ⟨omitEmpty, flags⟩ := legible.tagWords_inj readable words
  refine ⟨key, omitEmpty, flags, ?_⟩
  have types := String.toList_inj.1 leads
  simp only [lead, key, String.append_left_inj, String.append_right_inj] at types
  exact types

/-- **A line determines its field.** -/
theorem goLine_append_inj (tagged : tagKey ≠ "") (oneLine : '\n' ∉ tagKey.toList)
    (legible : field.Legible) (readable : other.Legible) {rest more : List Char}
    (same : (field.goLine tagKey).toList ++ rest = (other.goLine tagKey).toList ++ more) :
    field.SameLine other ∧ rest = more := by
  rw [legible.toList_goLine tagged, readable.toList_goLine tagged, List.append_assoc,
    List.append_assoc] at same
  obtain ⟨lines, rests⟩ := cut_at_first (legible.newline_notMem_lineChars oneLine)
    (readable.newline_notMem_lineChars oneLine) same
  exact ⟨legible.lineChars_inj readable lines, rests⟩

end Field

/-! ## Blocks -/

section Blocks

variable {tagKey : String} (tagged : tagKey ≠ "") (oneLine : '\n' ∉ tagKey.toList)

include tagged oneLine

/-- Lines up to a closing brace determine their fields. -/
theorem goLines_append_inj {fields others : List Field}
    (legible : ∀ field ∈ fields, field.Legible) (readable : ∀ field ∈ others, field.Legible)
    {rest more : List Char}
    (same : (String.join (fields.map (·.goLine tagKey))).toList ++ '\x7d' :: rest =
      (String.join (others.map (·.goLine tagKey))).toList ++ '\x7d' :: more) :
    Forall₂ Field.SameLine fields others ∧ rest = more := by
  induction fields generalizing others with
  | nil =>
      cases others with
      | nil => exact ⟨.nil, (List.cons.inj same).2⟩
      | cons other others => simp [String.join_nil, String.join_cons, Field.goLine, Field.line] at same
  | cons field fields ih =>
      cases others with
      | nil => simp [String.join_nil, String.join_cons, Field.goLine, Field.line] at same
      | cons other others =>
          obtain ⟨first, later⟩ := List.forall_mem_cons.1 legible
          obtain ⟨second, further⟩ := List.forall_mem_cons.1 readable
          simp only [List.map_cons, String.join_cons, String.toList_append,
            List.append_assoc] at same
          obtain ⟨line, following⟩ := Field.goLine_append_inj tagged oneLine first second same
          obtain ⟨lines, rests⟩ := ih later further following
          exact ⟨.cons line lines, rests⟩

/-- **A block determines its record.** -/
theorem goBlock_append_inj {record other : Record} (legible : record.Legible)
    (readable : other.Legible) {rest more : List Char}
    (same : (record.goBlock tagKey).toList ++ rest = (other.goBlock tagKey).toList ++ more) :
    record.SameBlock other ∧ rest = more := by
  have parts : ∀ (record : Record) (rest : List Char),
      (record.goBlock tagKey).toList ++ rest =
        ("type ".toList ++ record.name.toList ++ " struct \x7b".toList) ++ '\n' ::
          ((String.join (record.fields.map (·.goLine tagKey))).toList ++ '\x7d' :: '\n' :: rest) := by
    intro record rest
    simp [Record.goBlock_eq]
  have header : ∀ {record : Record}, record.Legible →
      '\n' ∉ "type ".toList ++ record.name.toList ++ " struct \x7b".toList := by
    intro record legible
    simp [legible.name]
  rw [parts, parts] at same
  obtain ⟨headers, bodies⟩ := cut_at_first (header legible) (header readable) same
  have names := List.append_cancel_left (List.append_cancel_right headers)
  obtain ⟨fields, ends⟩ :=
    goLines_append_inj tagged oneLine legible.fields readable.fields bodies
  exact ⟨⟨String.toList_inj.1 names, fields⟩, (List.cons.inj ends).2⟩

/-- Blocks determine their records, of which there may be none. -/
theorem blocksText_inj {before : Nat} {records others : List Record}
    (legible : ∀ record ∈ records, record.Legible) (readable : ∀ record ∈ others, record.Legible)
    (same : Emitter.blocksText tagKey before records = Emitter.blocksText tagKey before others) :
    Forall₂ Record.SameBlock records others := by
  induction records generalizing before others with
  | nil =>
      obtain rfl := Emitter.blocksText_eq_empty_iff.1 same.symm
      exact .nil
  | cons record records ih =>
      cases others with
      | nil => exact absurd (Emitter.blocksText_eq_empty_iff.1 same) (List.cons_ne_nil _ _)
      | cons other others =>
          obtain ⟨first, later⟩ := List.forall_mem_cons.1 legible
          obtain ⟨second, further⟩ := List.forall_mem_cons.1 readable
          -- both blocks come after as many others, so what stands before them is the same
          simp only [Emitter.blocksText, Emitter.blockText, String.append_assoc,
            String.append_right_inj] at same
          rw [← String.toList_inj, String.toList_append, String.toList_append] at same
          obtain ⟨block, rests⟩ := goBlock_append_inj tagged oneLine first second same
          exact .cons block (ih later further (String.toList_inj.1 rests))

end Blocks

/-- **The Go source loses nothing that the tags are meant to keep.**  Take two
registries whose records are legible, and a tag key.  If both are rendered to one text,
they have as many records in order of emission, and these agree one by one in their
names and, field by field, in source key, omission, flags and the text of the type. -/
theorem emissionOrder_of_render_eq {tagKey : String} (tagged : tagKey ≠ "")
    (oneLine : '\n' ∉ tagKey.toList) {left right : Registry} {leftRoots rightRoots : List String}
    (legible : ∀ key record, left.get? key = some record → record.Legible)
    (readable : ∀ key record, right.get? key = some record → record.Legible)
    (same : left.render leftRoots tagKey = right.render rightRoots tagKey) :
    Forall₂ Record.SameBlock (left.emissionOrder leftRoots) (right.emissionOrder rightRoots) := by
  rw [Registry.render_eq, Registry.render_eq] at same
  refine blocksText_inj tagged oneLine ?_ ?_ same
  · intro record emitted
    obtain ⟨key, _, stands⟩ := List.mem_filterMap.1 emitted
    exact legible key record stands
  · intro record emitted
    obtain ⟨key, _, stands⟩ := List.mem_filterMap.1 emitted
    exact readable key record stands

/-- A record whose name ends like a header and whose type begins a tag, once under
another key and with another kind of type. -/
theorem emissionOrder_of_header_like_name :
    let record (type : TypeExpr) : Record := { name := "A struct \x7b", fields := [
      { sourceKey := "owner_id", type, omitEmpty := true, flags := ["string"] }] }
    let left : Registry := OrderedMap.ofList [("A", record (.slice (.scalar "User `json")))]
    let right : Registry := OrderedMap.ofList [("B", record (.slice (.recordRef "User `json")))]
    (∀ key record, left.get? key = some record → record.Legible) ∧
      (∀ key record, right.get? key = some record → record.Legible) ∧
      left.render ["A"] "json" = right.render [] "json" ∧
      Forall₂ Record.SameBlock (left.emissionOrder ["A"]) (right.emissionOrder []) := by
  intro record left right
  have listed : ∀ {registry : Registry}, (∀ entry ∈ registry.entries, entry.2.Legible) →
      ∀ key record, registry.get? key = some record → record.Legible := by
    intro registry each key record stands
    obtain ⟨before, after, parts, _⟩ := List.lookup_eq_some_iff.1 stands
    exact each (key, record) (by simp [parts])
  have legible := @listed left (by decide)
  have readable := @listed right (by decide)
  have same : left.render ["A"] "json" = right.render [] "json" := by
    have first : left.emissionOrder ["A"] = [record (.slice (.scalar "User `json"))] := by
      decide +kernel
    have second : right.emissionOrder [] = [record (.slice (.recordRef "User `json"))] := by
      decide +kernel
    rw [Registry.render_eq, Registry.render_eq, first, second]
    rfl
  exact ⟨legible, readable, same,
    emissionOrder_of_render_eq (by decide) (by decide) legible readable same⟩

end YamlShape
