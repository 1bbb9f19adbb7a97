/-
# YamlShape.Proofs.FieldIdentifiers -- when two fields share an identifier

A record has a field for each entry of its mapping, and a field is declared under the
identifier of its key.  Nothing keeps these identifiers apart: a mapping with the keys
`a_b` and `aB` gives a record that declares `AB` twice.

What two such keys have in common can be said without identifiers.  A key is respelled by
steps of two kinds (`Respelling`): a run gets the capital at its front, and a separator
goes when no small letter stands behind it.  Every key leads to its own identifier by
such steps (`eqvGen_pascal`) and no step changes the identifier (`Respelling.pascal_eq`),
so two keys share an identifier exactly if they are spellings of one another
(`normalize_eq_iff`).
-/
import Mathlib.Logic.Relation
import YamlShape.Proofs.Identifiers
import YamlShape.Proofs.Sampling

namespace YamlShape

set_option autoImplicit false

/-! ## Spellings of a key -/

namespace Name

open Relation (EqvGen)
open Text (upperCase upperCase_ne_nil upperCase_of_mem_upperCase)

/-- A step to another spelling.  The first character of a run gives way to its upper-case
form, or a separator is left out that stands at the end, before another separator, or
before a character that is its own upper-case form. -/
inductive Respelling : List Char → List Char → Prop where
  | capital {before after : List Char} {c : Char}
      (opens : ∀ d ∈ before.getLast?, isSeparator d = true) (plain : isSeparator c = false) :
      Respelling (before ++ c :: after) (before ++ (upperCase c ++ after))
  | joined {before after : List Char} {s : Char} (separator : isSeparator s = true)
      (settled : ∀ d ∈ after.head?, isSeparator d = true ∨ upperCase d = [d]) :
      Respelling (before ++ s :: after) (before ++ after)

/-- Two keys are spellings of one another if steps lead from one to the other, in either
direction. -/
def SpelledAlike (key other : String) : Prop :=
  EqvGen Respelling key.toList other.toList

/-- Whether a character behind some others is the first of its run. -/
def opensAfter (opening : Bool) (before : List Char) : Bool :=
  (before.getLast?.map isSeparator).getD opening

theorem opensAfter_cons (opening : Bool) (c : Char) (rest : List Char) :
    opensAfter opening (c :: rest) = opensAfter (isSeparator c) rest := by
  cases rest with
  | nil => rfl
  | cons d more => rw [opensAfter, opensAfter, List.getLast?_cons_cons, List.getLast?_cons]; rfl

theorem pascal_append (opening : Bool) (before after : List Char) :
    pascal opening (before ++ after) =
      pascal opening before ++ pascal (opensAfter opening before) after := by
  induction before generalizing opening with
  | nil => rfl
  | cons c rest ih =>
      rw [List.cons_append, pascal, pascal, opensAfter_cons]
      by_cases separator : isSeparator c
      · rw [if_pos separator, if_pos separator, ih, separator]
      · rw [if_neg separator, if_neg separator, ih, Bool.eq_false_iff.2 separator]
        cases opening <;> simp

theorem opensAfter_of_opens {before : List Char}
    (opens : ∀ d ∈ before.getLast?, isSeparator d = true) : opensAfter true before = true := by
  cases last : before.getLast? with
  | none => simp [opensAfter, last]
  | some d => simp [opensAfter, last, opens d last]

/-- The characters of an upper-case form are no separators, if the character is none. -/
theorem plain_upperCase {c : Char} (plain : isSeparator c = false) :
    ∀ d ∈ upperCase c, isSeparator d = false := by
  intro d inside
  rcases Text.mem_upperCase inside with rfl | capital
  · exact plain
  · exact not_isSeparator_of_isCapitalCode capital

/-- An upper-case form at the front of a run stays as it is. -/
theorem pascal_upperCase_append {c : Char} (plain : isSeparator c = false)
    (after : List Char) :
    pascal true (upperCase c ++ after) = upperCase c ++ pascal false after := by
  obtain ⟨d, rest, form⟩ := List.exists_cons_of_ne_nil (upperCase_ne_nil c)
  have unseparated := plain_upperCase plain
  rw [form] at unseparated ⊢
  have settled : upperCase d = [d] :=
    upperCase_of_mem_upperCase (by rw [form]; exact List.mem_cons_self)
  have within : opensAfter true (d :: rest) = false := by
    rw [opensAfter, List.getLast?_eq_some_getLast (List.cons_ne_nil d rest)]
    exact unseparated _ (List.getLast_mem _)
  rw [pascal_append, within, pascal_of_plain unseparated, settled, List.singleton_append]

/-- Behind a character that needs no capital, or behind none, it makes no difference
whether a run begins. -/
theorem pascal_of_settled {after : List Char} (opening : Bool)
    (settled : ∀ d ∈ after.head?, isSeparator d = true ∨ upperCase d = [d]) :
    pascal opening after = pascal true after := by
  cases after with
  | nil => rfl
  | cons d rest =>
      rw [pascal, pascal]
      rcases settled d rfl with separator | own
      · rw [if_pos separator, if_pos separator]
      · cases opening <;> simp [own]

/-- **A step to another spelling keeps the identifier.** -/
theorem Respelling.pascal_eq {key other : List Char} (step : Respelling key other) :
    pascal true key = pascal true other := by
  cases step with
  | @capital before after c opens plain =>
      rw [pascal_append, pascal_append, opensAfter_of_opens opens, pascal_upperCase_append plain,
        pascal, if_neg (by simp [plain]), if_pos rfl]
  | @joined before after s separator settled =>
      rw [pascal_append_separator true _ _ separator, pascal_append,
        pascal_of_settled (opensAfter true before) settled]

theorem pascal_eq_of_eqvGen {key other : List Char} (alike : EqvGen Respelling key other) :
    pascal true key = pascal true other := by
  induction alike with
  | rel _ _ step => exact step.pascal_eq
  | refl _ => rfl
  | symm _ _ _ ih => exact ih.symm
  | trans _ _ _ _ _ first second => exact first.trans second

/-- What an identifier begins with needs no capital. -/
theorem settled_pascal (key : List Char) :
    ∀ d ∈ (pascal true key).head?, isSeparator d = true ∨ upperCase d = [d] := by
  intro d first
  obtain ⟨rest, starts⟩ := List.head?_eq_some_iff.1 first
  obtain ⟨c, capital⟩ := exists_mem_upperCase_of_pascal starts
  exact .inr (upperCase_of_mem_upperCase capital)

/-- **Steps lead from a key to its identifier.**  The part in front has been respelled;
whether the next character opens a run is read off its last character. -/
theorem eqvGen_pascal (key : List Char) (before : List Char) :
    EqvGen Respelling (before ++ key) (before ++ pascal (opensAfter true before) key) := by
  induction key generalizing before with
  | nil => exact .refl _
  | cons c rest ih =>
      have last : opensAfter true (before ++ [c]) = isSeparator c := by
        simp [opensAfter]
      have onward := ih (before ++ [c])
      rw [last, List.append_assoc, List.append_assoc, List.singleton_append,
        List.singleton_append] at onward
      rw [pascal]
      by_cases separator : isSeparator c
      · -- the separator goes last, when what is behind it has its capital
        rw [if_pos separator]
        rw [separator] at onward
        exact .trans _ _ _ onward (.rel _ _ (.joined separator (settled_pascal rest)))
      · have plain := Bool.eq_false_iff.2 separator
        rw [if_neg separator]
        cases opening : opensAfter true before with
        | false =>
            rw [plain] at onward
            simpa using onward
        | true =>
            have opens : ∀ d ∈ before.getLast?, isSeparator d = true := by
              intro d here
              simpa [opensAfter, Option.mem_def.1 here] using opening
            have within : opensAfter true (before ++ upperCase c) = false := by
              have form := upperCase_ne_nil c
              rw [opensAfter, List.getLast?_append,
                List.getLast?_eq_some_getLast form, Option.some_or]
              exact plain_upperCase plain _ (List.getLast_mem _)
            have further := ih (before ++ upperCase c)
            rw [within, List.append_assoc, List.append_assoc] at further
            exact .trans _ _ _ (.rel _ _ (.capital opens plain)) further

/-- **Two keys share an identifier exactly if they are spellings of one another.** -/
theorem normalize_eq_iff {key other : String} :
    normalize key = normalize other ↔ SpelledAlike key other := by
  rw [normalize, normalize, String.ofList_inj]
  constructor
  · intro same
    have left := eqvGen_pascal key.toList []
    have right := eqvGen_pascal other.toList []
    rw [List.nil_append, List.nil_append] at left right
    have meets : EqvGen Respelling key.toList (pascal true other.toList) := same ▸ left
    exact .trans _ _ _ meets (.symm _ _ right)
  · exact pascal_eq_of_eqvGen

end Name

/-! ## The fields of a record -/

/-- A field is declared under the identifier of its key. -/
theorem Field.goLine_eq_identifier (tagKey : String) (field : Field) :
    ∃ rest, field.goLine tagKey = "\t" ++ Name.normalize field.sourceKey ++ " " ++ rest := by
  refine ⟨field.type.goText ++
    ((if field.untagged tagKey then "" else " " ++ field.goTag tagKey) ++ "\n"), ?_⟩
  rw [goLine, line, String.append_assoc, String.append_assoc]

theorem Sample.map_sourceKey_record (options : Options) (sample : Sample) :
    (sample.record options).fields.map (·.sourceKey) = sample.entries.map Prod.fst := by
  rw [record, List.map_map]
  rfl

/-- What a run registers is the record of a mapping in its documents. -/
theorem Generation.exists_sample_of_get?_run {documents : List Node} {options : Options}
    {name : String} {record : Record}
    (stands : (run documents options).registry.get? name = some record) :
    ∃ index sample, IsSampled documents index sample ∧ sample.name = name ∧
      sample.record options = record := by
  have written := mem_writes_of_get?_run stands
  rw [writes_eq_samples, List.mem_map] at written
  obtain ⟨⟨index, sample⟩, inside, rfl⟩ := written
  exact ⟨index, sample, mem_samples_run.1 inside, name_of_get?_run stands, rfl⟩

/-- **Which fields of a record share an identifier.**  What a run registers is the record
of a mapping in its documents, with a field for each of its keys.  A field is declared
under the identifier of its key.  There is one if the key has anything but separators, and
two fields have the same exactly if their keys are spellings of one another; so the fields
are kept apart exactly if no two keys of the mapping are. -/
theorem run_identifiers_shared_iff {documents : List Node} {options : Options} {name : String}
    {record : Record}
    (stands : (Generation.run documents options).registry.get? name = some record) :
    ∃ index sample, Generation.IsSampled documents index sample ∧ sample.name = name ∧
      record.fields.map (·.sourceKey) = sample.entries.map Prod.fst ∧
      (∀ field ∈ record.fields, ∃ rest,
        field.goLine options.tagKey = "\t" ++ Name.normalize field.sourceKey ++ " " ++ rest) ∧
      (∀ field ∈ record.fields, (∃ c ∈ field.sourceKey.toList, c ≠ '_' ∧ c ≠ '-') →
        Name.normalize field.sourceKey ≠ "") ∧
      (∀ field ∈ record.fields, ∀ other ∈ record.fields,
        Name.normalize field.sourceKey = Name.normalize other.sourceKey ↔
          Name.SpelledAlike field.sourceKey other.sourceKey) ∧
      ((record.fields.map fun field => Name.normalize field.sourceKey).Nodup ↔
        sample.entries.Pairwise fun entry other => ¬ Name.SpelledAlike entry.1 other.1) := by
  obtain ⟨index, sample, sampled, named, rfl⟩ := Generation.exists_sample_of_get?_run stands
  have keys := sample.map_sourceKey_record options
  refine ⟨index, sample, sampled, named, keys, fun field _ => field.goLine_eq_identifier _, ?_,
    fun _ _ _ _ => Name.normalize_eq_iff, ?_⟩
  · rintro field - ⟨c, inside, underscore, hyphen⟩ empty
    rcases Name.isSeparator_iff.1 (Name.normalize_eq_empty_iff.1 empty c inside) with same | same
    · exact underscore same
    · exact hyphen same
  · have identifiers : (sample.record options).fields.map
        (fun field => Name.normalize field.sourceKey) =
          sample.entries.map fun entry => Name.normalize entry.1 := by
      have named := congrArg (List.map Name.normalize) keys
      rwa [List.map_map, List.map_map] at named
    rw [identifiers, List.Nodup, List.pairwise_map]
    simp only [ne_eq, Name.normalize_eq_iff]

/-- Two keys of one mapping that are spellings of one another, and a third that is not. -/
theorem run_identifiers_shared_by_two_spellings :
    let entries : Entries :=
      [("a_b", .scalar .integer "1"), ("aB", .scalar .integer "2"), ("é", .scalar .bool "true")]
    ∃ record,
      (Generation.run [.mapping entries] {}).registry.get? "Document" = some record ∧
        record.fields.map (·.sourceKey) = ["a_b", "aB", "é"] ∧
        Name.SpelledAlike "a_b" "aB" ∧ ¬ Name.SpelledAlike "a_b" "é" := by
  intro entries
  have stands : (Generation.run [.mapping entries] {}).registry.get? "Document" =
      some { name := "Document", fields := Walk.fields {} [] entries } := by
    decide +kernel
  have first : { sourceKey := "a_b", type := .scalar "int", omitEmpty := false } ∈
      Walk.fields {} [] entries := by
    decide +kernel
  have second : { sourceKey := "aB", type := .scalar "int", omitEmpty := false } ∈
      Walk.fields {} [] entries := by
    decide +kernel
  have third : { sourceKey := "é", type := .scalar "bool", omitEmpty := false } ∈
      Walk.fields {} [] entries := by
    decide +kernel
  obtain ⟨_, _, _, _, _, _, _, shared, _⟩ := run_identifiers_shared_iff stands
  refine ⟨_, stands, by decide +kernel, (shared _ first _ second).1 (by decide +kernel), ?_⟩
  intro alike
  exact absurd ((shared _ first _ third).2 alike) (by decide +kernel)

/-- A record may declare a field without an identifier, and two fields with the same. -/
theorem identifiers_missing_and_shared :
    ¬ (∀ (documents : List Node) (options : Options) (name : String) (record : Record),
      (Generation.run documents options).registry.get? name = some record →
        ∀ field ∈ record.fields, Name.normalize field.sourceKey ≠ "") ∧
    ¬ (∀ (documents : List Node) (options : Options) (name : String) (record : Record),
      (Generation.run documents options).registry.get? name = some record →
        ∀ field ∈ record.fields, ∀ other ∈ record.fields, field.sourceKey ≠ other.sourceKey →
          Name.normalize field.sourceKey ≠ Name.normalize other.sourceKey) := by
  let entries : Entries :=
    [("_", .scalar .integer "1"), ("a_b", .scalar .integer "1"), ("aB", .scalar .integer "1")]
  have stands : (Generation.run [.mapping entries] {}).registry.get? "Document" =
      some { name := "Document", fields := Walk.fields {} [] entries } := by
    decide +kernel
  have bare : { sourceKey := "_", type := .scalar "int", omitEmpty := false } ∈
      Walk.fields {} [] entries := by
    decide +kernel
  have first : { sourceKey := "a_b", type := .scalar "int", omitEmpty := false } ∈
      Walk.fields {} [] entries := by
    decide +kernel
  have second : { sourceKey := "aB", type := .scalar "int", omitEmpty := false } ∈
      Walk.fields {} [] entries := by
    decide +kernel
  constructor
  · intro filled
    exact filled _ _ _ _ stands _ bare (by decide +kernel)
  · intro apart
    exact apart _ _ _ _ stands _ first _ second (by decide) (by decide +kernel)

end YamlShape
