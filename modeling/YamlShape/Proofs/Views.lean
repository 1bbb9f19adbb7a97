/-
# YamlShape.Proofs.Views -- the two outputs show the same records

A record's name has four copies: the key that it is registered under, the name it
carries, the header of its block, and the key of its member in the JSON view.  A
registry that is filled by hand can make them differ, and then the JSON view drops
records without a word.  After a run they are one name, for every write of a run is
under the record's own name.

* `schema_run`: so the JSON view has one member for each record, in order of emission;
* `eraseDups_presentRoots`: its roots are the records that come first.

What the JSON view shows can be read back from it.  The Go source writes a scalar and a
record of one name alike, and leaves out whatever the tags leave out; in the JSON view
every type has a kind, and the only member that may be left out stands for an empty list.
So `schema_run_eq_iff` holds of every two runs, without a word on the keys.
-/
import YamlShape.Proofs.Blocks
import YamlShape.Proofs.Emission
import YamlShape.Proofs.Names

namespace YamlShape

set_option autoImplicit false

/-! ## The JSON view -/

namespace Generation

/-- No member of the JSON view overwrites another. -/
theorem schema_run (documents : List Node) (options : Options) :
    (run documents options).schema = .object
      [("roots", .array ((run documents options).presentRoots.map .string)),
        ("records", .object ((run documents options).orderedRecords.map
          fun record => (record.name, record.toJson)))] := by
  have distinct : (((run documents options).orderedRecords.map
      fun record => (record.name, record.toJson)).map Prod.fst).Nodup := by
    rw [List.map_map]
    exact nodup_name_orderedRecords documents options
  rw [schema, OrderedMap.entries_ofList distinct]

/-- Without repetitions, the roots that are registered are the first names in order of
emission. -/
theorem eraseDups_presentRoots (generation : Generation) :
    generation.presentRoots.eraseDups <+:
      generation.registry.emissionKeys generation.rootNames := by
  rw [presentRoots, eraseDups_filter, Registry.emissionKeys]
  exact List.prefix_append _ _

end Generation

/-! ## Reading the JSON view back -/

theorem TypeExpr.toJson_injective : Function.Injective TypeExpr.toJson := by
  intro left
  induction left with
  | scalar name =>
      intro right same
      cases right with
      | scalar other => simpa [toJson] using same
      | _ => simp [toJson] at same
  | recordRef name =>
      intro right same
      cases right with
      | recordRef other => simpa [toJson] using same
      | _ => simp [toJson] at same
  | optional inner ih =>
      intro right same
      cases right with
      | optional other =>
          have below : inner.toJson = other.toJson := by simpa [toJson] using same
          rw [ih below]
      | _ => simp [toJson] at same
  | slice element ih =>
      intro right same
      cases right with
      | slice other =>
          have below : element.toJson = other.toJson := by simpa [toJson] using same
          rw [ih below]
      | _ => simp [toJson] at same
  | genericMap =>
      intro right same
      cases right with
      | genericMap => rfl
      | _ => simp [toJson] at same
  | any =>
      intro right same
      cases right with
      | any => rfl
      | _ => simp [toJson] at same

theorem Json.map_string_injective : Function.Injective (List.map Json.string) :=
  List.map_injective_iff.2 fun _ _ same => Json.string.inj same

theorem Field.toJson_injective : Function.Injective Field.toJson := by
  rintro ⟨key, type, mark, flags⟩ ⟨otherKey, otherType, otherMark, otherFlags⟩ same
  simp only [toJson, Json.object.injEq, List.cons_append, List.nil_append, List.cons.injEq,
    Prod.mk.injEq, true_and, Json.string.injEq, Json.bool.injEq] at same
  obtain ⟨rfl, types, rfl, members⟩ := same
  -- the member of the flags is there unless there are none
  have further : flags = otherFlags := by
    cases flags with
    | nil =>
        cases otherFlags with
        | nil => rfl
        | cons => simp at members
    | cons =>
        cases otherFlags with
        | nil => simp at members
        | cons => exact Json.map_string_injective (by simpa using members)
  rw [TypeExpr.toJson_injective types, further]

/-- A record can be read back from its member: the name from the key, the fields from the
value. -/
theorem Record.member_injective :
    Function.Injective fun record : Record => (record.name, record.toJson) := by
  rintro ⟨name, fields⟩ ⟨otherName, otherFields⟩ same
  simp only [toJson, Prod.mk.injEq, Json.object.injEq, List.cons.injEq, true_and, and_true,
    Json.array.injEq] at same
  obtain ⟨rfl, shown⟩ := same
  rw [List.map_injective_iff.2 Field.toJson_injective shown]

/-- **The JSON view loses nothing.**  Two runs, over whatever documents and under whatever
options, have the same JSON view exactly if their records in order of emission are the
same, with all that their fields hold, and the same roots are registered in the same
order. -/
theorem schema_run_eq_iff (left right : List Node) (options other : Options) :
    (Generation.run left options).schema = (Generation.run right other).schema ↔
      (Generation.run left options).orderedRecords =
        (Generation.run right other).orderedRecords ∧
      (Generation.run left options).presentRoots =
        (Generation.run right other).presentRoots := by
  rw [Generation.schema_run, Generation.schema_run]
  constructor
  · intro same
    simp only [Json.object.injEq, List.cons.injEq, Prod.mk.injEq, true_and, and_true,
      Json.array.injEq] at same
    obtain ⟨roots, records⟩ := same
    have recordsBack := List.map_injective_iff.2 Record.member_injective
    exact ⟨recordsBack records, Json.map_string_injective roots⟩
  · rintro ⟨records, roots⟩
    rw [records, roots]

/-! ## The two views -/

/-- **Registered names are sound, and both outputs show the same records.**  After a
run every record stands under its own name, has a field, and has a name that is filled
and free of separators.  The records in order of emission have different names and
are all that are registered.  The Go source has a block for each of them and the JSON
view a member, under the same name and in the same order; the roots of the JSON view,
without repetitions, are the names that come first. -/
theorem run_views_agree (documents : List Node) (options : Options) :
    (∀ key record, (Generation.run documents options).registry.get? key = some record →
      record.name = key ∧ record.fields ≠ [] ∧
        record.name ≠ "" ∧ '_' ∉ record.name.toList ∧ '-' ∉ record.name.toList) ∧
    ((Generation.run documents options).orderedRecords.map (·.name)).Nodup ∧
    (Generation.run documents options).orderedRecords.length =
      (Generation.run documents options).registry.size ∧
    (Generation.run documents options).render =
      "\n".intercalate ((Generation.run documents options).orderedRecords.map
        (·.goBlock options.tagKey)) ∧
    ∃ roots : List String,
      roots = (Generation.run documents options).rootNames.filter
        (Generation.run documents options).registry.contains ∧
      (Generation.run documents options).schema = .object
        [("roots", .array (roots.map .string)),
          ("records", .object ((Generation.run documents options).orderedRecords.map
            fun record => (record.name, record.toJson)))] ∧
      roots.eraseDups <+: (Generation.run documents options).orderedRecords.map (·.name) := by
  refine ⟨?_, Generation.nodup_name_orderedRecords documents options,
    Generation.length_orderedRecords _, Generation.render_eq _,
    _, rfl, Generation.schema_run documents options, ?_⟩
  · intro key record stands
    obtain rfl := Generation.name_of_get?_run stands
    obtain ⟨entries, filled, typed⟩ := Generation.fields_of_get?_run stands
    have named := Generation.isRecordName_of_get?_run stands
    refine ⟨rfl, ?_, named.ne_empty, ?_, ?_⟩
    · rw [typed, Walk.fields]
      exact fun empty => filled (List.map_eq_nil_iff.1 empty)
    · exact fun inside => absurd (named.joined _ inside) (by decide)
    · exact fun inside => absurd (named.joined _ inside) (by decide)
  · rw [Generation.map_name_orderedRecords]
    exact Generation.eraseDups_presentRoots _

end YamlShape
