/-
# YamlShape.Proofs.Blocks -- one newline between two blocks

Two mechanisms keep blocks apart.  An emitter counts the blocks that it has written
and puts a newline before every one but the first, also when it goes from one
registry to the next.  A request for Go source writes every input on its own, drops
what came out empty, and joins the rest.  They agree because both give the blocks of
all records joined by a newline, however the records are spread over the inputs:

* `blocksText_eq_intercalate`: so an emitter writes its blocks;
* `intercalate_map_intercalate`: what is joined in groups and then joined again is
  joined as a whole, if no group is empty.
-/
import YamlShape.Command.Run
import YamlShape.Proofs.LimitedSink

namespace YamlShape

set_option autoImplicit false

/-! ## Texts that are joined -/

section Joined

variable {separator : String}

theorem intercalate_eq_empty_iff {texts : List String} (filled : ∀ text ∈ texts, text ≠ "") :
    separator.intercalate texts = "" ↔ texts = [] := by
  cases texts with
  | nil => simp
  | cons text rest =>
      have first := filled text List.mem_cons_self
      cases rest with
      | nil => simpa using first
      | cons next others => simp [String.intercalate_cons_cons, String.append_eq_empty_iff, first]

/-- Texts joined in groups, and these joined in turn. -/
theorem intercalate_map_intercalate {groups : List (List String)}
    (filled : ∀ group ∈ groups, group ≠ []) :
    separator.intercalate (groups.map separator.intercalate) =
      separator.intercalate groups.flatten := by
  induction groups with
  | nil => rfl
  | cons group rest ih =>
      obtain ⟨first, others⟩ := List.forall_mem_cons.1 filled
      rw [List.map_cons, List.flatten_cons]
      by_cases last : rest = []
      · subst last
        simp
      · obtain ⟨next, more, rfl⟩ := List.exists_cons_of_ne_nil last
        have beyond : (next :: more).flatten ≠ [] := by
          rw [List.flatten_cons]
          exact List.append_ne_nil_of_left_ne_nil (others next List.mem_cons_self) _
        rw [String.intercalate_append_of_ne_nil first beyond, ← ih others, List.map_cons,
          String.intercalate_cons_cons]

/-- Groups that give no text may be dropped before they are joined. -/
theorem intercalate_filter_intercalate {groups : List (List String)}
    (filled : ∀ group ∈ groups, ∀ text ∈ group, text ≠ "") :
    separator.intercalate ((groups.map separator.intercalate).filter (· ≠ "")) =
      separator.intercalate groups.flatten := by
  have kept : ∀ group ∈ groups,
      decide (separator.intercalate group ≠ "") = decide (group ≠ []) := by
    intro group inside
    rw [decide_eq_decide]
    exact not_congr (intercalate_eq_empty_iff (filled group inside))
  have dropped : (groups.map separator.intercalate).filter (· ≠ "") =
      (groups.filter (· ≠ [])).map separator.intercalate := by
    rw [List.filter_map]
    exact congrArg _ (List.filter_congr kept)
  rw [dropped, intercalate_map_intercalate, List.flatten_filter_ne_nil]
  intro group inside
  exact of_decide_eq_true (List.mem_filter.1 inside).2

end Joined

/-! ## The blocks of an emitter -/

namespace Emitter

/-- Blocks are written with a newline between every two, and one before the first if
others came before it. -/
theorem blocksText_eq_intercalate (tagKey : String) (before : Nat) {records : List Record}
    (filled : records ≠ []) :
    blocksText tagKey before records =
      (if before = 0 then "" else "\n")
        ++ "\n".intercalate (records.map (·.goBlock tagKey)) := by
  induction records generalizing before with
  | nil => exact absurd rfl filled
  | cons record rest ih =>
      cases rest with
      | nil => simp [blocksText, blockText]
      | cons next others =>
          rw [blocksText, ih (before + 1) (List.cons_ne_nil _ _), blockText]
          simp only [List.map_cons, String.intercalate_cons_cons, Nat.add_eq_zero_iff,
            Nat.one_ne_zero, and_false, if_false, String.append_assoc]

theorem blocksText_zero (tagKey : String) (records : List Record) :
    blocksText tagKey 0 records = "\n".intercalate (records.map (·.goBlock tagKey)) := by
  cases records with
  | nil => rfl
  | cons record rest =>
      rw [blocksText_eq_intercalate tagKey 0 (List.cons_ne_nil _ _), if_pos rfl,
        String.empty_append]

end Emitter

theorem Record.goBlock_ne_empty (tagKey : String) (record : Record) :
    record.goBlock tagKey ≠ "" := by
  have filled := Emitter.blockText_ne_empty tagKey 0 record
  rwa [Emitter.blockText, if_pos rfl, String.empty_append] at filled

/-- A registry is rendered as its blocks. -/
theorem Registry.render_eq (registry : Registry) (roots : List String) (tagKey : String) :
    registry.render roots tagKey = Emitter.blocksText tagKey 0 (registry.emissionOrder roots) := by
  rw [render, Emitter.emit, Emitter.emitRecords_unlimited ⟨rfl, rfl⟩, Emitter.advance]
  exact String.empty_append

theorem Generation.render_eq (generation : Generation) :
    generation.render =
      "\n".intercalate (generation.orderedRecords.map (·.goBlock generation.options.tagKey)) := by
  rw [render, Registry.render_eq, Emitter.blocksText_zero, orderedRecords]

/-! ## The Go source of several inputs -/

/-- The blocks of one input. -/
def Command.Input.goBlocks (options : Options) (input : Command.Input) : List String :=
  (Generation.run input.documents options).orderedRecords.map (·.goBlock options.tagKey)

theorem Command.goText_eq (options : Options) (inputs : List Command.Input) :
    Command.goText options inputs = "\n".intercalate (inputs.flatMap (·.goBlocks options)) := by
  have rendered : inputs.map (fun input => (Generation.run input.documents options).render) =
      (inputs.map (·.goBlocks options)).map "\n".intercalate := by
    rw [List.map_map]
    exact List.map_congr_left fun input _ => Generation.render_eq _
  rw [goText, rendered, intercalate_filter_intercalate, List.flatMap_def]
  intro group listed text inside
  obtain ⟨input, _, rfl⟩ := List.mem_map.1 listed
  obtain ⟨record, _, rfl⟩ := List.mem_map.1 inside
  exact record.goBlock_ne_empty _

/-- The step in which an emitter writes the records of a run. -/
def Generation.emission (generation : Generation) : Emission :=
  .ofRegistry generation.registry generation.rootNames

theorem Generation.records_emission (generation : Generation) :
    generation.emission.records = generation.orderedRecords := rfl

/-- **Joining the inputs is one continuous emission.**  The Go source of a request is
what one emitter writes that is handed the registry and the root names of every input
in turn.  Both are the blocks of all records of all inputs, with a newline between
every two blocks, and none before the first or after the last. -/
theorem goSource_eq_continuous (options : Options) (inputs : List Command.Input) :
    Command.Product.goSource.text options inputs =
        (({ tagKey := options.tagKey } : Emitter).run
          (inputs.map fun input => (Generation.run input.documents options).emission)).1.sink.text ∧
      Command.Product.goSource.text options inputs =
        "\n".intercalate ((inputs.flatMap fun input =>
          (Generation.run input.documents options).orderedRecords).map
            (·.goBlock options.tagKey)) := by
  have joined : Command.Product.goSource.text options inputs =
      "\n".intercalate ((inputs.flatMap fun input =>
        (Generation.run input.documents options).orderedRecords).map
          (·.goBlock options.tagKey)) := by
    rw [List.map_flatMap]
    exact Command.goText_eq options inputs
  refine ⟨joined.trans ?_, joined⟩
  rw [Emitter.run_unlimited ⟨rfl, rfl⟩, List.flatMap_map, Emitter.advance,
    Emitter.blocksText_zero]
  simp only [Generation.records_emission]
  exact String.empty_append.symm

end YamlShape
