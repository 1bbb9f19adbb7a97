/-
# YamlShape.Proofs.LimitedSink -- what a sink of limited size keeps

Emission into a sink that fills up goes wrong in the middle of a step: in a
separator, a header, a field's name, its type or tag.  What counts then is what
the same steps would have written to a sink without limit.  The limited sink keeps
the longest prefix of that text that fits (`LongestFitting`), and a step succeeds
exactly if it has nothing to write or if all that was written up to its end fits.

After a step has failed the two emitters differ: the limited one has counted fewer
blocks, so that it may leave out a separator that the other one writes.  `Follows`
says what they still have in common.  A sink that was full once takes nothing any
more, so what it holds stays the longest prefix of whatever else is written to the
other (`Sink.Holds.more`).
-/
import YamlShape.GoSource

namespace YamlShape

set_option autoImplicit false

/-! ## Prefixes that fit -/

theorem utf8ByteSize_le_of_isPrefix {part whole : String}
    (inside : part.toList <+: whole.toList) : part.utf8ByteSize ≤ whole.utf8ByteSize := by
  obtain ⟨rest, parts⟩ := inside
  have joined : part ++ String.ofList rest = whole := by
    rw [← String.toList_inj, String.toList_append, String.toList_ofList, parts]
  rw [← joined, String.utf8ByteSize_append]
  exact Nat.le_add_right _ _

theorem append_ofList_cons (text : String) (c : Char) (rest : List Char) :
    text ++ String.ofList (c :: rest) = text.push c ++ String.ofList rest := by
  simp [← String.toList_inj]

/-- The longest prefix of a text that has at most `capacity` bytes. -/
structure LongestFitting (capacity : Nat) (whole kept : String) : Prop where
  isPrefix : kept.toList <+: whole.toList
  fits : kept.utf8ByteSize ≤ capacity
  longest : ∀ other : String, other.toList <+: whole.toList → other.utf8ByteSize ≤ capacity →
    other.toList <+: kept.toList

namespace LongestFitting

variable {capacity : Nat} {whole kept : String}

theorem of_fits (fits : whole.utf8ByteSize ≤ capacity) : LongestFitting capacity whole whole where
  isPrefix := List.prefix_rfl
  fits := fits
  longest _ inside _ := inside

theorem eq_of_fits (held : LongestFitting capacity whole kept)
    (fits : whole.utf8ByteSize ≤ capacity) : kept = whole := by
  have all := held.longest whole List.prefix_rfl fits
  exact String.toList_inj.1 (held.isPrefix.eq_of_length_le all.length_le)

/-- A character that does not fit any more. -/
theorem push (fits : whole.utf8ByteSize ≤ capacity) {c : Char}
    (refused : capacity < (whole.push c).utf8ByteSize) :
    LongestFitting capacity (whole.push c) whole where
  isPrefix := by
    rw [String.toList_push]
    exact List.prefix_append _ _
  fits := fits
  longest other inside small := by
    rw [String.toList_push, List.prefix_concat_iff] at inside
    rcases inside with all | part
    · have same : other = whole.push c := by rw [← String.toList_inj, all, String.toList_push]
      rw [same] at small
      omega
    · exact part

/-- What comes after a text that does not fit makes no difference. -/
theorem append (held : LongestFitting capacity whole kept)
    (excess : capacity < whole.utf8ByteSize) (more : String) :
    LongestFitting capacity (whole ++ more) kept where
  isPrefix := by
    rw [String.toList_append]
    exact held.isPrefix.trans (List.prefix_append _ _)
  fits := held.fits
  longest other inside small := by
    refine held.longest other ?_ small
    rw [String.toList_append] at inside
    rcases List.prefix_or_prefix_of_prefix inside (List.prefix_append _ _) with part | beyond
    · exact part
    · have := utf8ByteSize_le_of_isPrefix beyond
      omega

end LongestFitting

/-! ## Sinks -/

namespace Sink

/-- A sink of limited size has kept what fits of the text that was offered to it. -/
structure Holds (capacity : Nat) (sink : Sink) (offered : String) : Prop where
  limited : sink.capacity = some capacity
  keeps : LongestFitting capacity offered sink.text
  closed_iff : sink.closed = true ↔ capacity < offered.utf8ByteSize

variable {capacity : Nat} {sink : Sink} {offered : String}

/-- A full sink takes no part in what is offered later. -/
theorem Holds.more (holds : sink.Holds capacity offered) (closed : sink.closed = true)
    (more : String) : sink.Holds capacity (offered ++ more) where
  limited := holds.limited
  keeps := holds.keeps.append (holds.closed_iff.1 closed) more
  closed_iff := by
    have excess := holds.closed_iff.1 closed
    rw [String.utf8ByteSize_append]
    exact ⟨fun _ => by omega, fun _ => closed⟩

theorem Holds.fits_iff (holds : sink.Holds capacity offered) :
    offered.utf8ByteSize ≤ capacity ↔ sink.closed = false := by
  rw [← Nat.not_lt, ← holds.closed_iff, Bool.not_eq_true]

theorem Holds.text_eq (holds : sink.Holds capacity offered) (opened : sink.closed = false) :
    sink.text = offered :=
  holds.keeps.eq_of_fits (holds.fits_iff.2 opened)

theorem Holds.takes_iff (holds : sink.Holds capacity offered) (c : Char) :
    sink.takes c = true ↔ (offered.push c).utf8ByteSize ≤ capacity := by
  rw [takes, holds.limited, String.utf8ByteSize_push]
  cases closed : sink.closed with
  | true =>
      have excess := holds.closed_iff.1 closed
      simp only [Bool.not_true, Bool.false_and, Bool.false_eq_true, false_iff]
      omega
  | false => simp [holds.text_eq closed]

/-- One more character that is taken. -/
theorem Holds.take (holds : sink.Holds capacity offered) {c : Char}
    (taken : sink.takes c = true) :
    Holds capacity { sink with text := sink.text.push c } (offered.push c) := by
  have fits := (holds.takes_iff c).1 taken
  have opened : sink.closed = false := by
    rw [takes, Bool.and_eq_true] at taken
    simpa using taken.1
  refine ⟨holds.limited, ?_, ?_⟩
  · rw [holds.text_eq opened]
    exact .of_fits fits
  · simp only [opened, Bool.false_eq_true, false_iff]
    omega

/-- One more character that is refused. -/
theorem Holds.refuse (holds : sink.Holds capacity offered) {c : Char}
    (refused : sink.takes c = false) :
    Holds capacity { sink with closed := true } (offered.push c) := by
  have excess : capacity < (offered.push c).utf8ByteSize := by
    have := mt (holds.takes_iff c).2 (by simp [refused])
    omega
  refine ⟨holds.limited, ?_, fun _ => excess, fun _ => rfl⟩
  cases closed : sink.closed with
  | true =>
      rw [String.push_eq_append]
      exact holds.keeps.append (holds.closed_iff.1 closed) _
  | false =>
      have same : sink.text = offered := holds.text_eq closed
      simp only [same]
      exact .push (holds.fits_iff.2 closed) excess

theorem Holds.writeChars (holds : sink.Holds capacity offered) (chars : List Char) :
    (sink.writeChars chars).1.Holds capacity (offered ++ String.ofList chars) ∧
      ((sink.writeChars chars).2 = true ↔
        chars = [] ∨ (offered ++ String.ofList chars).utf8ByteSize ≤ capacity) := by
  induction chars generalizing sink offered with
  | nil => simpa [Sink.writeChars] using holds
  | cons c rest ih =>
      rw [Sink.writeChars, append_ofList_cons]
      cases taken : sink.takes c with
      | true =>
          obtain ⟨inner, complete⟩ := ih (holds.take taken)
          refine ⟨by simpa using inner, ?_⟩
          rw [if_pos rfl, complete]
          simp only [reduceCtorEq, false_or]
          refine or_iff_right_of_imp ?_
          rintro rfl
          simpa using (holds.takes_iff c).1 taken
      | false =>
          have full := holds.refuse taken
          rw [if_neg Bool.false_ne_true]
          have later := full.more rfl (String.ofList rest)
          refine ⟨later, ?_⟩
          rw [later.fits_iff]
          simp

theorem Holds.write (holds : sink.Holds capacity offered) (text : String) :
    (sink.write text).1.Holds capacity (offered ++ text) ∧
      ((sink.write text).2 = true ↔
        text = "" ∨ (offered ++ text).utf8ByteSize ≤ capacity) := by
  have written := holds.writeChars text.toList
  rw [String.ofList_toList, String.toList_eq_nil_iff] at written
  exact written

theorem write_of_closed (closed : sink.closed = true) {text : String} (some : text ≠ "") :
    sink.write text = (sink, false) := by
  rw [Sink.write]
  cases chars : text.toList with
  | nil => exact absurd (String.toList_eq_nil_iff.1 chars) some
  | cons c rest =>
      rw [Sink.writeChars, takes, closed]
      simp [← closed]

/-- A sink that takes everything. -/
structure Unlimited (sink : Sink) : Prop where
  capacity : sink.capacity = none
  opened : sink.closed = false

theorem Unlimited.writeChars (unlimited : sink.Unlimited) (chars : List Char) :
    sink.writeChars chars = ({ sink with text := sink.text ++ String.ofList chars }, true) := by
  induction chars generalizing sink with
  | nil => simp [Sink.writeChars]
  | cons c rest ih =>
      have taken : sink.takes c = true := by simp [takes, unlimited.capacity, unlimited.opened]
      have later : Unlimited { sink with text := sink.text.push c } :=
        ⟨unlimited.capacity, unlimited.opened⟩
      rw [Sink.writeChars, if_pos taken, ih later, append_ofList_cons]

theorem Unlimited.write (unlimited : sink.Unlimited) (text : String) :
    sink.write text = ({ sink with text := sink.text ++ text }, true) := by
  rw [Sink.write, unlimited.writeChars, String.ofList_toList]

end Sink

/-! ## Emissions -/

/-- What an emitter is asked to write in one step. -/
inductive Emission where
  | ofRecord (record : Record)
  | ofRegistry (registry : Registry) (roots : List String)

/-- The records of a step, in order. -/
def Emission.records : Emission → List Record
  | .ofRecord record => [record]
  | .ofRegistry registry roots => registry.emissionOrder roots

namespace Emitter

/-- One step; the flag says whether all of it was written. -/
def step (emitter : Emitter) : Emission → Emitter × Bool
  | .ofRecord record => emitter.emitRecord record
  | .ofRegistry registry roots => emitter.emit registry roots

/-- Steps in turn, the later ones also after a step that failed; the flags say
which of them succeeded. -/
def run (emitter : Emitter) : List Emission → Emitter × List Bool
  | [] => (emitter, [])
  | emission :: rest =>
    let (emitter, complete) := emitter.step emission
    let (emitter, flags) := emitter.run rest
    (emitter, complete :: flags)

theorem step_eq (emitter : Emitter) (emission : Emission) :
    emitter.step emission = emitter.emitRecords emission.records := by
  cases emission with
  | ofRegistry registry roots => rfl
  | ofRecord record =>
      rw [step, Emission.records, emitRecords]
      split
      · next after written =>
        rw [written]
        rfl
      · next after written => exact written

/-! ## The texts of blocks -/

/-- The text of a block that comes after `before` others. -/
def blockText (tagKey : String) (before : Nat) (record : Record) : String :=
  (if before = 0 then "" else "\n") ++ record.goBlock tagKey

/-- The text of blocks that come after `before` others. -/
def blocksText (tagKey : String) (before : Nat) : List Record → String
  | [] => ""
  | record :: rest => blockText tagKey before record ++ blocksText tagKey (before + 1) rest

/-- The text of each step, where `before` blocks were written earlier. -/
def stepTexts (tagKey : String) (before : Nat) : List Emission → List String
  | [] => []
  | emission :: rest =>
    blocksText tagKey before emission.records ::
      stepTexts tagKey (before + emission.records.length) rest

theorem blockText_ne_empty (tagKey : String) (before : Nat) (record : Record) :
    blockText tagKey before record ≠ "" := by
  intro empty
  have letters := congrArg String.toList empty
  simp [blockText, Record.goBlock_eq] at letters

theorem blocksText_eq_empty_iff {tagKey : String} {before : Nat} {records : List Record} :
    blocksText tagKey before records = "" ↔ records = [] := by
  cases records with
  | nil => simp [blocksText]
  | cons record rest =>
      simp [blocksText, String.append_eq_empty_iff, blockText_ne_empty]

theorem blocksText_append (tagKey : String) (before : Nat) (first second : List Record) :
    blocksText tagKey before (first ++ second) =
      blocksText tagKey before first ++ blocksText tagKey (before + first.length) second := by
  induction first generalizing before with
  | nil => simp [blocksText]
  | cons record rest ih =>
      rw [List.cons_append, blocksText, ih, blocksText, String.append_assoc, List.length_cons,
        Nat.add_assoc, Nat.add_comm 1]

theorem length_stepTexts (tagKey : String) (before : Nat) (steps : List Emission) :
    (stepTexts tagKey before steps).length = steps.length := by
  induction steps generalizing before with
  | nil => rfl
  | cons emission rest ih => rw [stepTexts, List.length_cons, ih, List.length_cons]

theorem stepTexts_take (tagKey : String) (before count : Nat) (steps : List Emission) :
    stepTexts tagKey before (steps.take count) = (stepTexts tagKey before steps).take count := by
  induction steps generalizing before count with
  | nil => simp [stepTexts]
  | cons emission rest ih =>
      cases count with
      | zero => simp [stepTexts]
      | succ count => rw [List.take_succ_cons, stepTexts, ih, stepTexts, List.take_succ_cons]

theorem join_stepTexts (tagKey : String) (before : Nat) (steps : List Emission) :
    String.join (stepTexts tagKey before steps) =
      blocksText tagKey before (steps.flatMap Emission.records) := by
  induction steps generalizing before with
  | nil => rfl
  | cons emission rest ih =>
      rw [stepTexts, String.join_cons, ih, List.flatMap_cons, blocksText_append]

/-- The pieces of a block are taken as its text is. -/
theorem emitRecord_eq (emitter : Emitter) (record : Record) :
    emitter.emitRecord record =
      let (sink, complete) := emitter.sink.write (blockText emitter.tagKey emitter.blocks record)
      let blocks := if complete then emitter.blocks + 1 else emitter.blocks
      ({ emitter with sink, blocks }, complete) := by
  have before : String.join emitter.separator = if emitter.blocks = 0 then "" else "\n" := by
    rw [separator]
    split <;> simp [String.join_cons, String.join_nil]
  rw [emitRecord, Sink.writeAll_eq, String.join_append, Record.join_goPieces, before, blockText]

/-! ## Without limit -/

section Unlimited

variable {emitter : Emitter}

/-- An emitter after blocks of which nothing was refused. -/
def advance (emitter : Emitter) (records : List Record) : Emitter :=
  let added := blocksText emitter.tagKey emitter.blocks records
  { emitter with
    sink := { emitter.sink with text := emitter.sink.text ++ added }
    blocks := emitter.blocks + records.length }

theorem unlimited_advance (unlimited : emitter.sink.Unlimited) (records : List Record) :
    (emitter.advance records).sink.Unlimited :=
  ⟨unlimited.capacity, unlimited.opened⟩

theorem advance_nil (emitter : Emitter) : emitter.advance [] = emitter := by
  simp [advance, blocksText]

theorem advance_append (emitter : Emitter) (first second : List Record) :
    (emitter.advance first).advance second = emitter.advance (first ++ second) := by
  simp only [advance, blocksText_append, String.append_assoc, List.length_append, Nat.add_assoc]

theorem emitRecord_unlimited (unlimited : emitter.sink.Unlimited) (record : Record) :
    emitter.emitRecord record = (emitter.advance [record], true) := by
  rw [emitRecord_eq, unlimited.write]
  simp [advance, blocksText]

theorem emitRecords_unlimited (unlimited : emitter.sink.Unlimited) (records : List Record) :
    emitter.emitRecords records = (emitter.advance records, true) := by
  induction records generalizing emitter with
  | nil => rw [emitRecords, advance_nil]
  | cons record rest ih =>
      rw [emitRecords, emitRecord_unlimited unlimited]
      simp only [ih (unlimited_advance unlimited [record]), advance_append, List.singleton_append]

theorem step_unlimited (unlimited : emitter.sink.Unlimited) (emission : Emission) :
    emitter.step emission = (emitter.advance emission.records, true) := by
  rw [step_eq, emitRecords_unlimited unlimited]

theorem run_unlimited (unlimited : emitter.sink.Unlimited) (steps : List Emission) :
    (emitter.run steps).1 = emitter.advance (steps.flatMap Emission.records) := by
  induction steps generalizing emitter with
  | nil => rw [run, List.flatMap_nil, advance_nil]
  | cons emission rest ih =>
      rw [run, step_unlimited unlimited, List.flatMap_cons, ← advance_append]
      exact ih (unlimited_advance unlimited emission.records)

end Unlimited

/-! ## A limited emitter beside an unlimited one -/

/-- One emitter has a limited sink, the other one has not, and both were asked for
the same.  As long as nothing was refused they have written the same blocks. -/
structure Follows (capacity : Nat) (limited unlimited : Emitter) : Prop where
  tagKey : limited.tagKey = unlimited.tagKey
  holds : limited.sink.Holds capacity unlimited.sink.text
  blocks : limited.sink.closed = false → limited.blocks = unlimited.blocks

namespace Follows

variable {capacity : Nat} {limited unlimited : Emitter}

/-- Once the limited emitter is full the other one may go on alone. -/
theorem advance (follows : Follows capacity limited unlimited)
    (closed : limited.sink.closed = true) (records : List Record) :
    Follows capacity limited (unlimited.advance records) where
  tagKey := follows.tagKey
  holds := follows.holds.more closed _
  blocks opened := absurd opened (by simp [closed])

/-- One record: the limited emitter completes it exactly if all of it fits. -/
theorem emitRecord (follows : Follows capacity limited unlimited) (record : Record) :
    Follows capacity (limited.emitRecord record).1 (unlimited.advance [record]) ∧
      ((limited.emitRecord record).2 = true ↔
        (unlimited.advance [record]).sink.text.utf8ByteSize ≤ capacity) := by
  rw [emitRecord_eq]
  cases closed : limited.sink.closed with
  | true =>
      have after := follows.advance closed [record]
      rw [Sink.write_of_closed closed (blockText_ne_empty _ _ _)]
      refine ⟨⟨after.tagKey, after.holds, after.blocks⟩, ?_⟩
      simp [after.holds.fits_iff, closed]
  | false =>
      -- nothing was refused yet, so that both emitters write the same text
      have same : (unlimited.advance [record]).sink.text =
          unlimited.sink.text ++ blockText limited.tagKey limited.blocks record := by
        simp [Emitter.advance, blocksText, follows.tagKey, follows.blocks closed]
      obtain ⟨holds, complete⟩ :=
        follows.holds.write (blockText limited.tagKey limited.blocks record)
      rw [← same] at holds complete
      have fits : (limited.sink.write (blockText limited.tagKey limited.blocks record)).2 = true ↔
          (unlimited.advance [record]).sink.text.utf8ByteSize ≤ capacity := by
        rw [complete, or_iff_right (blockText_ne_empty _ _ _)]
      refine ⟨⟨follows.tagKey, holds, fun opened => ?_⟩, fits⟩
      simp only [if_pos (fits.2 (holds.fits_iff.2 opened))]
      rw [follows.blocks closed]
      rfl

/-- Records in turn: all are completed exactly if there are none or all fit. -/
theorem emitRecords (follows : Follows capacity limited unlimited) (records : List Record) :
    Follows capacity (limited.emitRecords records).1 (unlimited.advance records) ∧
      ((limited.emitRecords records).2 = true ↔
        records = [] ∨ (unlimited.advance records).sink.text.utf8ByteSize ≤ capacity) := by
  induction records generalizing limited unlimited with
  | nil =>
      rw [advance_nil, Emitter.emitRecords]
      exact ⟨follows, by simp⟩
  | cons record rest ih =>
      obtain ⟨one, complete⟩ := follows.emitRecord record
      have parts : unlimited.advance (record :: rest) = (unlimited.advance [record]).advance rest :=
        (advance_append unlimited [record] rest).symm
      rw [Emitter.emitRecords, parts]
      split
      · next after written =>
        rw [written] at one complete
        obtain ⟨others, all⟩ := ih one
        refine ⟨others, all.trans ?_⟩
        simp only [reduceCtorEq, false_or]
        refine or_iff_right_of_imp ?_
        rintro rfl
        rw [advance_nil]
        exact complete.1 rfl
      · next after written =>
        rw [written] at one complete
        have closed : after.sink.closed = true := by
          simpa [one.holds.fits_iff] using complete
        have later := one.advance closed rest
        exact ⟨later, by simp [later.holds.fits_iff, closed]⟩

theorem step (follows : Follows capacity limited unlimited) (emission : Emission) :
    Follows capacity (limited.step emission).1 (unlimited.advance emission.records) ∧
      (limited.step emission).2 = decide
        (blocksText unlimited.tagKey unlimited.blocks emission.records = "" ∨
          (unlimited.advance emission.records).sink.text.utf8ByteSize ≤ capacity) := by
  obtain ⟨after, complete⟩ := follows.emitRecords emission.records
  rw [step_eq]
  refine ⟨after, ?_⟩
  rw [Bool.eq_iff_iff, complete, decide_eq_true_iff, blocksText_eq_empty_iff]

/-- Steps in turn: one succeeds exactly if it has nothing to write or if all up to
its end fits. -/
theorem run (follows : Follows capacity limited unlimited) (steps : List Emission) :
    Follows capacity (limited.run steps).1
        (unlimited.advance (steps.flatMap Emission.records)) ∧
      (limited.run steps).2 =
        (stepTexts unlimited.tagKey unlimited.blocks steps).mapIdx fun index text =>
          decide (text = "" ∨
            (unlimited.sink.text ++ String.join
              ((stepTexts unlimited.tagKey unlimited.blocks steps).take (index + 1))).utf8ByteSize ≤
                capacity) := by
  induction steps generalizing limited unlimited with
  | nil =>
      refine ⟨?_, rfl⟩
      rw [List.flatMap_nil, advance_nil]
      exact follows
  | cons emission rest ih =>
      obtain ⟨one, first⟩ := follows.step emission
      obtain ⟨others, flags⟩ := ih one
      rw [Emitter.run, stepTexts, List.mapIdx_cons]
      refine ⟨?_, ?_⟩
      · rw [List.flatMap_cons, ← advance_append]
        exact others
      · show (limited.step emission).2 :: ((limited.step emission).1.run rest).2 = _
        rw [flags, first]
        simp only [List.take_succ_cons, List.take_zero, String.join_cons, String.join_nil,
          String.append_empty, ← String.append_assoc]
        rfl

end Follows

end Emitter

/-- **A limited sink keeps the longest prefix that fits.**  Let `texts` be what the
steps write, one after the other, to a sink without limit.  A sink for `capacity`
bytes ends with the longest prefix of them that fits, and a step succeeds exactly if
its text is empty or all texts up to its own fit. -/
theorem run_keeps_longest_fitting (tagKey : String) (capacity : Nat) (steps : List Emission) :
    ∃ texts : List String,
      texts.length = steps.length ∧
      (∀ count, (({ tagKey } : Emitter).run (steps.take count)).1.sink.text =
        String.join (texts.take count)) ∧
      LongestFitting capacity (String.join texts)
        (({ tagKey, sink := { capacity := some capacity } } : Emitter).run steps).1.sink.text ∧
      (({ tagKey, sink := { capacity := some capacity } } : Emitter).run steps).2 =
        texts.mapIdx fun index text =>
          decide (text = "" ∨ (String.join (texts.take (index + 1))).utf8ByteSize ≤ capacity) := by
  have unlimited : ({ tagKey } : Emitter).sink.Unlimited := ⟨rfl, rfl⟩
  have start : Emitter.Follows capacity
      { tagKey, sink := { capacity := some capacity } } { tagKey } := by
    refine ⟨rfl, ⟨rfl, .of_fits ?_, ?_⟩, fun _ => rfl⟩
    · exact Nat.zero_le _
    · simp
  obtain ⟨follows, flags⟩ := start.run steps
  refine ⟨Emitter.stepTexts tagKey 0 steps, Emitter.length_stepTexts _ _ _, ?_, ?_, ?_⟩
  · intro count
    rw [Emitter.run_unlimited unlimited, ← Emitter.stepTexts_take, Emitter.join_stepTexts]
    exact String.empty_append
  · have kept := follows.holds.keeps
    rw [Emitter.join_stepTexts]
    simpa only [Emitter.advance, String.empty_append] using kept
  · simpa using flags

/-- Six bytes end within the header, before a letter of two bytes.  The next step has
nothing to write, the one after it writes less than it would have without the failure. -/
example : (({ tagKey := "json", sink := { capacity := some 6 } } : Emitter).run
      [.ofRecord { name := "Ä", fields := [] }, .ofRegistry .empty ["A"],
        .ofRecord { name := "B", fields := [] }]).1.sink.text = "type " ∧
    (({ tagKey := "json", sink := { capacity := some 6 } } : Emitter).run
      [.ofRecord { name := "Ä", fields := [] }, .ofRegistry .empty ["A"],
        .ofRecord { name := "B", fields := [] }]).2 = [false, true, false] := by
  decide +kernel

end YamlShape
