/-
# YamlShape.Proofs.Sampling -- one write for every sampled mapping

A mapping of a document is sampled when it is filled and when entries and first
elements alone lead to it from the document's body, itself a mapping.  Sampled
mappings are told apart by their `Place`, for one mapping may stand in a document
many times over.

`Node.samples` lists them in the order of the writes, each with its name and its
entries: first below the entries that hold sequences, then the mapping itself,
then below the entries that hold mappings.  The list is exact: every sampled
place is in it (`mem_samples_iff`), and none twice (`nodup_samples`).

`run_writes_samples` says that a run is this list.  It writes one record for each
sampled mapping, in order; so the record left under a name is that of the last
sampled mapping of the name, and the names stand in order of first appearance.
-/
import Mathlib.Data.List.Nodup
import Mathlib.Data.List.Perm.Basic
import YamlShape.Proofs.Writes

namespace YamlShape

set_option autoImplicit false

open Name (recordNameFor nestedFallback)

/-! ## Places -/

/-- A step from a value to one inside it: into the entry of a mapping at an index,
or to the first element of a sequence. -/
inductive Step where
  | entry (index : Nat)
  | first
  deriving DecidableEq

/-- The steps that lead to a value. -/
abbrev Place := List Step

/-- The value at a place, with the name that its record would get: the name of
its key, the fallback for an element, and `name` for the outermost value. -/
def Node.at? : String → Node → Place → Option (String × Node)
  | name, node, [] => some (name, node)
  | _, .mapping entries, .entry index :: rest =>
    match entries[index]? with
    | some (key, value) => value.at? (recordNameFor key) rest
    | none => none
  | _, .sequence (first :: _), .first :: rest => first.at? nestedFallback rest
  | _, _, _ :: _ => none

/-- No two items of a list have the same index. -/
theorem pairwise_zipIdx_ne {α : Type} (items : List α) :
    items.zipIdx.Pairwise fun left right => left.2 ≠ right.2 := by
  have indices : (items.zipIdx.map Prod.snd).Nodup := by
    rw [List.zipIdx_map_snd]
    exact List.nodup_range'
  exact List.pairwise_map.1 indices

/-! ## Samples -/

/-- A sampled mapping: where it stands, how its record is named, what it holds. -/
structure Sample where
  place : Place
  name : String
  entries : Entries

namespace Sample

/-- A sample of an inner value, seen from the value that a step leaves. -/
def below (step : Step) (sample : Sample) : Sample :=
  { sample with place := step :: sample.place }

theorem mem_map_below {step : Step} {sample : Sample} {samples : List Sample} :
    sample ∈ samples.map (·.below step) ↔
      ∃ rest, sample.place = step :: rest ∧ { sample with place := rest } ∈ samples := by
  rw [List.mem_map]
  constructor
  · rintro ⟨inner, inside, rfl⟩
    exact ⟨inner.place, rfl, inside⟩
  · rintro ⟨rest, here, inside⟩
    exact ⟨_, inside, by rw [below, ← here]⟩

/-- The record of a sampled mapping: one field for each entry in source order, with
the key unchanged, the inferred type, and the mark for empty values. -/
def record (options : Options) (sample : Sample) : Record where
  name := sample.name
  fields := sample.entries.map fun (key, value) =>
    { sourceKey := key
      type := (Inference.infer { optionality := options.optionality } [] key value).1
      omitEmpty := value.isEmpty options.emptiness }

theorem record_eq (options : Options) (sample : Sample) :
    sample.record options =
      { name := sample.name, fields := Walk.fields options [] sample.entries } := by
  simp only [record, Inference.infer_eq, Walk.fields]

end Sample

namespace Node

/-- The samples of a value, in the order of the writes. -/
def samples (name : String) : Node → List Sample
  | .scalar _ _ => []
  | .sequence [] => []
  | .sequence (first :: _) => (samples nestedFallback first).map (·.below .first)
  | .mapping [] => []
  | .mapping (entry :: rest) =>
    (((entry :: rest).zipIdx.filter (·.1.2.isSequence)).attach.flatMap fun ⟨element, _⟩ =>
        (samples (recordNameFor element.1.1) element.1.2).map (·.below (.entry element.2)))
      ++ { place := [], name, entries := entry :: rest } ::
        (((entry :: rest).zipIdx.filter (·.1.2.isMapping)).attach.flatMap fun ⟨held, _⟩ =>
          (samples (recordNameFor held.1.1) held.1.2).map (·.below (.entry held.2)))
  | .unknown _ => []
termination_by node => sizeOf node
decreasing_by
  · simp only [Node.sequence.sizeOf_spec, List.cons.sizeOf_spec]
    omega
  all_goals
    have := sizeOf_value_lt (List.fst_mem_of_mem_zipIdx (List.mem_filter.1 ‹_›).1)
    simp only [Node.mapping.sizeOf_spec]
    omega

/-- The samples below the value of an entry at an index. -/
def entrySamples (entry : (String × Node) × Nat) : List Sample :=
  (samples (recordNameFor entry.1.1) entry.1.2).map (·.below (.entry entry.2))

/-- The samples of a mapping: below sequences, the mapping itself, below what its
entries hold. -/
theorem samples_mapping (name : String) {entries : Entries} (filled : entries ≠ []) :
    samples name (.mapping entries) =
      (entries.zipIdx.filter (·.1.2.isSequence)).flatMap entrySamples
        ++ { place := [], name, entries } ::
          (entries.zipIdx.filter (·.1.2.isMapping)).flatMap entrySamples := by
  cases entries with
  | nil => exact absurd rfl filled
  | cons entry rest =>
      rw [samples]
      simp only [List.flatMap_subtype, List.unattach_attach]
      rfl

theorem entrySamples_of_leaf {entry : (String × Node) × Nat}
    (plain : entry.1.2.isSequence = false) (leaf : entry.1.2.isMapping = false) :
    entrySamples entry = [] := by
  obtain ⟨⟨key, value⟩, index⟩ := entry
  cases value with
  | scalar => rw [entrySamples, samples]; rfl
  | sequence => cases plain
  | mapping => cases leaf
  | unknown => rw [entrySamples, samples]; rfl

/-- But for their order, the samples of a mapping are itself and those of all its
entries. -/
theorem samples_perm (name : String) {entries : Entries} (filled : entries ≠ []) :
    (samples name (.mapping entries)).Perm
      ({ place := [], name, entries } :: entries.zipIdx.flatMap entrySamples) := by
  have merged : ∀ places : List ((String × Node) × Nat),
      ((places.filter (·.1.2.isSequence)).flatMap entrySamples
        ++ (places.filter (·.1.2.isMapping)).flatMap entrySamples).Perm
        (places.flatMap entrySamples) := by
    intro places
    induction places with
    | nil => exact .refl _
    | cons entry rest ih =>
        rw [List.flatMap_cons, List.filter_cons, List.filter_cons]
        cases sequence : entry.1.2.isSequence with
        | true =>
            have plain : entry.1.2.isMapping = false := by
              cases held : entry.1.2 <;> simp_all [isSequence, isMapping]
            rw [if_pos rfl, plain, if_neg Bool.false_ne_true, List.flatMap_cons,
              List.append_assoc]
            exact ih.append_left _
        | false =>
            cases mapping : entry.1.2.isMapping with
            | true =>
                rw [if_neg Bool.false_ne_true, if_pos rfl, List.flatMap_cons]
                exact (List.perm_append_comm_assoc _ _ _).trans (ih.append_left _)
            | false =>
                rw [entrySamples_of_leaf sequence mapping]
                exact ih
  rw [samples_mapping name filled]
  exact List.perm_middle.trans ((merged _).cons _)

theorem mem_entrySamples {entries : Entries} {sample : Sample} :
    sample ∈ entries.zipIdx.flatMap entrySamples ↔
      ∃ index rest key value, sample.place = .entry index :: rest ∧
        entries[index]? = some (key, value) ∧
          { sample with place := rest } ∈ samples (recordNameFor key) value := by
  rw [List.mem_flatMap]
  constructor
  · rintro ⟨⟨⟨key, value⟩, index⟩, inside, found⟩
    obtain ⟨rest, here, below⟩ := Sample.mem_map_below.1 found
    exact ⟨index, rest, key, value, here, List.mem_zipIdx_iff_getElem?.1 inside, below⟩
  · rintro ⟨index, rest, key, value, here, inside, below⟩
    exact ⟨((key, value), index), List.mem_zipIdx_iff_getElem?.2 inside,
      Sample.mem_map_below.2 ⟨rest, here, below⟩⟩

/-- A value without samples, in which no step leads anywhere. -/
theorem mem_samples_iff_of_hollow {name : String} {node : Node} {sample : Sample}
    (silent : samples name node = [])
    (inner : ∀ step rest, at? name node (step :: rest) = none)
    (hollow : ∀ entries, node = .mapping entries → entries = []) :
    sample ∈ samples name node ↔
      sample.entries ≠ [] ∧
        at? name node sample.place = some (sample.name, .mapping sample.entries) := by
  rw [silent]
  refine ⟨fun none_inside => absurd none_inside List.not_mem_nil, ?_⟩
  rintro ⟨filled, reached⟩
  cases here : sample.place with
  | nil =>
      rw [here, at?] at reached
      exact absurd (hollow _ (Prod.mk.inj (Option.some.inj reached)).2) filled
  | cons step rest =>
      rw [here, inner step rest] at reached
      cases reached

/-- **The samples are the filled mappings at the places of the value.** -/
theorem mem_samples_iff {name : String} {node : Node} {sample : Sample} :
    sample ∈ samples name node ↔
      sample.entries ≠ [] ∧
        at? name node sample.place = some (sample.name, .mapping sample.entries) := by
  induction node using Node.induction generalizing name sample with
  | scalar =>
      refine mem_samples_iff_of_hollow (by rw [samples]) (fun step rest => ?_) (by simp)
      cases step <;> simp [at?]
  | unknown =>
      refine mem_samples_iff_of_hollow (by rw [samples]) (fun step rest => ?_) (by simp)
      cases step <;> simp [at?]
  | sequence items ih =>
      cases items with
      | nil =>
          refine mem_samples_iff_of_hollow (by rw [samples]) (fun step rest => ?_) (by simp)
          cases step <;> simp [at?]
      | cons first more =>
          rw [samples, Sample.mem_map_below]
          cases here : sample.place with
          | nil => simp [at?]
          | cons step rest =>
              cases step with
              | entry index => simp [at?]
              | first => simp [at?, ih first List.mem_cons_self]
  | mapping entries ih =>
      by_cases empty : entries = []
      · subst empty
        refine mem_samples_iff_of_hollow (by rw [samples]) (fun step rest => ?_) (by simp)
        cases step <;> simp [at?]
      rw [(samples_perm name empty).mem_iff, List.mem_cons, mem_entrySamples]
      obtain ⟨place, label, inner⟩ := sample
      cases place with
      | nil =>
          constructor
          · rintro (own | ⟨_, _, _, _, deeper, _⟩)
            · cases own
              exact ⟨empty, rfl⟩
            · cases deeper
          · rintro ⟨_, same⟩
            cases same
            exact .inl rfl
      | cons step rest =>
          cases step with
          | first => simp [at?]
          | entry index =>
              simp only [at?]
              constructor
              · rintro (own | ⟨_, _, key, value, deeper, found, below⟩)
                · cases own
                · cases deeper
                  rw [found]
                  exact (ih (key, value) (List.mem_of_getElem? found)).1 below
              · rintro ⟨filled, reached⟩
                cases found : entries[index]? with
                | none =>
                    rw [found] at reached
                    cases reached
                | some entry =>
                    obtain ⟨key, value⟩ := entry
                    rw [found] at reached
                    have below : { place := rest, name := label, entries := inner } ∈
                        samples (recordNameFor key) value :=
                      (ih (key, value) (List.mem_of_getElem? found)).2 ⟨filled, reached⟩
                    exact .inr ⟨index, rest, key, value, rfl, found, below⟩

theorem map_place_below (step : Step) (samples : List Sample) :
    (samples.map (·.below step)).map (·.place) = (samples.map (·.place)).map (step :: ·) := by
  rw [List.map_map, List.map_map]
  rfl

/-- No place is sampled twice. -/
theorem nodup_samples (name : String) (node : Node) :
    ((samples name node).map (·.place)).Nodup := by
  induction node using Node.induction generalizing name with
  | scalar => rw [samples]; exact List.nodup_nil
  | unknown => rw [samples]; exact List.nodup_nil
  | sequence items ih =>
      cases items with
      | nil => rw [samples]; exact List.nodup_nil
      | cons first rest =>
          rw [samples, map_place_below]
          exact (ih first List.mem_cons_self _).map List.cons_injective
  | mapping entries ih =>
      by_cases empty : entries = []
      · rw [empty, samples]
        exact List.nodup_nil
      rw [((samples_perm name empty).map _).nodup_iff, List.map_cons, List.nodup_cons,
        List.map_flatMap, List.nodup_flatMap]
      refine ⟨?_, ?_, ?_⟩
      · simp [entrySamples, Sample.below]
      · intro entry inside
        rw [entrySamples, map_place_below]
        have member := List.fst_mem_of_mem_zipIdx inside
        exact (ih entry.1 member _).map List.cons_injective
      · -- places below different entries differ in their first step
        refine (pairwise_zipIdx_ne entries).imp fun {left right} differ => ?_
        intro place inLeft inRight
        simp only [entrySamples, map_place_below] at inLeft inRight
        obtain ⟨_, _, rfl⟩ := List.mem_map.1 inLeft
        obtain ⟨_, _, same⟩ := List.mem_map.1 inRight
        exact differ (Step.entry.inj (List.cons.inj same).1).symm

/-! ## The writes of a visit are its samples -/

/-- The samples of a document's body, which must be a mapping. -/
def bodySamples (name : String) (node : Node) : List Sample :=
  if node.isMapping then samples name node else []

end Node

namespace Walk

theorem flatMap_entrySamples {options : Options} (entries : Entries) (kind : Node → Bool)
    (each : ∀ entry ∈ entries, ∀ name, writes options name entry.2 =
      (entry.2.samples name).map (·.record options)) :
    (entries.filter (kind ·.2)).flatMap
        (fun entry => writes options (recordNameFor entry.1) entry.2) =
      ((entries.zipIdx.filter (kind ·.1.2)).flatMap Node.entrySamples).map
        (·.record options) := by
  have indexed : entries.filter (kind ·.2) =
      (entries.zipIdx.filter (kind ·.1.2)).map Prod.fst := by
    conv_lhs => rw [← List.zipIdx_map_fst 0 entries, List.filter_map]
    rfl
  rw [indexed, List.flatMap_map, List.map_flatMap]
  apply List.flatMap_congr
  intro entry inside
  have member := List.fst_mem_of_mem_zipIdx (List.mem_filter.1 inside).1
  rw [each entry.1 member, Node.entrySamples, List.map_map]
  rfl

theorem writes_eq_samples (options : Options) (name : String) (node : Node) :
    writes options name node = (node.samples name).map (·.record options) := by
  induction node using Node.induction generalizing name with
  | scalar => rw [writes, Node.samples]; rfl
  | unknown => rw [writes, Node.samples]; rfl
  | sequence items ih =>
      cases items with
      | nil => rw [writes, Node.samples]; rfl
      | cons first rest =>
          rw [writes, Node.samples, List.map_map, ih first List.mem_cons_self]
          rfl
  | mapping entries ih =>
      by_cases empty : entries = []
      · rw [empty, writes, Node.samples]
        rfl
      rw [writes_mapping options name empty, Node.samples_mapping name empty, List.map_append,
        List.map_cons, flatMap_entrySamples entries Node.isSequence ih,
        flatMap_entrySamples entries Node.isMapping ih, Sample.record_eq]

theorem bodyWrites_eq_samples (options : Options) (name : String) (node : Node) :
    bodyWrites options name node = (node.bodySamples name).map (·.record options) := by
  rw [bodyWrites, Node.bodySamples]
  split
  · exact writes_eq_samples options name node
  · rfl

end Walk

/-! ## Runs -/

namespace Generation

/-- The samples of all documents, in order, each with the index of its document. -/
def samples (documents : List Node) : List (Nat × Sample) :=
  documents.zipIdx.flatMap fun (body, index) =>
    (body.bodySamples (Walk.rootName index documents.length body)).map (index, ·)

/-- At the place in the document stands a filled mapping, and its record has that
name; the body of the document is a mapping. -/
def IsSampled (documents : List Node) (index : Nat) (sample : Sample) : Prop :=
  sample.entries ≠ [] ∧ ∃ body, documents[index]? = some body ∧ body.isMapping = true ∧
    body.at? (Walk.rootName index documents.length body) sample.place =
      some (sample.name, .mapping sample.entries)

theorem mem_samples_run {documents : List Node} {index : Nat} {sample : Sample} :
    (index, sample) ∈ samples documents ↔ IsSampled documents index sample := by
  rw [samples, List.mem_flatMap]
  constructor
  · rintro ⟨⟨body, index⟩, here, inside⟩
    obtain ⟨_, inside, same⟩ := List.mem_map.1 inside
    cases same
    simp only [Node.bodySamples] at inside
    split at inside
    · next mapping =>
      obtain ⟨filled, reached⟩ := Node.mem_samples_iff.1 inside
      exact ⟨filled, body, List.mem_zipIdx_iff_getElem?.1 here, mapping, reached⟩
    · cases inside
  · rintro ⟨filled, body, here, mapping, reached⟩
    refine ⟨(body, index), List.mem_zipIdx_iff_getElem?.2 here, List.mem_map_of_mem ?_⟩
    rw [Node.bodySamples, if_pos mapping]
    exact Node.mem_samples_iff.2 ⟨filled, reached⟩

theorem nodup_samples_run (documents : List Node) :
    ((samples documents).map fun (index, sample) => (index, sample.place)).Nodup := by
  rw [samples, List.map_flatMap, List.nodup_flatMap]
  constructor
  · rintro ⟨body, index⟩ -
    have places : ((body.bodySamples (Walk.rootName index documents.length body)).map
        (·.place)).Nodup := by
      rw [Node.bodySamples]
      split
      · exact Node.nodup_samples _ body
      · exact List.nodup_nil
    rw [List.map_map]
    have tagged : Function.Injective fun place : Place => (index, place) :=
      fun _ _ same => (Prod.mk.inj same).2
    have numbered := places.map tagged
    rwa [List.map_map] at numbered
  · refine (pairwise_zipIdx_ne documents).imp fun {left right} differ => ?_
    intro place inLeft inRight
    simp only [List.map_map, List.mem_map] at inLeft inRight
    obtain ⟨_, _, rfl⟩ := inLeft
    obtain ⟨_, _, same⟩ := inRight
    exact differ (Prod.mk.inj same).1.symm

/-- A run writes one record for each sample, in order. -/
theorem writes_eq_samples (options : Options) (documents : List Node) :
    writes options documents = (samples documents).map (·.2.record options) := by
  have numbered : documents.zip (rootNamesOf documents) = documents.zipIdx.map fun (body, index) =>
      (body, Walk.rootName index documents.length body) := by
    conv_lhs =>
      rw [rootNamesOf, List.mapIdx_eq_zipIdx_map]
      arg 1
      rw [← List.zipIdx_map_fst 0 documents]
    rw [List.zip_map']
  rw [writes, numbered, List.flatMap_map, samples, List.map_flatMap]
  apply List.flatMap_congr
  rintro ⟨body, index⟩ -
  show Walk.bodyWrites options (Walk.rootName index documents.length body) body = _
  rw [Walk.bodyWrites_eq_samples, List.map_map]
  rfl

end Generation

/-- **A run is its samples.**  The samples of the documents are the sampled
mappings, each once; a run writes one record for each of them, in their order, to
whatever store; so under every name the record of its last sample stands, no other
name is registered, and the names come in order of their first samples. -/
theorem run_writes_samples (documents : List Node) (options : Options) :
    ((Generation.samples documents).map fun (index, sample) => (index, sample.place)).Nodup ∧
    (∀ index sample, (index, sample) ∈ Generation.samples documents ↔
      Generation.IsSampled documents index sample) ∧
    (Generation.run documents options).registry =
      Generation.visitAll OrderedMap.put options documents .empty ∧
    (∀ {σ : Type} (put : σ → String → Record → σ) (store : σ),
      Generation.visitAll put options documents store =
        (Generation.samples documents).foldl
          (fun store (_, sample) => put store sample.name (sample.record options)) store) ∧
    (∀ name, (Generation.run documents options).registry.get? name =
      (((Generation.samples documents).filter (·.2.name = name)).getLast?).map
        (·.2.record options)) ∧
    (∀ name, (Generation.run documents options).registry.get? name = none ↔
      ∀ sample ∈ Generation.samples documents, sample.2.name ≠ name) ∧
    (Generation.run documents options).registry.keys =
      ((Generation.samples documents).map (·.2.name)).eraseDups := by
  have last : ∀ name, (Generation.run documents options).registry.get? name =
      (((Generation.samples documents).filter (·.2.name = name)).getLast?).map
        (·.2.record options) := by
    intro name
    rw [Generation.get?_run, Generation.writes_eq_samples, Registry.lastNamed, List.filter_map,
      List.getLast?_map]
    rfl
  refine ⟨Generation.nodup_samples_run documents, fun _ _ => Generation.mem_samples_run, rfl,
    ?_, last, ?_, ?_⟩
  · intro _ put store
    rw [Generation.visitAll_eq, Generation.writes_eq_samples, putEach, List.foldl_map]
    rfl
  · intro name
    rw [last, Option.map_eq_none_iff, List.getLast?_eq_none_iff, List.filter_eq_nil_iff]
    simp only [decide_eq_true_eq, ne_eq]
  · rw [Generation.keys_run, Generation.writes_eq_samples, List.map_map]
    rfl

end YamlShape
