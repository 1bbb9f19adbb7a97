/-
# YamlShape.Proofs.SchemasByPath -- the schemas of several files

A request for the schema runs over every file on its own and then collects what it got
by the texts that the paths are shown by.  Three things could go wrong there: a path that
is given twice is written twice, the later value in the place of the earlier; how many
files there are is asked of the collection and not of the request; and the schema of a
single file is handed over without its path.

None of them loses or mixes up a file.  Under a text stands the schema of the last path
that it shows (`get?_collected`), and texts that tell the paths apart show only one
(`Sources.TellsApart.last?_shown`).  So it is with paths that are texts, and a file named in
two ways has two entries.  Of two paths that are none and are shown alike only the later has
its schema in the collection.
-/
import YamlShape.Proofs.Delivery
import YamlShape.Proofs.Registry
import YamlShape.Proofs.Steps

namespace YamlShape.Command

set_option autoImplicit false

open Files

variable {π : Type} {sources : Sources π} {request : Request} {paths : List π}
  {documents : π → List Node} {options : Options}

/-! ## Paths and their texts -/

/-- No two of some paths are shown by one text. -/
def Sources.TellsApart (sources : Sources π) (paths : List π) : Prop :=
  ∀ path ∈ paths, ∀ other ∈ paths, sources.shown path = sources.shown other → path = other

/-- The last path that is shown by a text. -/
def Sources.last? (sources : Sources π) (paths : List π) (text : String) : Option π :=
  (paths.filter (sources.shown · = text)).getLast?

theorem Sources.mem_of_last? {text : String} {path : π}
    (last : sources.last? paths text = some path) :
    path ∈ paths ∧ sources.shown path = text := by
  simpa using List.mem_filter.1 (List.mem_of_getLast? last)

theorem Sources.TellsApart.last?_shown (told : sources.TellsApart paths) {path : π}
    (inside : path ∈ paths) : sources.last? paths (sources.shown path) = some path := by
  cases found : sources.last? paths (sources.shown path) with
  | none =>
      have nothing := List.filter_eq_nil_iff.1 (List.getLast?_eq_none_iff.1 found) path inside
      exact absurd (decide_eq_true rfl) nothing
  | some other =>
      obtain ⟨held, same⟩ := Sources.mem_of_last? found
      rw [told other held path inside same]

theorem Sources.tellsApart_singleton (sources : Sources π) (path : π) :
    sources.TellsApart [path] := by
  intro first listed second held _
  rw [List.mem_singleton.1 listed, List.mem_singleton.1 held]

/-! ## Loading -/

/-- Files that can be loaded one by one are loaded in the order of their paths. -/
theorem loadAll_of_loaded (resolved : sources.resolve request.inputs = .ok paths)
    (loaded : ∀ path ∈ paths, sources.load path = .ok (documents path)) :
    sources.loadAll request.inputs =
      .ok (paths.map fun path => ⟨sources.shown path, documents path⟩) := by
  rw [Sources.loadAll, resolved]
  refine mapM_eq_ok fun path inside => ?_
  rw [loaded path inside]
  rfl

/-! ## Collecting -/

/-- What is collected of some paths: under their texts the schemas of their files. -/
def collected (sources : Sources π) (documents : π → List Node) (options : Options)
    (paths : List π) : OrderedMap Json :=
  OrderedMap.ofList (paths.map fun path =>
    (sources.shown path, (Generation.run (documents path) options).schema))

theorem keys_collected : (collected sources documents options paths).keys =
    (paths.map sources.shown).eraseDups := by
  rw [collected, OrderedMap.keys_ofList, List.map_map]
  rfl

theorem get?_collected (text : String) :
    (collected sources documents options paths).get? text =
      (sources.last? paths text).map fun path =>
        (Generation.run (documents path) options).schema := by
  rw [collected, OrderedMap.get?_ofList, List.filter_map, List.getLast?_map, Option.map_map]
  rfl

theorem mem_collected {text : String} {path : π} (last : sources.last? paths text = some path) :
    (text, (Generation.run (documents path) options).schema) ∈
      (collected sources documents options paths).entries := by
  have found : (collected sources documents options paths).entries.lookup text =
      some (Generation.run (documents path) options).schema := by
    rw [← OrderedMap.get?, get?_collected, last]
    rfl
  obtain ⟨front, behind, parts, _⟩ := List.lookup_eq_some_iff.1 found
  rw [parts]
  exact List.mem_append_right front List.mem_cons_self

/-- One text is left without repetitions just where all texts are the same. -/
theorem eraseDups_eq_singleton_iff {texts : List String} (filled : texts ≠ []) {text : String} :
    texts.eraseDups = [text] ↔ ∀ other ∈ texts, other = text := by
  have members : ∀ other, other ∈ texts.eraseDups ↔ other ∈ texts :=
    fun _ => List.mem_eraseDups
  constructor
  · intro single other inside
    rw [← members, single, List.mem_singleton] at inside
    exact inside
  · intro same
    obtain ⟨first, rest, rfl⟩ := List.exists_cons_of_ne_nil filled
    obtain ⟨rfl, others⟩ := List.forall_mem_cons.1 same
    have none_left : rest.filter (fun other => !other == first) = [] := by
      rw [List.filter_eq_nil_iff]
      intro other inside
      simp [others other inside]
    rw [List.eraseDups_cons, none_left, List.eraseDups_nil]

/-! ## The view of a collection -/

theorem schemas_eq_collected :
    (OrderedMap.ofList ((paths.map fun path =>
      (⟨sources.shown path, documents path⟩ : Input)).map fun input =>
        (input.path, (Generation.run input.documents options).schema))) =
      collected sources documents options paths := by
  rw [List.map_map]
  rfl

theorem schemaView_of_same {text : String} {path : π}
    (same : ∀ other ∈ paths, sources.shown other = text)
    (last : sources.last? paths text = some path) :
    schemaView options (paths.map fun path => ⟨sources.shown path, documents path⟩) =
      (Generation.run (documents path) options).schema := by
  have filled : paths.map sources.shown ≠ [] :=
    List.ne_nil_of_mem (List.mem_map_of_mem (Sources.mem_of_last? last).1)
  have keys : (collected sources documents options paths).keys = [text] := by
    rw [keys_collected, eraseDups_eq_singleton_iff filled]
    exact List.forall_mem_map.2 same
  obtain ⟨entry, single, _⟩ := List.map_eq_singleton_iff.1 keys
  have own := @mem_collected π sources paths documents options text path last
  rw [single, List.mem_singleton] at own
  rw [schemaView, schemas_eq_collected, single, ← own]

theorem schemaView_of_several (documents : π → List Node) (options : Options)
    (several : ∀ path ∈ paths, ∃ other ∈ paths, sources.shown other ≠ sources.shown path)
    (filled : paths ≠ []) :
    schemaView options (paths.map fun path => ⟨sources.shown path, documents path⟩) =
      .object (collected sources documents options paths).entries := by
  rw [schemaView, schemas_eq_collected]
  split
  · next text schema single =>
    -- a single entry would be that of the only text
    have keys : (collected sources documents options paths).keys = [text] := by
      rw [OrderedMap.keys, single]
      rfl
    rw [keys_collected, eraseDups_eq_singleton_iff (by simpa using filled)] at keys
    obtain ⟨path, inside⟩ := List.exists_mem_of_ne_nil paths filled
    obtain ⟨other, held, apart⟩ := several path inside
    exact absurd ((keys _ (List.mem_map_of_mem held)).trans
      (keys _ (List.mem_map_of_mem inside)).symm) apart
  · rfl

/-- A request for the schema delivers what it collected. -/
theorem delivered_schemaView (files : FileSystem) (asked : request.product = .schema)
    (live : request.noOp = false) (resolved : sources.resolve request.inputs = .ok paths)
    (loaded : ∀ path ∈ paths, sources.load path = .ok (documents path)) :
    (request.runFrom sources files).exit.Delivered files request.out
      ((schemaView request.options
        (paths.map fun path => ⟨sources.shown path, documents path⟩)).pretty ++ "\n") := by
  rw [Request.runFrom_of_loaded live (loadAll_of_loaded resolved loaded), asked]
  exact delivered_deliver files request.out _

/-- **The schemas of several files are neither lost nor mixed up.**  Let the inputs of a
request for the schema resolve to paths whose files can all be loaded.  If all paths are
the same text, what is delivered is the schema of the last one's file.  Otherwise it is an
object: its keys are the distinct texts in the order in which they first came, and under
each of them is the schema of the file of the last path that it shows.  Texts that tell the
paths apart show a single path each, so this is the schema of every path's file.  It is
also what a request for this path alone delivers, whatever the other files are and however
often a path is repeated. -/
theorem schemas_of_paths {π : Type} {sources : Sources π} {files : FileSystem}
    {request : Request} {paths : List π} {documents : π → List Node}
    (asked : request.product = .schema) (live : request.noOp = false)
    (resolved : sources.resolve request.inputs = .ok paths) (filled : paths ≠ [])
    (loaded : ∀ path ∈ paths, sources.load path = .ok (documents path)) :
    (∀ text path, (∀ other ∈ paths, sources.shown other = text) →
      sources.last? paths text = some path →
      (request.runFrom sources files).exit.Delivered files request.out
        ((Generation.run (documents path) request.options).schema.pretty ++ "\n")) ∧
    ((∀ path ∈ paths, ∃ other ∈ paths, sources.shown other ≠ sources.shown path) →
      ∃ entries, (request.runFrom sources files).exit.Delivered files request.out
          ((Json.object entries).pretty ++ "\n") ∧
        entries.map Prod.fst = (paths.map sources.shown).eraseDups ∧
        ∀ text path, sources.last? paths text = some path →
          (text, (Generation.run (documents path) request.options).schema) ∈ entries) ∧
    (sources.TellsApart paths →
      ∀ path ∈ paths, sources.last? paths (sources.shown path) = some path) ∧
    ∀ path ∈ paths, ∀ alone : Request, alone.product = .schema → alone.noOp = false →
      alone.options = request.options → sources.resolve alone.inputs = .ok [path] →
        (alone.runFrom sources files).exit.Delivered files alone.out
          ((Generation.run (documents path) request.options).schema.pretty ++ "\n") := by
  refine ⟨?_, ?_, fun told path inside => told.last?_shown inside, ?_⟩
  · intro text path same last
    have delivered := delivered_schemaView files asked live resolved loaded
    rwa [schemaView_of_same same last] at delivered
  · intro several
    have delivered := delivered_schemaView files asked live resolved loaded
    rw [schemaView_of_several documents request.options several filled] at delivered
    exact ⟨_, delivered, keys_collected, fun text path => mem_collected⟩
  · intro path inside alone single running policy found
    have own : ∀ other ∈ [path], sources.load other = .ok (documents other) := by
      rw [List.forall_mem_singleton]
      exact loaded path inside
    have last := (sources.tellsApart_singleton path).last?_shown (List.mem_singleton_self path)
    have delivered := delivered_schemaView files single running found own
    rwa [schemaView_of_same (List.forall_mem_singleton.2 rfl) last, policy] at delivered

/-- One file under two names, of which the first is given twice, has two entries. -/
theorem schemas_of_one_file_named_twice :
    ∃ entries, execute oneFile ["schema", "-i", "a.yaml", "./a.yaml", "a.yaml"] =
        { files := oneFile, output := (Json.object entries).pretty ++ "\n" } ∧
      entries.map Prod.fst = ["a.yaml", "./a.yaml"] ∧
      ∀ path ∈ ["a.yaml", "./a.yaml"], ∃ documents, load oneFile path = .ok documents ∧
        (path, (Generation.run documents {}).schema) ∈ entries := by
  let request : Request := { product := .schema, inputs := ["a.yaml", "./a.yaml", "a.yaml"] }
  have accepted : Request.read ["schema", "-i", "a.yaml", "./a.yaml", "a.yaml"] =
      .ok request := rfl
  have resolved : (sourcesIn oneFile).resolve request.inputs =
      .ok ["a.yaml", "./a.yaml", "a.yaml"] := rfl
  have readable : ∀ path ∈ ["a.yaml", "./a.yaml", "a.yaml"],
      (load oneFile path).toBool = true := by decide +kernel
  have loaded : ∀ path ∈ ["a.yaml", "./a.yaml", "a.yaml"], (sourcesIn oneFile).load path =
      .ok ((load oneFile path).toOption.getD []) :=
    fun path listed => eq_ok_of_toBool (readable path listed) []
  have told : (sourcesIn oneFile).TellsApart ["a.yaml", "./a.yaml", "a.yaml"] :=
    fun _ _ _ _ same => same
  have asked : request.product = .schema := rfl
  obtain ⟨_, several, shown, _⟩ :=
    schemas_of_paths asked rfl resolved (List.cons_ne_nil _ _) loaded
  obtain ⟨entries, delivered, keys, own⟩ := several (by decide)
  refine ⟨entries, ?_, keys, ?_⟩
  · rw [execute_of_accepted accepted]
    exact delivered.printed rfl
  · intro path listed
    have inside : path ∈ ["a.yaml", "./a.yaml", "a.yaml"] :=
      List.mem_append_left ["a.yaml"] listed
    exact ⟨_, loaded path inside, own path path (shown told path inside)⟩

end YamlShape.Command
