/-
# YamlShape.Generation -- one run over the documents of an input

The documents of one input share one registry and are visited in order.  A run
keeps the root name of every document, also of those that register nothing.

A run has two outputs: `render`, its Go source, and `schema`, a JSON view of the
same records in the same order.
-/
import YamlShape.GoSource
import YamlShape.Json

namespace YamlShape

set_option autoImplicit false

/-- The outcome of a run. -/
structure Generation where
  registry : Registry
  rootNames : List String
  options : Options

/-! ## The JSON view -/

/-- A type as a kind, with what it is made of where it is made of something. -/
def TypeExpr.toJson : TypeExpr → Json
  | .scalar name => .object [("kind", .string "scalar"), ("of", .string name)]
  | .optional inner => .object [("kind", .string "optional"), ("of", inner.toJson)]
  | .slice element => .object [("kind", .string "slice"), ("of", element.toJson)]
  | .recordRef name => .object [("kind", .string "record_ref"), ("of", .string name)]
  | .genericMap => .object [("kind", .string "generic_map")]
  | .any => .object [("kind", .string "any")]

/-- A field; flags are left out when there are none. -/
def Field.toJson (field : Field) : Json :=
  .object
    ([("source_key", .string field.sourceKey), ("ty", field.type.toJson),
      ("omit", .bool field.omitEmpty)]
      ++ if field.flags.isEmpty then [] else [("flags", .array (field.flags.map .string))])

def Record.toJson (record : Record) : Json :=
  .object [("fields", .array (record.fields.map Field.toJson))]

namespace Generation

/-! ## Runs -/

def rootNamesOf (documents : List Node) : List String :=
  documents.mapIdx fun index body => Walk.rootName index documents.length body

/-- Visits the documents in order, each under its root name. -/
def visitAll {σ : Type} (put : σ → String → Record → σ) (options : Options)
    (documents : List Node) (store : σ) : σ :=
  (documents.zip (rootNamesOf documents)).foldl
    (fun store (body, root) => Walk.visitNode put options root [] store body) store

def registryOf (options : Options) (documents : List Node) : Registry :=
  visitAll OrderedMap.put options documents .empty

def run (documents : List Node) (options : Options) : Generation where
  registry := registryOf options documents
  rootNames := rootNamesOf documents
  options := options

/-! ## Outputs -/

def orderedRecords (generation : Generation) : List Record :=
  generation.registry.emissionOrder generation.rootNames

def render (generation : Generation) : String :=
  generation.registry.render generation.rootNames generation.options.tagKey

/-- The root names that are registered. -/
def presentRoots (generation : Generation) : List String :=
  generation.rootNames.filter generation.registry.contains

/-- The JSON view of a run.  Records are keyed by their own names; of two with
one name the later stands, at the place of the earlier. -/
def schema (generation : Generation) : Json :=
  let records := OrderedMap.ofList
    (generation.orderedRecords.map fun record => (record.name, record.toJson))
  .object
    [("roots", .array (generation.presentRoots.map .string)),
      ("records", .object records.entries)]

end Generation

end YamlShape
