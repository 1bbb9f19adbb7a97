/-
# YamlShape.Yaml.Tree -- the nodes of one document

The events of a document make a tree.  Aliases stay as they are: an alias holds
the number of an anchor, and the document says which node that number belongs
to.  An anchor's number is the count of the names known before it, so a name
that is stated again gets a fresh number, which a later name may take over; the
last node with a number has it.

A document that ends in an error keeps what was read.  Where it breaks off
stands `missing`, so that an error in a value before that place can still come
first.
-/
import YamlShape.Yaml.Event
import YamlShape.Yaml.Token.Stream

namespace YamlShape.Yaml

set_option autoImplicit false

/-! ## Trees -/

/-- A node of a document.  The parts of a mapping are keys and values in turn. -/
inductive Tree where
  | scalar (tag : Option TagBytes) (text : String) (plain : Bool) (mark : Mark)
  | sequence (tag : Option TagBytes) (items : List Tree) (mark : Mark)
  | mapping (tag : Option TagBytes) (parts : List Tree) (mark : Mark)
  | alias (anchor : Nat) (mark : Mark)
  | missing

inductive Break where
  | malformed (error : SyntaxError)
  | unknownAnchor (mark : Mark)

/-- A document: its root, the nodes that anchors stand for, the number of its
events, and the error that ended it, if one did. -/
structure Document where
  root : Tree
  anchored : List (Nat × Tree) := []
  size : Nat
  failure : Option Break := none

/-! ## Reading events -/

/-- A collection whose end has not come: its parts so far, the last first. -/
structure Open where
  isMapping : Bool
  tag : Option TagBytes
  place : Nat
  parts : List Tree := []
  mark : Mark

/-- A document that is being read.  A node's `place` is the number of events
before it; `owners` holds the place of the last node with an anchor's number,
`nodes` the anchored nodes by place. -/
structure Assembly where
  root : Option Tree := none
  collections : List Open := []
  names : List (String × Nat) := []
  owners : List (Nat × Nat) := []
  anchoredPlaces : List Nat := []
  nodes : List (Nat × Tree) := []
  size : Nat := 0

namespace Assembly

def addAnchor (assembly : Assembly) : Option String → Assembly
  | none => assembly
  | some name =>
    let number := assembly.names.length
    -- from here on a name that was given before stands for the later node
    let others := assembly.names.filter (·.1 ≠ name)
    { assembly with
      names := (name, number) :: others
      owners := (number, assembly.size) :: assembly.owners
      anchoredPlaces := assembly.size :: assembly.anchoredPlaces }

/-- Adds a node that is complete, and that stands at a place. -/
def complete (assembly : Assembly) (place : Nat) (tree : Tree) : Assembly :=
  let assembly :=
    if place ∈ assembly.anchoredPlaces then
      { assembly with nodes := (place, tree) :: assembly.nodes }
    else assembly
  match assembly.collections with
  | [] => { assembly with root := some tree }
  | innermost :: others =>
    let grown := { innermost with parts := tree :: innermost.parts }
    { assembly with collections := grown :: others }

def Open.tree (collection : Open) : Tree :=
  let parts := collection.parts.reverse
  if collection.isMapping then .mapping collection.tag parts collection.mark
  else .sequence collection.tag parts collection.mark

def closeInnermost (assembly : Assembly) : Assembly :=
  match assembly.collections with
  | [] => assembly
  | innermost :: others =>
    { assembly with collections := others }.complete innermost.place (Open.tree innermost)

def count (assembly : Assembly) : Assembly :=
  { assembly with size := assembly.size + 1 }

def opened (assembly : Assembly) (isMapping : Bool) (properties : Properties) (mark : Mark) :
    Assembly :=
  let place := assembly.size
  let collection := { isMapping, tag := properties.tag, place, mark }
  let anchored := assembly.addAnchor properties.anchor
  { anchored with collections := collection :: assembly.collections }.count

def isUnfinished (assembly : Assembly) : Bool :=
  !assembly.collections.isEmpty || assembly.root.isNone

/-- Breaks off: the node that would come next is missing, and every collection ends. -/
def brokenOff (assembly : Assembly) : Assembly :=
  let cut := assembly.complete assembly.size .missing
  cut.collections.foldl (fun assembly _ => closeInnermost assembly) cut

def document (assembly : Assembly) (failure : Option Break) : Document :=
  let assembly :=
    if failure.isSome && assembly.isUnfinished then assembly.brokenOff else assembly
  let anchored := assembly.owners.filterMap fun (number, place) =>
    (assembly.nodes.lookup place).map (number, ·)
  { root := assembly.root.getD .missing, anchored, size := assembly.size, failure }

/-- Adds an event: the document goes on, or it is at its end. -/
def add (assembly : Assembly) (event : Event) (mark : Mark) : Assembly ⊕ Document :=
  match event with
  | .documentStart => .inl assembly
  | .documentEnd | .streamEnd => .inr (assembly.document none)
  | .alias name =>
    match assembly.names.lookup name with
    | none => .inr (assembly.document (some (.unknownAnchor mark)))
    | some number => .inl (assembly.complete assembly.size (.alias number mark)).count
  | .scalar properties text plain =>
    let place := assembly.size
    let anchored := assembly.addAnchor properties.anchor
    .inl (anchored.complete place (.scalar properties.tag text plain mark)).count
  | .sequenceStart properties => .inl (assembly.opened false properties mark)
  | .mappingStart properties => .inl (assembly.opened true properties mark)
  | .sequenceEnd | .mappingEnd => .inl assembly.closeInnermost.count

end Assembly

/-! ## Documents of a text -/

def Document.empty (mark : Mark) : Document :=
  { root := .scalar none "" true mark, size := 1 }

/-- The documents of events that may have ended in an error. -/
def documentsOf (failure : Option SyntaxError) :
    Assembly → List (Event × Mark) → List Document
  | assembly, [] =>
    match failure with
    | some error => [assembly.document (some (.malformed error))]
    | none => []
  | assembly, (event, mark) :: rest =>
    match event with
    | .streamEnd => []
    | _ =>
      match assembly.add event mark with
      | .inl assembly => documentsOf failure assembly rest
      | .inr document => document :: documentsOf failure {} rest

/-- The documents of a text, in order.  A text without documents has one, which
is null; behind a document that breaks off nothing counts. -/
def documents (text : List Char) : List Document :=
  let (tokens, tokenFailure) := tokens text
  let (events, failure) := events tokens tokenFailure
  match events with
  | [(.streamEnd, mark)] => [.empty mark]
  | _ => documentsOf failure {} events

end YamlShape.Yaml
