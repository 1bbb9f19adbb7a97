/-
# YamlShape.Yaml.Event -- the grammar of a text

The tokens of a text make a sequence of events: documents start and end, and in
between nodes come as scalars, aliases, and collections that start and end.  A
mapping alternates keys and values; where one is not written, an empty scalar
stands for it.

The grammar is a machine with a stack.  An `Expectation` says what has to come
next; the stack holds what has to come after that.  Every step makes one event.

`events` yields all events of a text, or those before the first error.
-/
import YamlShape.Text.Bytes
import YamlShape.Yaml.SyntaxError
import YamlShape.Yaml.Token

namespace YamlShape.Yaml

set_option autoImplicit false

/-! ## Events -/

/-- What is said of a node before its content. -/
structure Properties where
  anchor : Option String := none
  tag : Option TagBytes := none

inductive Event where
  | documentStart
  | documentEnd
  | streamEnd
  | alias (name : String)
  | scalar (properties : Properties) (text : String) (plain : Bool)
  | sequenceStart (properties : Properties)
  | sequenceEnd
  | mappingStart (properties : Properties)
  | mappingEnd

/-! ## The machine -/

/-- What comes next.  Collections carry the place where they opened; `first`
holds before the first entry between brackets. -/
inductive Expectation where
  | firstDocument
  | nextDocument
  | documentContent
  | documentEnd
  | blockNode
  | sequenceEntry (opened : Mark)
  | bareSequenceEntry
  | mappingKey (opened : Mark)
  | mappingValue (opened : Mark)
  | flowSequenceEntry (opened : Mark) (first : Bool)
  | pairKey (opened : Mark)
  | pairValue (opened : Mark)
  | pairEnd (opened : Mark)
  | flowMappingKey (opened : Mark) (first : Bool)
  | flowMappingValue (opened : Mark)
  | flowMappingNoValue (opened : Mark)
  | nothing

/-- The tokens to come, the error behind them, what is expected, and the
expansions of tag handles in this document. -/
structure Grammar where
  tokens : List Token
  failure : Option SyntaxError
  stack : List Expectation := [.firstDocument]
  handles : List (String × TagBytes) := []

namespace Grammar

/-- One step: an event, its place, and the machine behind it. -/
abbrev Step := Except SyntaxError (Event × Mark × Grammar)

/-- The next token.  Behind the last one stands the error that ended them. -/
def peek (grammar : Grammar) : Except SyntaxError Token :=
  match grammar.tokens, grammar.failure with
  | token :: _, _ => .ok token
  | [], some error => .error error
  | [], none => .error { problem := .endOfStream, mark := {} }

def skip (grammar : Grammar) : Grammar :=
  { grammar with tokens := grammar.tokens.tail }

def expect (grammar : Grammar) (expectation : Expectation) : Grammar :=
  { grammar with stack := expectation :: grammar.stack }

def problem {α : Type} (problem : Problem) (token : Token) (construct : Construct)
    (start : Mark) : Except SyntaxError α :=
  .error { problem, mark := token.start, within := some (construct, start) }

def emptyScalar (grammar : Grammar) (mark : Mark) : Step :=
  .ok (.scalar {} "" true, mark, grammar)

/-! ## Nodes -/

def isOneOf (token : Token) (words : List Word) : Bool :=
  words.contains token.word

/-- An anchor and a tag, in either order, with the place of the tag. -/
def properties (grammar : Grammar) :
    Except SyntaxError (Option String × Option (String × TagBytes × Mark) × Grammar) := do
  let first ← grammar.peek
  match first.word with
  | .anchor name =>
    let second ← grammar.skip.peek
    match second.word with
    | .tag handle suffix =>
      return (some name, some (handle, suffix, second.start), grammar.skip.skip)
    | _ => return (some name, none, grammar.skip)
  | .tag handle suffix =>
    let second ← grammar.skip.peek
    match second.word with
    | .anchor name =>
      return (some name, some (handle, suffix, first.start), grammar.skip.skip)
    | _ => return (none, some (handle, suffix, first.start), grammar.skip)
  | _ => return (none, none, grammar)

def expandTag (grammar : Grammar) (start : Mark) :
    Option (String × TagBytes × Mark) → Except SyntaxError (Option TagBytes)
  | none => .ok none
  | some (handle, suffix, mark) =>
    if handle.isEmpty then .ok (some suffix)
    else match grammar.handles.lookup handle with
      | some expansion => .ok (some (expansion ++ suffix))
      | none =>
        .error { problem := .undefinedTagHandle, mark, within := some (.node, start) }

/-- Reads a node.  Block collections are only allowed outside brackets, and a
sequence without indentation only inside a block mapping. -/
def node (grammar : Grammar) (block bareSequence : Bool) : Step := do
  let first ← grammar.peek
  match first.word with
  | .alias name => return (.alias name, first.start, grammar.skip)
  | _ =>
    let start := first.start
    let (anchor, written, grammar) ← grammar.properties
    let token ← grammar.peek
    let tag ← grammar.expandTag start written
    let collection (event : Properties → Event) (expectation : Expectation) : Step :=
      .ok (event { anchor, tag }, start, grammar.skip.expect expectation)
    match token.word, block with
    | .scalar text plain, _ =>
      return (.scalar { anchor, tag } text plain, start, grammar.skip)
    | .flowSequenceStart, _ =>
      collection .sequenceStart (.flowSequenceEntry token.start true)
    | .flowMappingStart, _ => collection .mappingStart (.flowMappingKey token.start true)
    | .blockSequenceStart, true => collection .sequenceStart (.sequenceEntry token.start)
    | .blockMappingStart, true => collection .mappingStart (.mappingKey token.start)
    | word, _ =>
      if bareSequence ∧ word = .blockEntry then
        return (.sequenceStart { anchor, tag }, start, grammar.expect .bareSequenceEntry)
      else if anchor.isSome ∨ tag.isSome then
        -- what has properties is there, though nothing is written of it
        return (.scalar { anchor, tag } "" true, start, grammar)
      else
        problem .missingNodeContent token (if block then .blockNode else .flowNode) start

/-- Reads a node, unless one of the words stands here in its place; then the node
is an empty scalar at `mark`. -/
def nodeUnless (grammar : Grammar) (words : List Word) (mark : Mark)
    (block bareSequence : Bool) : Step := do
  if isOneOf (← grammar.peek) words then grammar.emptyScalar mark
  else grammar.node block bareSequence

def close (grammar : Grammar) (event : Event) : Step := do
  return (event, (← grammar.peek).start, grammar.skip)

/-! ## Documents -/

def directives (versioned : Bool) (handles : List (String × TagBytes)) :
    List Token → Except SyntaxError (List (String × TagBytes) × List Token)
  | [] => .ok (handles, [])
  | token :: rest =>
    match token.word with
    | .versionDirective major minor =>
      if versioned then .error { problem := .duplicateVersion, mark := token.start }
      else if major = 1 ∧ (minor = 1 ∨ minor = 2) then directives true handles rest
      else .error { problem := .incompatibleVersion, mark := token.start }
    | .tagDirective handle expansion =>
      if (handles.lookup handle).isSome then
        .error { problem := .duplicateTagHandle, mark := token.start }
      else directives versioned (handles ++ [(handle, expansion)]) rest
    | _ => .ok (handles, token :: rest)

/-- The handles that a document has unless it states them otherwise. -/
def defaultHandles : List (String × TagBytes) :=
  [("!", [0x21]), ("!!", Text.bytes "tag:yaml.org,2002:")]

/-- Starts a document, with `---` and directives before it unless it is the first. -/
def document (grammar : Grammar) (first : Bool) : Step := do
  let grammar :=
    if first then grammar
    -- the ends of several documents in a row make no documents between them
    else { grammar with tokens := grammar.tokens.dropWhile (·.word = .documentEnd) }
  let token ← grammar.peek
  let explicit := match token.word with
    | .versionDirective _ _ | .tagDirective _ _ | .documentStart => true
    | _ => false
  if token.word = .streamEnd then
    return (.streamEnd, token.start, { grammar with tokens := [], stack := [.nothing] })
  else if first ∧ !explicit then
    let grammar := { grammar with handles := defaultHandles }
    return (.documentStart, token.start, (grammar.expect .documentEnd).expect .blockNode)
  else
    let (stated, tokens) ← directives false [] grammar.tokens
    let grammar := { grammar with tokens, handles := stated ++ defaultHandles }
    let marker ← grammar.peek
    if marker.word = .documentStart then
      let grammar := grammar.skip.expect .documentEnd
      return (.documentStart, token.start, grammar.expect .documentContent)
    else .error { problem := .missingDocumentStart, mark := marker.start }

def endsContent (token : Token) : Bool :=
  match token.word with
  | .versionDirective _ _ | .tagDirective _ _ | .documentStart | .documentEnd | .streamEnd => true
  | _ => false

/-! ## Steps -/

/-- The step for what is expected; the stack holds what comes after. -/
def stepFor (grammar : Grammar) : Expectation → Step
  | .firstDocument => grammar.document true
  | .nextDocument => grammar.document false
  | .documentContent => do
    let token ← grammar.peek
    if endsContent token then grammar.emptyScalar token.start else grammar.node true false
  | .documentEnd => do
    let token ← grammar.peek
    let grammar := if token.word = .documentEnd then grammar.skip else grammar
    return (.documentEnd, token.start, grammar.expect .nextDocument)
  | .blockNode => grammar.node true false
  | .sequenceEntry opened => do
    let token ← grammar.peek
    match token.word with
    | .blockEntry =>
      let after := grammar.skip.expect (.sequenceEntry opened)
      after.nodeUnless [.blockEntry, .blockEnd] token.stop true false
    | .blockEnd => grammar.close .sequenceEnd
    | _ => problem .missingDash token .blockSequence opened
  | .bareSequenceEntry => do
    let token ← grammar.peek
    match token.word with
    | .blockEntry =>
      let after := grammar.skip.expect .bareSequenceEntry
      after.nodeUnless [.blockEntry, .key, .value, .blockEnd] token.stop true false
    | _ => return (.sequenceEnd, token.start, grammar)
  | .mappingKey opened => do
    let token ← grammar.peek
    match token.word with
    | .key =>
      let after := grammar.skip.expect (.mappingValue opened)
      after.nodeUnless [.key, .value, .blockEnd] token.stop true true
    | .blockEnd => grammar.close .mappingEnd
    | _ => problem .missingKey token .blockMapping opened
  | .mappingValue opened => do
    let token ← grammar.peek
    match token.word with
    | .value =>
      let after := grammar.skip.expect (.mappingKey opened)
      after.nodeUnless [.key, .value, .blockEnd] token.stop true true
    | _ => (grammar.expect (.mappingKey opened)).emptyScalar token.start
  | .flowSequenceEntry opened first => do
    let token ← grammar.peek
    if token.word = .flowSequenceEnd then grammar.close .sequenceEnd
    else
      let grammar ←
        if first then pure grammar
        else if token.word = .flowEntry then pure grammar.skip
        else problem .missingSequenceSeparator token .flowSequence opened
      let token ← grammar.peek
      match token.word with
      | .key => return (.mappingStart {}, token.start, grammar.skip.expect (.pairKey opened))
      | .flowSequenceEnd => grammar.close .sequenceEnd
      | _ => (grammar.expect (.flowSequenceEntry opened false)).node false false
  | .pairKey opened => do
    let token ← grammar.peek
    let after := grammar.expect (.pairValue opened)
    if isOneOf token [.value, .flowEntry, .flowSequenceEnd] then
      after.skip.emptyScalar token.stop
    else after.node false false
  | .pairValue opened => do
    let token ← grammar.peek
    let grammar := if token.word = .value then grammar.skip else grammar
    let next ← grammar.peek
    let after := grammar.expect (.pairEnd opened)
    if token.word = .value then
      after.nodeUnless [.flowEntry, .flowSequenceEnd] next.start false false
    else after.emptyScalar token.start
  | .pairEnd opened => do
    let token ← grammar.peek
    return (.mappingEnd, token.start, grammar.expect (.flowSequenceEntry opened false))
  | .flowMappingKey opened first => do
    let token ← grammar.peek
    if token.word = .flowMappingEnd then grammar.close .mappingEnd
    else
      let grammar ←
        if first then pure grammar
        else if token.word = .flowEntry then pure grammar.skip
        else problem .missingMappingSeparator token .flowMapping opened
      let token ← grammar.peek
      match token.word with
      | .key =>
        let next ← grammar.skip.peek
        let after := grammar.skip.expect (.flowMappingValue opened)
        after.nodeUnless [.value, .flowEntry, .flowMappingEnd] next.start false false
      | .flowMappingEnd => grammar.close .mappingEnd
      | _ => (grammar.expect (.flowMappingNoValue opened)).node false false
  | .flowMappingValue opened => do
    let token ← grammar.peek
    let grammar := if token.word = .value then grammar.skip else grammar
    let next ← grammar.peek
    let after := grammar.expect (.flowMappingKey opened false)
    if token.word = .value then
      after.nodeUnless [.flowEntry, .flowMappingEnd] next.start false false
    else after.emptyScalar token.start
  | .flowMappingNoValue opened => do
    let token ← grammar.peek
    (grammar.expect (.flowMappingKey opened false)).emptyScalar token.start
  | .nothing => .error { problem := .endOfStream, mark := {} }

def step (grammar : Grammar) : Step :=
  match grammar.stack with
  | [] => .error { problem := .endOfStream, mark := {} }
  | expectation :: stack => { grammar with stack }.stepFor expectation

def run : Nat → Grammar → List (Event × Mark) × Option SyntaxError
  | 0, _ => ([], none)
  | steps + 1, grammar =>
    match grammar.step with
    | .error error => ([], some error)
    | .ok (.streamEnd, mark, _) => ([(.streamEnd, mark)], none)
    | .ok (event, mark, next) =>
      let (events, error) := run steps next
      ((event, mark) :: events, error)

end Grammar

/-- The events of tokens that may have ended in an error.  Between two steps that
use a token lie at most four that do not. -/
def events (tokens : List Token) (failure : Option SyntaxError) :
    List (Event × Mark) × Option SyntaxError :=
  Grammar.run (6 * (tokens.length + 2)) { tokens, failure }

end YamlShape.Yaml
