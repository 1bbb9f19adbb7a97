/-
# YamlShape.Yaml.Token.Stream -- the tokens of a text

Tokens are read from left to right, but a colon makes a key of what stands
before it.  Where a key may have started its place is remembered as a
`Candidate`; when the colon comes, a `key` token is put in at that place, and
before it the start of a block mapping if the indentation has grown.  So a token
is only handed over once no candidate can come before it any more.

Outside brackets indentation opens and closes collections: an entry, a key or a
value at a greater column opens one, and every token closes those at greater
columns than its own.

`tokens` yields all tokens of a text, or those before the first error.
-/
import YamlShape.Yaml.Token.Block
import YamlShape.Yaml.Token.Plain
import YamlShape.Yaml.Token.Quoted
import YamlShape.Yaml.Token.Tag

namespace YamlShape.Yaml

set_option autoImplicit false

/-! ## States -/

/-- A place where a key may have started.  `number` counts the tokens before it;
a required candidate has to turn out to be a key. -/
structure Candidate where
  required : Bool
  number : Nat
  mark : Mark

/-- A text that is being read.  Every open bracket has its own candidate; those
of the brackets around the innermost are in `outerCandidates`. -/
structure Scanner where
  cursor : Cursor
  indentation : Int := -1
  outerIndentations : List Int := []
  candidate : Option Candidate := none
  outerCandidates : List (Option Candidate) := []
  keyAllowed : Bool := true
  waiting : List Token := []
  delivered : Nat := 0

namespace Scanner

def inFlow (scanner : Scanner) : Bool :=
  !scanner.outerCandidates.isEmpty

def mark (scanner : Scanner) : Mark :=
  scanner.cursor.mark

def produced (scanner : Scanner) : Nat :=
  scanner.delivered + scanner.waiting.length

def add (scanner : Scanner) (token : Token) : Scanner :=
  { scanner with waiting := scanner.waiting ++ [token] }

def insertAt (scanner : Scanner) (number : Nat) (token : Token) : Scanner :=
  let place := number - scanner.delivered
  { scanner with waiting := scanner.waiting.take place ++ token :: scanner.waiting.drop place }

def addWord (scanner : Scanner) (word : Word) (length : Nat) : Scanner :=
  let cursor := scanner.cursor.skip length
  { scanner with cursor }.add { word, start := scanner.mark, stop := cursor.mark }

def problem {α : Type} (scanner : Scanner) (problem : Problem) : Except SyntaxError α :=
  .error { problem, mark := scanner.mark }

/-! ## Candidates for keys -/

def missingColon {α : Type} (scanner : Scanner) (candidate : Candidate) : Except SyntaxError α :=
  scanner.cursor.problem .missingColon .simpleKey candidate.mark

/-- A key ends on its own line, at most 1024 characters on. -/
def isStale (scanner : Scanner) (candidate : Candidate) : Bool :=
  candidate.mark.line < scanner.mark.line || candidate.mark.index + 1024 < scanner.mark.index

/-- Forgets a candidate that can be a key no more. -/
def refresh (scanner : Scanner) : Option Candidate → Except SyntaxError (Option Candidate)
  | none => .ok none
  | some candidate =>
    if !scanner.isStale candidate then .ok (some candidate)
    else if candidate.required then scanner.missingColon candidate
    else .ok none

/-- Forgets the candidates that can be keys no more, the outermost first. -/
def refreshAll (scanner : Scanner) : Except SyntaxError Scanner := do
  let outer ← scanner.outerCandidates.reverse.mapM scanner.refresh
  let candidate ← scanner.refresh scanner.candidate
  return { scanner with candidate, outerCandidates := outer.reverse }

def dropCandidate (scanner : Scanner) : Except SyntaxError Scanner :=
  match scanner.candidate with
  | some candidate =>
    if candidate.required then scanner.missingColon candidate
    else .ok { scanner with candidate := none }
  | none => .ok scanner

/-- Remembers this place, if a key may start here. -/
def saveCandidate (scanner : Scanner) : Except SyntaxError Scanner := do
  if !scanner.keyAllowed then return scanner
  let required := !scanner.inFlow && scanner.indentation = scanner.mark.column
  let scanner ← scanner.dropCandidate
  let candidate := { required, number := scanner.produced, mark := scanner.mark }
  return { scanner with candidate := some candidate }

/-! ## Indentation -/

/-- Opens a block collection at a column, unless one that deep is open.  Its
token is put at the place of the token with the number, or behind all. -/
def openBlock (scanner : Scanner) (column : Nat) (number : Option Nat) (word : Word)
    (mark : Mark) : Scanner :=
  if scanner.inFlow || scanner.indentation ≥ column then scanner
  else
    let token := { word, start := mark, stop := mark }
    let scanner := match number with
      | some number => scanner.insertAt number token
      | none => scanner.add token
    { scanner with
      indentation := column
      outerIndentations := scanner.indentation :: scanner.outerIndentations }

/-- The collections that stay open at a column, and how many are closed. -/
def closing (column : Int) (indentation : Int) : List Int → Nat × Int × List Int
  | [] => (0, indentation, [])
  | outer :: rest =>
    if indentation > column then
      let (count, kept) := closing column outer rest
      (count + 1, kept)
    else (0, indentation, outer :: rest)

def closeBlocks (scanner : Scanner) (column : Int) : Scanner :=
  if scanner.inFlow then scanner
  else
    let (count, indentation, outerIndentations) :=
      closing column scanner.indentation scanner.outerIndentations
    let token := { word := .blockEnd, start := scanner.mark, stop := scanner.mark }
    let waiting := scanner.waiting ++ List.replicate count token
    { scanner with indentation, outerIndentations, waiting }

/-! ## Between tokens -/

/-- Skips blanks, comments and line ends.  Outside brackets a line end allows a
key, and where a key is allowed a tab is no blank.  A byte order mark is skipped
at the start of a line. -/
def skipGap (inFlow : Bool) : Nat → Bool → Cursor → Bool × Cursor
  | 0, keyAllowed, cursor => (keyAllowed, cursor)
  | turns + 1, keyAllowed, cursor =>
    let cursor :=
      if cursor.mark.column = 0 ∧ cursor.starts '\ufeff' then cursor.skip 1 else cursor
    let cursor := cursor.skipWhile fun c => c = ' ' || (c = '\t' && (inFlow || !keyAllowed))
    match cursor.skipComment.takeLineEnd with
    | ([], cursor) => (keyAllowed, cursor)
    | (_, next) => skipGap inFlow turns (keyAllowed || !inFlow) next

/-! ## Tokens -/

def fetchEnd (scanner : Scanner) : Except SyntaxError Scanner := do
  let mark := scanner.mark
  -- the end of the text stands on a line of its own
  let mark := if mark.column = 0 then mark else mark.nextLine 0
  let scanner := { scanner with cursor := { rest := [], mark } }
  let scanner ← (scanner.closeBlocks (-1)).dropCandidate
  let token : Token := { word := .streamEnd, start := mark, stop := mark }
  return { scanner with keyAllowed := false }.add token

def fetchDirective (scanner : Scanner) : Except SyntaxError Scanner := do
  let scanner ← (scanner.closeBlocks (-1)).dropCandidate
  let (token, cursor) ← Directive.token scanner.cursor
  return { scanner with keyAllowed := false, cursor }.add token

def fetchIndicator (scanner : Scanner) (word : Word) : Except SyntaxError Scanner := do
  let scanner ← (scanner.closeBlocks (-1)).dropCandidate
  return { scanner with keyAllowed := false }.addWord word 3

/-- Reads an opening bracket, which may start a key and what is inside too. -/
def fetchOpening (scanner : Scanner) (word : Word) : Except SyntaxError Scanner := do
  let scanner ← scanner.saveCandidate
  let outerCandidates := scanner.candidate :: scanner.outerCandidates
  let inner := { scanner with candidate := none, outerCandidates, keyAllowed := true }
  return inner.addWord word 1

def fetchClosing (scanner : Scanner) (word : Word) : Except SyntaxError Scanner := do
  let scanner ← scanner.dropCandidate
  let scanner := match scanner.outerCandidates with
    | [] => scanner
    | candidate :: outerCandidates => { scanner with candidate, outerCandidates }
  return { scanner with keyAllowed := false }.addWord word 1

def fetchSeparator (scanner : Scanner) : Except SyntaxError Scanner := do
  let scanner ← scanner.dropCandidate
  return { scanner with keyAllowed := true }.addWord .flowEntry 1

def fetchDash (scanner : Scanner) : Except SyntaxError Scanner := do
  if !scanner.inFlow ∧ !scanner.keyAllowed then scanner.problem .sequenceEntryNotAllowed
  else
    let scanner := scanner.openBlock scanner.mark.column none .blockSequenceStart scanner.mark
    let scanner ← scanner.dropCandidate
    return { scanner with keyAllowed := true }.addWord .blockEntry 1

def fetchQuestion (scanner : Scanner) : Except SyntaxError Scanner := do
  if !scanner.inFlow ∧ !scanner.keyAllowed then scanner.problem .mappingKeyNotAllowed
  else
    let scanner := scanner.openBlock scanner.mark.column none .blockMappingStart scanner.mark
    let scanner ← scanner.dropCandidate
    return { scanner with keyAllowed := !scanner.inFlow }.addWord .key 1

/-- Reads the colon before a value.  It makes a key of the candidate, if there is
one; otherwise the key stands behind a question mark or is left out. -/
def fetchColon (scanner : Scanner) : Except SyntaxError Scanner :=
  match scanner.candidate with
  | some candidate =>
    let mark := candidate.mark
    let keyed := scanner.insertAt candidate.number { word := .key, start := mark, stop := mark }
    let opened := keyed.openBlock mark.column (some candidate.number) .blockMappingStart mark
    .ok ({ opened with candidate := none, keyAllowed := false }.addWord .value 1)
  | none =>
    if !scanner.inFlow ∧ !scanner.keyAllowed then scanner.problem .mappingValueNotAllowed
    else
      let opened := scanner.openBlock scanner.mark.column none .blockMappingStart scanner.mark
      .ok ({ opened with keyAllowed := !scanner.inFlow }.addWord .value 1)

/-- Reads a token that may start a key, by its own rule. -/
def fetchContent (scanner : Scanner)
    (read : Scanner → Except SyntaxError (Token × Bool × Cursor)) : Except SyntaxError Scanner := do
  let scanner ← scanner.saveCandidate
  let (token, keyAllowed, cursor) ← read scanner
  return { scanner with keyAllowed, cursor }.add token

/-- Reads a token that allows no key behind it. -/
def closed (read : Cursor → Except SyntaxError (Token × Cursor)) (scanner : Scanner) :
    Except SyntaxError (Token × Bool × Cursor) := do
  let (token, cursor) ← read scanner.cursor
  return (token, false, cursor)

def plain (scanner : Scanner) : Except SyntaxError (Token × Bool × Cursor) :=
  Plain.token scanner.inFlow (scanner.indentation + 1) scanner.cursor

/-- Reads a block scalar, which is no key and allows one behind it. -/
def fetchBlockScalar (scanner : Scanner) (folded : Bool) : Except SyntaxError Scanner := do
  let scanner ← scanner.dropCandidate
  let (token, cursor) ← Block.token folded scanner.indentation scanner.cursor
  return { scanner with keyAllowed := true, cursor }.add token

/-- Whether a plain scalar starts with a character before another.  Outside
brackets it may start with `?` or `:`, and anywhere with `-`, if no blank follows. -/
def startsPlain (inFlow : Bool) (c : Char) (next : Option Char) : Bool :=
  if c = '-' then !isBlankOrEnd next
  else if c = '?' ∨ c = ':' then !inFlow && !isBlankOrEnd next
  else !isBlank c && !isBreak c && !(isFlowIndicator c || "#&*!|>'\"%@`".toList.contains c)

def fetchHere (scanner : Scanner) : Except SyntaxError Scanner :=
  let cursor := scanner.cursor
  let flow := scanner.inFlow
  match cursor.peek with
  | none => scanner.fetchEnd
  | some c =>
    let next := cursor.peekAt 1
    if c = '%' ∧ cursor.mark.column = 0 then scanner.fetchDirective
    else if cursor.atIndicator '-' then scanner.fetchIndicator .documentStart
    else if cursor.atIndicator '.' then scanner.fetchIndicator .documentEnd
    else if c = '[' then scanner.fetchOpening .flowSequenceStart
    else if c = '\x7b' then scanner.fetchOpening .flowMappingStart
    else if c = ']' then scanner.fetchClosing .flowSequenceEnd
    else if c = '\x7d' then scanner.fetchClosing .flowMappingEnd
    else if c = ',' then scanner.fetchSeparator
    else if c = '-' ∧ isBlankOrEnd next then scanner.fetchDash
    else if c = '?' ∧ (flow ∨ isBlankOrEnd next) then scanner.fetchQuestion
    else if c = ':' ∧ (flow ∨ isBlankOrEnd next) then scanner.fetchColon
    else if c = '*' then scanner.fetchContent (closed (Anchor.token true))
    else if c = '&' then scanner.fetchContent (closed (Anchor.token false))
    else if c = '!' then scanner.fetchContent (closed (Tag.token flow))
    else if (c = '|' ∨ c = '>') ∧ !flow then scanner.fetchBlockScalar (c = '>')
    else if c = '\'' ∨ c = '"' then scanner.fetchContent (closed (Quoted.token c))
    else if startsPlain flow c next then scanner.fetchContent plain
    else cursor.problem .strayCharacter .nextToken cursor.mark

def fetch (scanner : Scanner) : Except SyntaxError Scanner := do
  let (keyAllowed, cursor) :=
    skipGap scanner.inFlow scanner.cursor.turns scanner.keyAllowed scanner.cursor
  let scanner ← { scanner with keyAllowed, cursor }.refreshAll
  (scanner.closeBlocks cursor.mark.column).fetchHere

/-! ## The stream of tokens -/

/-- Whether the next token may yet turn out to start a key. -/
def awaitsKey (scanner : Scanner) : Bool :=
  (scanner.candidate :: scanner.outerCandidates).any fun candidate =>
    candidate.any (·.number = scanner.delivered)

/-- Hands over the next token, if it is there and starts no key. -/
def handOver (scanner : Scanner) : Except SyntaxError (Option Token × Scanner) := do
  match scanner.waiting with
  | [] => return (none, scanner)
  | token :: waiting =>
    let scanner ← scanner.refreshAll
    if scanner.awaitsKey then return (none, scanner)
    else return (some token, { scanner with waiting, delivered := scanner.delivered + 1 })

def deliver : Nat → Scanner → List Token × Option SyntaxError
  | 0, _ => ([], none)
  | turns + 1, scanner =>
    match scanner.handOver with
    | .error error => ([], some error)
    | .ok (none, scanner) =>
      match scanner.fetch with
      | .error error => ([], some error)
      | .ok scanner => deliver turns scanner
    | .ok (some token, scanner) =>
      if token.word = .streamEnd then ([token], none)
      else
        let (tokens, error) := deliver turns scanner
        (token :: tokens, error)

end Scanner

/-- The tokens of a text: all, or those before the first error.  Every step of
the scanner reads a character or hands over a token, and a character makes at
most four tokens. -/
def tokens (text : List Char) : List Token × Option SyntaxError :=
  Scanner.deliver (8 * (text.length + 2)) { cursor := { rest := text } }

end YamlShape.Yaml
