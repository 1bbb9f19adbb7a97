/-
# YamlShape.Yaml.SyntaxError -- what can be wrong with the form of a text

A syntax error has a problem, the place where it showed, and mostly the
construct that was being read, with the place where that began.
-/
import YamlShape.Yaml.Mark

namespace YamlShape.Yaml

set_option autoImplicit false

/-! ## Problems -/

/-- What was found, or not found, at a place. -/
inductive Problem where
  | missingColon
  | strayCharacter
  | sequenceEntryNotAllowed
  | mappingKeyNotAllowed
  | mappingValueNotAllowed
  | missingDirectiveName
  | badDirectiveName
  | unknownDirective
  | missingLineEnd
  | missingVersionDot
  | longVersionNumber
  | missingVersionNumber
  | missingExclamation
  | missingSpace
  | missingSpaceOrLineEnd
  | missingAnchorName
  | missingTagClose
  | missingTagUri
  | missingOctet
  | badLeadingOctet
  | badTrailingOctet
  | zeroIndentation
  | tabForIndentation
  | documentIndicator
  | endOfStream
  | unknownEscape
  | missingHexDigit
  | badEscapeCode
  | unexpectedColon
  | tabBeforeIndentation
  | missingDocumentStart
  | duplicateVersion
  | incompatibleVersion
  | duplicateTagHandle
  | undefinedTagHandle
  | missingNodeContent
  | missingDash
  | missingKey
  | missingSequenceSeparator
  | missingMappingSeparator
  deriving DecidableEq

def Problem.text : Problem → String
  | .missingColon => "could not find expected ':'"
  | .strayCharacter => "found character that cannot start any token"
  | .sequenceEntryNotAllowed => "block sequence entries are not allowed in this context"
  | .mappingKeyNotAllowed => "mapping keys are not allowed in this context"
  | .mappingValueNotAllowed => "mapping values are not allowed in this context"
  | .missingDirectiveName => "could not find expected directive name"
  | .badDirectiveName => "found unexpected non-alphabetical character"
  | .unknownDirective => "found unknown directive name"
  | .missingLineEnd => "did not find expected comment or line break"
  | .missingVersionDot => "did not find expected digit or '.' character"
  | .longVersionNumber => "found extremely long version number"
  | .missingVersionNumber => "did not find expected version number"
  | .missingExclamation => "did not find expected '!'"
  | .missingSpace => "did not find expected whitespace"
  | .missingSpaceOrLineEnd => "did not find expected whitespace or line break"
  | .missingAnchorName => "did not find expected alphabetic or numeric character"
  | .missingTagClose => "did not find the expected '>'"
  | .missingTagUri => "did not find expected tag URI"
  | .missingOctet => "did not find URI escaped octet"
  | .badLeadingOctet => "found an incorrect leading UTF-8 octet"
  | .badTrailingOctet => "found an incorrect trailing UTF-8 octet"
  | .zeroIndentation => "found an indentation indicator equal to 0"
  | .tabForIndentation => "found a tab character where an indentation space is expected"
  | .documentIndicator => "found unexpected document indicator"
  | .endOfStream => "found unexpected end of stream"
  | .unknownEscape => "found unknown escape character"
  | .missingHexDigit => "did not find expected hexadecimal number"
  | .badEscapeCode => "found invalid Unicode character escape code"
  | .unexpectedColon => "found unexpected ':'"
  | .tabBeforeIndentation => "found a tab character that violates indentation"
  | .missingDocumentStart => "did not find expected <document start>"
  | .duplicateVersion => "found duplicate %YAML directive"
  | .incompatibleVersion => "found incompatible YAML document"
  | .duplicateTagHandle => "found duplicate %TAG directive"
  | .undefinedTagHandle => "found undefined tag handle"
  | .missingNodeContent => "did not find expected node content"
  | .missingDash => "did not find expected '-' indicator"
  | .missingKey => "did not find expected key"
  | .missingSequenceSeparator => "did not find expected ',' or ']'"
  | .missingMappingSeparator => "did not find expected ',' or '\x7d'"

/-! ## Constructs -/

/-- What was being read. -/
inductive Construct where
  | nextToken
  | simpleKey
  | directive
  | versionDirective
  | tagDirective
  | tagDirectiveStart
  | tagDirectiveHandle
  | tagDirectivePrefix
  | tag
  | tagUri
  | anchor
  | alias
  | blockScalar
  | quotedScalar
  | escape
  | plainScalar
  | node
  | blockNode
  | flowNode
  | blockSequence
  | blockMapping
  | flowSequence
  | flowMapping
  deriving DecidableEq

def Construct.text : Construct → String
  | .nextToken => "while scanning for the next token"
  | .simpleKey => "while scanning a simple key"
  | .directive => "while scanning a directive"
  | .versionDirective => "while scanning a %YAML directive"
  | .tagDirective => "while scanning a %TAG directive"
  | .tagDirectiveStart => "while scanning a tag directive"
  | .tagDirectiveHandle => "while parsing a tag directive"
  | .tagDirectivePrefix => "while parsing a %TAG directive"
  | .tag => "while scanning a tag"
  | .tagUri => "while parsing a tag"
  | .anchor => "while scanning an anchor"
  | .alias => "while scanning an alias"
  | .blockScalar => "while scanning a block scalar"
  | .quotedScalar => "while scanning a quoted scalar"
  | .escape => "while parsing a quoted scalar"
  | .plainScalar => "while scanning a plain scalar"
  | .node => "while parsing a node"
  | .blockNode => "while parsing a block node"
  | .flowNode => "while parsing a flow node"
  | .blockSequence => "while parsing a block collection"
  | .blockMapping => "while parsing a block mapping"
  | .flowSequence => "while parsing a flow sequence"
  | .flowMapping => "while parsing a flow mapping"

/-! ## Errors -/

/-- A problem with its place, and the construct that it was found in. -/
structure SyntaxError where
  problem : Problem
  mark : Mark
  within : Option (Construct × Mark) := none
  deriving DecidableEq

/-- The message of an error.  The place where the construct began is left out if
the problem showed there. -/
def SyntaxError.message (error : SyntaxError) : String :=
  error.problem.text ++ error.mark.suffix ++
    match error.within with
    | none => ""
    | some (construct, start) =>
      ", " ++ construct.text ++ if start.sameAs error.mark then "" else start.suffix

end YamlShape.Yaml
