/-
# YamlShape.Yaml.Token -- the words of a text

A token is a word of the text with the places where it starts and stops.  Some
tokens stand for what is not written: the start and the end of the text, and
those of block collections, which only the indentation shows.
-/
import YamlShape.Yaml.Mark

namespace YamlShape.Yaml

set_option autoImplicit false

/-- The bytes of a tag.  Escapes in a tag name bytes, so a tag need not be text. -/
abbrev TagBytes := List UInt8

/-- What a token is. -/
inductive Word where
  | streamEnd
  | versionDirective (major minor : Nat)
  | tagDirective (handle : String) (expansion : TagBytes)
  | documentStart
  | documentEnd
  | blockSequenceStart
  | blockMappingStart
  | blockEnd
  | flowSequenceStart
  | flowSequenceEnd
  | flowMappingStart
  | flowMappingEnd
  | blockEntry
  | flowEntry
  | key
  | value
  | alias (name : String)
  | anchor (name : String)
  | tag (handle : String) (suffix : TagBytes)
  | scalar (text : String) (plain : Bool)
  deriving DecidableEq

/-- A word, and the marks before and behind it. -/
structure Token where
  word : Word
  start : Mark
  stop : Mark

end YamlShape.Yaml
