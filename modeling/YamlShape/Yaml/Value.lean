/-
# YamlShape.Yaml.Value -- the values of a document

Numbers are integers or numbers of double precision; a mapping keeps its entries
in order and has no key twice.  `sameAs` is the equality of keys: the kind of a
number counts (`1` is not `1.0`), its spelling does not (`1` is `0x1`), and
mappings are equal whatever the order of their entries.
-/
import YamlShape.Decimal.Shortest

namespace YamlShape.Yaml

set_option autoImplicit false

open Decimal (Binary64)

inductive Value where
  | null
  | bool (value : Bool)
  | integer (value : Int)
  | float (value : Binary64)
  | string (text : String)
  | sequence (items : List Value)
  | mapping (entries : List (Value × Value))
  | tagged (tag : String) (value : Value)

namespace Value

/-! ## Equality of keys -/

mutual

/-- Whether two values are one key. -/
def sameAs : Value → Value → Bool
  | .null, .null => true
  | .bool left, .bool right => left = right
  | .integer left, .integer right => left = right
  | .float left, .float right => left.sameAs right
  | .string left, .string right => left = right
  | .sequence left, .sequence right => sameItems left right
  | .mapping left, .mapping right => left.length = right.length && allIn left right
  | .tagged leftTag left, .tagged rightTag right => leftTag = rightTag && sameAs left right
  | _, _ => false

def sameItems : List Value → List Value → Bool
  | [], [] => true
  | left :: lefts, right :: rights => sameAs left right && sameItems lefts rights
  | _, _ => false

/-- Whether every entry of the first list is one of the second. -/
def allIn : List (Value × Value) → List (Value × Value) → Bool
  | [], _ => true
  | (key, value) :: rest, entries =>
    entries.any (fun entry => sameAs key entry.1 && sameAs value entry.2) && allIn rest entries

end

def hasKey (entries : List (Value × Value)) (key : Value) : Bool :=
  entries.any (·.1.sameAs key)

/-! ## Scalars as text -/

/-- The text of a scalar that is not a string. -/
def literal? : Value → Option String
  | .null => some "null"
  | .bool value => some (if value then "true" else "false")
  | .integer value => some (toString value)
  | .float value => some value.text
  | _ => none

end Value

end YamlShape.Yaml
