/-
# YamlShape.FromYaml -- input trees from YAML texts

The values of a text become input trees.  A scalar keeps its kind and its
literal, a tagged value is only known by its tag.

Keys become texts: a scalar key is its literal, any other key its text in block
style without white space at the end, or the empty text if it cannot be written.
-/
import YamlShape.Node
import YamlShape.Text.Blank
import YamlShape.Yaml.BlockText
import YamlShape.Yaml.Read

namespace YamlShape

set_option autoImplicit false

namespace Yaml.Value

/-- The text of a key. -/
def asKey : Value → String
  | .string text => text
  | .null => "null"
  | .bool value => if value then "true" else "false"
  | .integer value => toString value
  | .float value => value.text
  | value => (value.blockText?.map Text.trimEnd).getD ""

mutual

/-- The input tree of a value. -/
def toNode : Value → Node
  | .null => .null
  | .bool value => .scalar .bool (if value then "true" else "false")
  | .integer value => .scalar .integer (toString value)
  | .float value => .scalar .float value.text
  | .string text => .scalar .string text
  | .sequence items => .sequence (itemsToNodes items)
  | .mapping entries => .mapping (entriesToNodes entries)
  | .tagged name _ => .unknown ("!" ++ name)

def itemsToNodes : List Value → List Node
  | [] => []
  | item :: rest => item.toNode :: itemsToNodes rest

def entriesToNodes : List (Value × Value) → Entries
  | [] => []
  | (key, value) :: rest => (key.asKey, value.toNode) :: entriesToNodes rest

end

end Yaml.Value

/-- The documents of a YAML text. -/
def Node.ofYaml (text : String) : Except Yaml.ReadError (List Node) := do
  return (← Yaml.read text).map Yaml.Value.toNode

end YamlShape
