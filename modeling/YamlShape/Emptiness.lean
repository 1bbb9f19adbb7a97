/-
# YamlShape.Emptiness -- which values may be left out

A field whose source value is empty carries the mark that it may be left out.
Zero is judged by the literal, not by the number: an integer is zero when it is
written `0`, a float when it is written `0` or `0.0`.

`isEmpty_zeroValues_of_canonical`: the wider policy only adds values.
-/
import YamlShape.Node
import YamlShape.Options

namespace YamlShape

set_option autoImplicit false

namespace Node

/-- Whether a value is empty under a policy. -/
def isEmpty (policy : Emptiness) : Node → Bool
  | .scalar .string literal => literal.isEmpty
  | .scalar .integer literal => policy = .zeroValues && literal = "0"
  | .scalar .float literal => policy = .zeroValues && (literal = "0" || literal = "0.0")
  | .scalar .bool _ => false
  | .scalar .null _ => false
  | .sequence items => items.isEmpty
  | .mapping entries => entries.isEmpty
  | .unknown _ => false

theorem isEmpty_zeroValues_of_canonical {node : Node} (empty : node.isEmpty .canonical = true) :
    node.isEmpty .zeroValues = true := by
  cases node with
  | scalar kind literal => cases kind <;> simp_all [isEmpty]
  | sequence items => exact empty
  | mapping entries => exact empty
  | unknown tag => exact empty

end Node

end YamlShape
