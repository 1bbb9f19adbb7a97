/-
# YamlShape.Text.Blank -- white space and its removal at the end

`isBlank` is the White_Space property of Unicode.

* `isBlank_of_isWhitespace`: it contains the white space of ASCII.
-/

namespace YamlShape.Text

set_option autoImplicit false

/-- Whether a character is white space. -/
def isBlank (c : Char) : Bool :=
  let code := c.toNat
  (9 ≤ code && code ≤ 13) || code = 0x20 || code = 0x85 || code = 0xA0 || code = 0x1680
    || (0x2000 ≤ code && code ≤ 0x200A) || code = 0x2028 || code = 0x2029 || code = 0x202F
    || code = 0x205F || code = 0x3000

theorem isBlank_of_isWhitespace (c : Char) (white : c.isWhitespace = true) :
    isBlank c = true := by
  simp only [Char.isWhitespace, Bool.or_eq_true, decide_eq_true_eq] at white
  rcases white with ((h | h) | h) | h <;> subst h <;> decide

/-- The text without the white space at its end. -/
def trimEnd (text : String) : String :=
  String.ofList (text.toList.reverse.dropWhile isBlank).reverse

end YamlShape.Text
