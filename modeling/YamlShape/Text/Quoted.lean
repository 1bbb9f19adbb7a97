/-
# YamlShape.Text.Quoted -- text in quotes, with escapes

A quoted text stands between double quotes.  The quote, the backslash, NUL, tab
and the two line ends have escapes of one letter; any other character that
cannot stand for itself is written as its code point in braces.
-/
import YamlShape.Text.Hex
import YamlShape.Text.Printable

namespace YamlShape.Text

set_option autoImplicit false

/-- A character inside a quoted text. -/
def quotedChar (c : Char) : String :=
  if c = '"' then "\\\""
  else if c = '\\' then "\\\\"
  else if c = '\x00' then "\\0"
  else if c = '\t' then "\\t"
  else if c = '\n' then "\\n"
  else if c = '\r' then "\\r"
  else if shownAsIs c then c.toString
  else "\\u\x7b" ++ lowerHex 1 c.toNat ++ "\x7d"

/-- A text in quotes. -/
def quoted (text : String) : String :=
  "\"" ++ String.join (text.toList.map quotedChar) ++ "\""

end YamlShape.Text
