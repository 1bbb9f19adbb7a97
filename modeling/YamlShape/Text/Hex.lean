/-
# YamlShape.Text.Hex -- hexadecimal numerals

A code point is written with a least number of digits, filled up with zeros.
-/
namespace YamlShape.Text

set_option autoImplicit false

/-- The lower-case hexadecimal digits of a number, at least `width` of them. -/
def lowerHex (width number : Nat) : String :=
  let digits := Nat.toDigits 16 number
  String.ofList (List.replicate (width - digits.length) '0' ++ digits)

/-- The upper-case hexadecimal digits of a number, at least `width` of them. -/
def upperHex (width number : Nat) : String :=
  (lowerHex width number).map Char.toUpper

/-- The value of a hexadecimal digit. -/
def hexValue? (c : Char) : Option Nat :=
  if '0' ≤ c && c ≤ '9' then some (c.toNat - '0'.toNat)
  else if 'a' ≤ c && c ≤ 'f' then some (c.toNat - 'a'.toNat + 10)
  else if 'A' ≤ c && c ≤ 'F' then some (c.toNat - 'A'.toNat + 10)
  else none

end YamlShape.Text
