/-
# YamlShape.Decimal.Literal -- decimals as written

A decimal is an optional sign, digits with at most one point among or around
them, and an optional exponent: `1.`, `.5` and `1.5E-3` are decimals, `.` and
`1e` are not.
-/
import YamlShape.Decimal.Binary64

namespace YamlShape.Decimal

set_option autoImplicit false

/-- The number that digits stand for. -/
def digitsValue (digits : List Char) : Nat :=
  digits.foldl (fun value c => 10 * value + (c.toNat - '0'.toNat)) 0

/-- A sign, if there is one, and the rest; the flag says whether it is a minus. -/
def splitSign : List Char → Bool × List Char
  | '-' :: rest => (true, rest)
  | '+' :: rest => (false, rest)
  | text => (false, text)

/-- An exponent part, which fills the text. -/
def exponent? : List Char → Option Int
  | [] => some 0
  | c :: rest =>
    if c = 'e' ∨ c = 'E' then
      let (negative, digits) := splitSign rest
      if digits.isEmpty ∨ digits.any (!·.isDigit) then none
      else
        let value : Int := digitsValue digits
        some (if negative then -value else value)
    else none

/-- The decimal that fills the text. -/
def literal? (text : List Char) : Option Literal :=
  let (negative, text) := splitSign text
  let whole := text.takeWhile Char.isDigit
  let (fraction, rest) := match text.dropWhile Char.isDigit with
    | '.' :: rest => (rest.takeWhile Char.isDigit, rest.dropWhile Char.isDigit)
    | rest => ([], rest)
  if whole.isEmpty ∧ fraction.isEmpty then none
  else (exponent? rest).map fun exponent =>
    { negative
      digits := digitsValue (whole ++ fraction)
      exponent := exponent - fraction.length }

end YamlShape.Decimal
