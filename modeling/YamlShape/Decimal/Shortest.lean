/-
# YamlShape.Decimal.Shortest -- the fewest digits that read back

Every number of double precision stands for an interval of reals, those that
round to it; the ends belong to it exactly if the mantissa is even.  The text of
a number is the decimal in that interval with the fewest digits, of several the
nearest, and of two equally near the one with an even last digit.

A grid is the set of multiples of a power of ten.  If the interval holds a point
of a grid, it holds one of the two neighbours of the number itself, so the
coarsest grid with a hit is found by looking at those two.

`Binary64.text` writes the digits: positional while the point lies within
sixteen digits to the right of the first digit or five to the left, with an
exponent otherwise, and always with a point or an exponent.
-/
import YamlShape.Decimal.Binary64

namespace YamlShape.Decimal

set_option autoImplicit false

/-! ## The interval of a number -/

/-- A number and the ends of its interval, in units of `2 ^ exponent`. -/
structure Rounding where
  low : Nat
  value : Nat
  high : Nat
  exponent : Int
  closed : Bool

/-- The reals that round to a finite positive number.  Below a power of two the
next number is nearer. -/
def Rounding.ofFinite (mantissa : Nat) (exponent : Int) : Rounding where
  low := if mantissa = 1 <<< 52 ∧ exponent > -1074 then 4 * mantissa - 1 else 4 * mantissa - 2
  value := 4 * mantissa
  high := 4 * mantissa + 2
  exponent := exponent - 2
  closed := mantissa % 2 = 0

/-! ## Grids -/

/-- The multiple of `10 ^ place` nearest to the number, if the interval holds one. -/
def Rounding.onGrid? (rounding : Rounding) (place : Int) : Option Nat :=
  let unit := Nat.pow 10 place.toNat <<< (-rounding.exponent).toNat
  let scale := Nat.pow 10 (-place).toNat <<< rounding.exponent.toNat
  let value := rounding.value * scale
  let inside (point : Nat) : Bool :=
    if rounding.closed then rounding.low * scale ≤ point && point ≤ rounding.high * scale
    else rounding.low * scale < point && point < rounding.high * scale
  let below := value / unit
  let above := below + 1
  match inside (below * unit), inside (above * unit) with
  | false, false => none
  | true, false => some below
  | false, true => some above
  | true, true =>
    let belowDistance := value - below * unit
    let aboveDistance := above * unit - value
    if belowDistance < aboveDistance then some below
    else if aboveDistance < belowDistance then some above
    else if below % 2 = 0 then some below else some above

/-- The hit on the coarsest of `count` grids, from `place` downwards. -/
def Rounding.coarsest (rounding : Rounding) (place : Int) : Nat → Nat × Int
  | 0 => (0, 0)
  | count + 1 =>
    match rounding.onGrid? place with
    | some digits => (digits, place)
    | none => rounding.coarsest (place - 1) count

/-- Digits and power of ten of the shortest decimal of a finite positive number.
Seventeen digits always suffice, so twenty-four grids from above the number do. -/
def shortest (mantissa : Nat) (exponent : Int) : Nat × Int :=
  let above := (((mantissa.log2 : Int) + exponent) * 30103).ediv 100000 + 2
  (Rounding.ofFinite mantissa exponent).coarsest above 24

/-! ## Text -/

def zeros (count : Nat) : List Char :=
  List.replicate count '0'

/-- The text of the positive decimal `digits * 10 ^ place`. -/
def decimalText (digits : Nat) (place : Int) : List Char :=
  let figures := Nat.toDigits 10 digits
  let point : Int := figures.length + place
  if 0 ≤ place ∧ point ≤ 16 then figures ++ zeros place.toNat ++ ['.', '0']
  else if 0 < point ∧ point ≤ 16 then
    figures.take point.toNat ++ '.' :: figures.drop point.toNat
  else if -5 < point ∧ point ≤ 0 then '0' :: '.' :: zeros (-point).toNat ++ figures
  else
    let mantissa := match figures with
      | [figure] => [figure]
      | first :: rest => first :: '.' :: rest
      | [] => []
    mantissa ++ 'e' :: (toString (point - 1)).toList

/-- The text of a number. -/
def Binary64.text : Binary64 → String
  | .finite negative mantissa exponent =>
    let sign := if negative then ['-'] else []
    if mantissa = 0 then String.ofList (sign ++ ['0', '.', '0'])
    else
      let (digits, place) := shortest mantissa exponent
      String.ofList (sign ++ decimalText digits place)
  | .infinity negative => if negative then "-.inf" else ".inf"
  | .nan => ".nan"

end YamlShape.Decimal
