/-
# YamlShape.Decimal.Binary64 -- binary numbers of double precision

A finite number is a mantissa times a power of two, with a sign: the mantissa
has at most 53 bits and the exponent is at least -1074.  `ofDecimal?` gives the
number nearest to a decimal, the one with the even mantissa if two are equally
near, and nothing if that would be beyond the finite range.

* `roundQuotient_le`, `le_roundQuotient`: rounding a quotient stays between its
  two neighbours.
-/

namespace YamlShape.Decimal

set_option autoImplicit false

/-- A number of double precision. -/
inductive Binary64 where
  | finite (negative : Bool) (mantissa : Nat) (exponent : Int)
  | infinity (negative : Bool)
  | nan

/-! ## Rounding -/

/-- The natural number nearest to a quotient, the even one of two. -/
def roundQuotient (numerator denominator : Nat) : Nat :=
  let below := numerator / denominator
  let twice := 2 * (numerator % denominator)
  if twice < denominator then below
  else if denominator < twice then below + 1
  else if below % 2 = 0 then below else below + 1

theorem le_roundQuotient (numerator denominator : Nat) :
    numerator / denominator ≤ roundQuotient numerator denominator := by
  simp only [roundQuotient]
  split
  · exact Nat.le_refl _
  · split
    · exact Nat.le_succ _
    · split
      · exact Nat.le_refl _
      · exact Nat.le_succ _

theorem roundQuotient_le (numerator denominator : Nat) :
    roundQuotient numerator denominator ≤ numerator / denominator + 1 := by
  simp only [roundQuotient]
  split
  · exact Nat.le_succ _
  · split
    · exact Nat.le_refl _
    · split
      · exact Nat.le_succ _
      · exact Nat.le_refl _

/-! ## The nearest number to a quotient -/

/-- The largest `k` with `2 ^ k ≤ numerator / denominator`, for positive numbers. -/
def log2Quotient (numerator denominator : Nat) : Int :=
  let guess : Int := (numerator.log2 : Int) - denominator.log2
  if denominator <<< guess.toNat ≤ numerator <<< (-guess).toNat then guess else guess - 1

/-- The number nearest to a positive quotient, or nothing beyond the finite range. -/
def ofQuotient? (negative : Bool) (numerator denominator : Nat) : Option Binary64 :=
  let exponent := max (log2Quotient numerator denominator - 52) (-1074)
  let mantissa :=
    roundQuotient (numerator <<< (-exponent).toNat) (denominator <<< exponent.toNat)
  let (mantissa, exponent) :=
    if mantissa = 1 <<< 53 then (1 <<< 52, exponent + 1) else (mantissa, exponent)
  if exponent ≤ 971 then some (.finite negative mantissa exponent) else none

/-! ## Decimals -/

/-- The decimal `digits * 10 ^ exponent`, with a sign. -/
structure Literal where
  negative : Bool
  digits : Nat
  exponent : Int

/-- The place of the highest digit, counted from the point. -/
def Literal.magnitude (literal : Literal) : Int :=
  (Nat.toDigits 10 literal.digits).length + literal.exponent

/-- The number nearest to a decimal, or nothing beyond the finite range. -/
def ofDecimal? (literal : Literal) : Option Binary64 :=
  if literal.digits = 0 ∨ literal.magnitude < -400 then
    some (.finite literal.negative 0 (-1074))
  else if literal.magnitude > 400 then none
  else ofQuotient? literal.negative
    (literal.digits * Nat.pow 10 literal.exponent.toNat) (Nat.pow 10 (-literal.exponent).toNat)

namespace Binary64

/-- Equality as a key: zeros are one value whatever their sign, and so is every
number that is not one. -/
def sameAs : Binary64 → Binary64 → Bool
  | .finite leftNegative leftMantissa leftExponent,
    .finite rightNegative rightMantissa rightExponent =>
    (leftMantissa = 0 && rightMantissa = 0)
      || (leftNegative = rightNegative && leftMantissa = rightMantissa
        && leftExponent = rightExponent)
  | .infinity left, .infinity right => left = right
  | .nan, .nan => true
  | _, _ => false

end Binary64

end YamlShape.Decimal
