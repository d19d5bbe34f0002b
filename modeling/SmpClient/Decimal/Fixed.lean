/-!
# Decimals with a fixed number of places

Quantities are shown rounded to the nearest last place; a value exactly between two goes to
the even one.
-/

namespace SmpClient

namespace Decimal

/-- The natural number nearest to `numerator / denominator`, the even one of two. -/
def roundHalfEven (numerator denominator : Nat) : Nat :=
  let quotient := numerator / denominator
  let twice := 2 * (numerator % denominator)
  if twice < denominator then quotient
  else if denominator < twice then quotient + 1
  else quotient + quotient % 2

/-- `numerator / denominator` with one place after the point. -/
def onePlace (numerator denominator : Nat) : String :=
  let tenths := roundHalfEven (numerator * 10) denominator
  toString (tenths / 10) ++ "." ++ toString (tenths % 10)

end Decimal

end SmpClient
