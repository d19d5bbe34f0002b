/-!
# The shortest decimal of a double

A double-precision number is shown with the fewest digits that read back as the same number,
and of these the nearest to it, the greater of two.  The search is exact: the numbers that read
back form an interval, and for each count of digits the two grid points next to the number are
tried.
-/

namespace SmpClient

namespace Decimal

/-- A positive finite double: `mantissa * 2 ^ (exponent - 1075)`, the exponent being the biased
one, with 0 counted as 1. -/
structure Magnitude where
  mantissa : Nat
  exponent : Nat

/-- The magnitude in the low 63 bits of a finite double. -/
def Magnitude.ofBits (bits : Nat) : Magnitude :=
  let exponent := bits / Nat.pow 2 52 % Nat.pow 2 11
  let fraction := bits % Nat.pow 2 52
  if exponent = 0 then ⟨fraction, 1⟩ else ⟨Nat.pow 2 52 + fraction, exponent⟩

/-- The numbers that read back as a magnitude, as multiples of a common unit
`1 / denominator`. -/
structure Interval where
  low : Nat
  value : Nat
  high : Nat
  denominator : Nat
  closed : Bool

/-- The magnitude's own interval; below a power of two the gap is half as wide. -/
def Magnitude.interval (magnitude : Magnitude) : Interval :=
  let below := if magnitude.mantissa = Nat.pow 2 52 ∧ 1 < magnitude.exponent then 1 else 2
  let scale := if magnitude.exponent ≥ 1077 then Nat.pow 2 (magnitude.exponent - 1077) else 1
  { low := (4 * magnitude.mantissa - below) * scale
    value := 4 * magnitude.mantissa * scale
    high := (4 * magnitude.mantissa + 2) * scale
    denominator := Nat.pow 2 (1077 - magnitude.exponent)
    closed := magnitude.mantissa % 2 = 0 }

/-- Whether `digits * 10 ^ exponent` lies in the interval. -/
def Interval.contains (interval : Interval) (digits : Nat) (exponent : Int) : Bool :=
  let point := digits * Nat.pow 10 exponent.toNat * interval.denominator
  let unit := Nat.pow 10 (-exponent).toNat
  if interval.closed then interval.low * unit ≤ point && point ≤ interval.high * unit
  else interval.low * unit < point && point < interval.high * unit

/-- The exponent of the first power of ten above the interval's value. -/
def Interval.above (interval : Interval) : Int :=
  let whole := interval.value / interval.denominator
  if whole > 0 then (Nat.toDigits 10 whole).length
  else
    let places := ((List.range 400).find? fun places =>
      interval.denominator ≤ interval.value * Nat.pow 10 places).getD 400
    1 - places

/-- A decimal `digits * 10 ^ exponent`. -/
structure Scientific where
  digits : Nat
  exponent : Int

/-- The nearer of the two points of the grid with step `10 ^ exponent` around the interval's
value, if one of them lies in the interval; halfway between them it is the one above. -/
def Interval.neighbour? (interval : Interval) (exponent : Int) : Option Scientific :=
  let numerator := interval.value * Nat.pow 10 (-exponent).toNat
  let denominator := interval.denominator * Nat.pow 10 exponent.toNat
  let below := numerator / denominator
  let belowIn := decide (0 < below) && interval.contains below exponent
  let aboveIn := interval.contains (below + 1) exponent
  let aboveNearer := decide (denominator ≤ 2 * (numerator % denominator))
  if aboveIn && (aboveNearer || !belowIn) then some ⟨below + 1, exponent⟩
  else if belowIn then some ⟨below, exponent⟩
  else none

/-- Drops the trailing zeros of the digits; `fuel` bounds their number. -/
def Scientific.trimmed : (fuel : Nat) → Scientific → Scientific
  | 0, decimal => decimal
  | fuel + 1, decimal =>
      if decimal.digits % 10 = 0 ∧ decimal.digits ≠ 0 then
        trimmed fuel ⟨decimal.digits / 10, decimal.exponent + 1⟩
      else decimal

/-- The decimal with the fewest digits that reads back; seventeen always do. -/
def Magnitude.shortest (magnitude : Magnitude) : Scientific :=
  let interval := magnitude.interval
  let above := interval.above
  let found := (List.range 17).findSome? fun (count : Nat) =>
    interval.neighbour? (above - 1 - count)
  (found.getD ⟨0, 0⟩).trimmed 20

/-- Digits with the point after the first and an exponent. -/
def Scientific.exponential (decimal : Scientific) : String :=
  match Nat.toDigits 10 decimal.digits with
  | [] => "0e0"
  | first :: rest =>
      let fraction := if rest.isEmpty then "" else "." ++ String.ofList rest
      first.toString ++ fraction ++ "e" ++ toString (decimal.exponent + rest.length)

/-- All places written out, with at least one after the point. -/
def Scientific.positional (decimal : Scientific) : String :=
  let digits := Nat.toDigits 10 decimal.digits
  if decimal.exponent ≥ 0 then
    String.ofList (digits ++ List.replicate decimal.exponent.toNat '0') ++ ".0"
  else
    let places := (-decimal.exponent).toNat
    let filled := List.replicate (places + 1 - digits.length) '0' ++ digits
    String.ofList (filled.take (filled.length - places)) ++ "." ++
      String.ofList (filled.drop (filled.length - places))

/-- The text of the double with the given bits: positional from 1e-4 up to below 1e16, in
exponential form outside. -/
def ofDouble (bits : UInt64) : String :=
  let number := bits.toNat % Nat.pow 2 63
  let sign := if bits.toNat ≥ Nat.pow 2 63 then "-" else ""
  if number > 0x7ff0000000000000 then "NaN"
  else if number = 0x7ff0000000000000 then sign ++ "inf"
  else if number = 0 then sign ++ "0.0"
  else
    let magnitude := Magnitude.ofBits number
    let decimal := magnitude.shortest
    let size := decimal.exponent + (Nat.toDigits 10 decimal.digits).length
    if -4 < size ∧ size ≤ 16 then sign ++ decimal.positional
    else sign ++ decimal.exponential

end Decimal

end SmpClient
