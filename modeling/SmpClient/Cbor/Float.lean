/-!
# The three widths of floating-point numbers

A decoded number is kept as the bits of a double.  It is written in the narrowest of the half,
single and double formats that holds it exactly, and any value that is not a number has one
written form.
-/

namespace SmpClient

namespace Cbor

/-- A binary floating-point format with fewer bits than a double. -/
structure FloatFormat where
  exponentBits : Nat
  fractionBits : Nat

namespace FloatFormat

/-- Two bytes. -/
def half : FloatFormat := ⟨5, 10⟩

/-- Four bytes. -/
def single : FloatFormat := ⟨8, 23⟩

/-- The exponent field of infinities and of what is not a number. -/
def top (format : FloatFormat) : Nat :=
  Nat.pow 2 format.exponentBits - 1

/-- What is subtracted from an exponent field. -/
def bias (format : FloatFormat) : Nat :=
  Nat.pow 2 (format.exponentBits - 1) - 1

/-- The double with the value that `bits` have in the narrow format. -/
def widen (format : FloatFormat) (bits : Nat) : UInt64 :=
  let fraction := bits % Nat.pow 2 format.fractionBits
  let exponent := bits / Nat.pow 2 format.fractionBits % Nat.pow 2 format.exponentBits
  let sign := bits / Nat.pow 2 (format.fractionBits + format.exponentBits) % 2
  let shift := Nat.pow 2 (52 - format.fractionBits)
  let magnitude :=
    if exponent = format.top then 0x7ff * Nat.pow 2 52 + fraction * shift
    else if exponent ≠ 0 then (exponent + 1023 - format.bias) * Nat.pow 2 52 + fraction * shift
    else if fraction = 0 then 0
    else
      let width := fraction.log2
      (1024 - format.bias - format.fractionBits + width) * Nat.pow 2 52 +
        (fraction - Nat.pow 2 width) * Nat.pow 2 (52 - width)
  UInt64.ofNat (sign * Nat.pow 2 63 + magnitude)

/-- The bits of a double's value in the narrow format, if it holds that value exactly.  What
is not a number has none. -/
def narrow? (format : FloatFormat) (bits : UInt64) : Option Nat :=
  let fraction := bits.toNat % Nat.pow 2 52
  let exponent := bits.toNat / Nat.pow 2 52 % Nat.pow 2 11
  let sign := bits.toNat / Nat.pow 2 63 * Nat.pow 2 (format.fractionBits + format.exponentBits)
  let dropped := Nat.pow 2 (52 - format.fractionBits)
  if exponent = 0x7ff then
    if fraction = 0 then some (sign + format.top * Nat.pow 2 format.fractionBits) else none
  else if exponent = 0 then
    if fraction = 0 then some sign else none
  else if 1023 < exponent + format.bias then
    let field := exponent + format.bias - 1023
    if field < format.top ∧ fraction % dropped = 0 then
      some (sign + field * Nat.pow 2 format.fractionBits + fraction / dropped)
    else none
  else
    let extra := Nat.pow 2 (1024 - exponent - format.bias)
    let significand := Nat.pow 2 52 + fraction
    if significand % (dropped * extra) = 0 then some (sign + significand / (dropped * extra))
    else none

end FloatFormat

/-- Whether the bits of a double stand for no number. -/
def isNaN (bits : UInt64) : Bool :=
  bits.toNat % Nat.pow 2 63 > 0x7ff0000000000000

end Cbor

end SmpClient
