import SmpClient.Bytes.Basic

/-!
# Base64

The standard alphabet with padding.  Reading is strict: a length that is no multiple of four,
padding anywhere but at the end, a character outside the alphabet, and set bits that
no byte uses are all refused, so every byte string has exactly one written form.
-/

namespace SmpClient

namespace Base64

/-- The character for a six-bit number. -/
def symbol (sextet : Nat) : UInt8 :=
  if sextet < 26 then UInt8.ofNat (65 + sextet)
  else if sextet < 52 then UInt8.ofNat (71 + sextet)
  else if sextet < 62 then UInt8.ofNat (sextet - 4)
  else if sextet = 62 then 43
  else 47

/-- The six-bit number of a character of the alphabet. -/
def value? (symbol : UInt8) : Option Nat :=
  if 65 ≤ symbol ∧ symbol ≤ 90 then some (symbol.toNat - 65)
  else if 97 ≤ symbol ∧ symbol ≤ 122 then some (symbol.toNat - 71)
  else if 48 ≤ symbol ∧ symbol ≤ 57 then some (symbol.toNat + 4)
  else if symbol = 43 then some 62
  else if symbol = 47 then some 63
  else none

/-- The padding character. -/
def pad : UInt8 := 61

/-- Four characters for every three bytes, the last group padded. -/
def encode : Bytes → Bytes
  | first :: second :: third :: rest =>
      symbol (first.toNat / 4) ::
        symbol (first.toNat % 4 * 16 + second.toNat / 16) ::
        symbol (second.toNat % 16 * 4 + third.toNat / 64) ::
        symbol (third.toNat % 64) :: encode rest
  | [first, second] =>
      [symbol (first.toNat / 4), symbol (first.toNat % 4 * 16 + second.toNat / 16),
        symbol (second.toNat % 16 * 4), pad]
  | [first] => [symbol (first.toNat / 4), symbol (first.toNat % 4 * 16), pad, pad]
  | [] => []

/-- The three bytes of a group without padding. -/
def group? (first second third fourth : UInt8) : Option Bytes := do
  let firstValue ← value? first
  let secondValue ← value? second
  let thirdValue ← value? third
  let fourthValue ← value? fourth
  return [UInt8.ofNat (firstValue * 4 + secondValue / 16),
    UInt8.ofNat (secondValue % 16 * 16 + thirdValue / 4),
    UInt8.ofNat (thirdValue % 4 * 64 + fourthValue)]

/-- The bytes of the last group, which may be padded; bits that no byte uses must be clear. -/
def lastGroup? (first second third fourth : UInt8) : Option Bytes :=
  if fourth ≠ pad then group? first second third fourth
  else do
    let firstValue ← value? first
    let secondValue ← value? second
    let firstByte := UInt8.ofNat (firstValue * 4 + secondValue / 16)
    if third = pad then
      if secondValue % 16 = 0 then some [firstByte] else none
    else
      let thirdValue ← value? third
      if thirdValue % 4 = 0 then
        some [firstByte, UInt8.ofNat (secondValue % 16 * 16 + thirdValue / 4)]
      else none

/-- The bytes that a text in base64 stands for. -/
def decode? : Bytes → Option Bytes
  | [] => some []
  | [first, second, third, fourth] => lastGroup? first second third fourth
  | first :: second :: third :: fourth :: rest => do
      let bytes ← group? first second third fourth
      let others ← decode? rest
      return bytes ++ others
  | _ => none

end Base64

end SmpClient
