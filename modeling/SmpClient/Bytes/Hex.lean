import SmpClient.Bytes.Basic
import SmpClient.Text.Quoted

/-!
# Hexadecimal text

Hashes and setting values are shown and entered as hexadecimal digits, two a byte.  Written
text has small letters; read text may have either case.
-/

namespace SmpClient

namespace Bytes

/-- The digit of a number below 16. -/
def hexDigit (number : Nat) : Char :=
  if number < 10 then Char.ofNat (48 + number) else Char.ofNat (87 + number)

/-- Two hexadecimal digits a byte. -/
def toHex (bytes : Bytes) : String :=
  String.ofList (bytes.flatMap fun byte =>
    [hexDigit (byte.toNat / 16), hexDigit (byte.toNat % 16)])

/-- The value of a hexadecimal digit, given by its byte. -/
def hexValue? (digit : UInt8) : Option Nat :=
  if 48 ≤ digit ∧ digit ≤ 57 then some (digit.toNat - 48)
  else if 97 ≤ digit ∧ digit ≤ 102 then some (digit.toNat - 87)
  else if 65 ≤ digit ∧ digit ≤ 70 then some (digit.toNat - 55)
  else none

/-- Why a text is not a row of hexadecimal bytes. -/
inductive HexError
  | oddLength
  | badDigit (digit : UInt8) (position : Nat)
  deriving DecidableEq

/-- Each byte of a refused text is shown as the character with its number. -/
def HexError.message : HexError → String
  | .oddLength => "Odd number of digits"
  | .badDigit digit position =>
      "Invalid character " ++ Quoted.character (Char.ofNat digit.toNat) ++
        " at position " ++ toString position

/-- Reads pairs of digits; `position` counts the bytes before them. -/
def ofHexPairs : (position : Nat) → Bytes → Except HexError Bytes
  | position, high :: low :: rest =>
      match hexValue? high, hexValue? low with
      | none, _ => .error (.badDigit high position)
      | some _, none => .error (.badDigit low (position + 1))
      | some highValue, some lowValue =>
          (ofHexPairs (position + 2) rest).map (UInt8.ofNat (highValue * 16 + lowValue) :: ·)
  | _, _ => .ok []

/-- Reads a text of hexadecimal digits; an odd length is reported before any bad digit. -/
def ofHex (text : String) : Except HexError Bytes :=
  let digits := ofText text
  if digits.length % 2 ≠ 0 then .error .oddLength else ofHexPairs 0 digits

end Bytes

/-- `number` in hexadecimal, padded with zeros to at least `width` digits. -/
def hexNumber (width number : Nat) : String :=
  let digits := Nat.toDigits 16 number
  String.ofList (List.replicate (width - digits.length) '0' ++ digits)

end SmpClient
