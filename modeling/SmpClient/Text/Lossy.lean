import SmpClient.Bytes.Basic

/-!
# Reading text that may be damaged

Log messages can hold bytes that are not UTF-8.  Each longest piece that starts a
well-formed character without completing it, and each byte that starts none, becomes one
replacement character.
-/

namespace SmpClient

namespace Text

/-- The character that stands for damage. -/
def replacement : Char := '\ufffd'

/-- Whether `byte` continues a character. -/
def isContinuation (byte : UInt8) : Bool :=
  0x80 ≤ byte && byte ≤ 0xbf

/-- How many bytes follow `lead` in its character, and the range of the first of them. -/
def leadShape? (lead : UInt8) : Option (Nat × UInt8 × UInt8) :=
  if 0xc2 ≤ lead && lead ≤ 0xdf then some (1, 0x80, 0xbf)
  else if lead = 0xe0 then some (2, 0xa0, 0xbf)
  else if lead = 0xed then some (2, 0x80, 0x9f)
  else if 0xe1 ≤ lead && lead ≤ 0xef then some (2, 0x80, 0xbf)
  else if lead = 0xf0 then some (3, 0x90, 0xbf)
  else if 0xf1 ≤ lead && lead ≤ 0xf3 then some (3, 0x80, 0xbf)
  else if lead = 0xf4 then some (3, 0x80, 0x8f)
  else none

/-- The length of the well-formed part of the bytes after a lead byte that wants `count` more,
the first of them between `low` and `high`. -/
def tailLength (count : Nat) (low high : UInt8) : Bytes → Nat
  | [] => 0
  | byte :: rest =>
      if count > 0 && low ≤ byte && byte ≤ high then
        1 + ((rest.take (count - 1)).takeWhile isContinuation).length
      else 0

/-- The number of the character with the given lead and the continuing bytes. -/
def codePoint (lead : UInt8) (tail : Bytes) : Nat :=
  let high := match tail.length with
    | 1 => lead.toNat % 32
    | 2 => lead.toNat % 16
    | _ => lead.toNat % 8
  tail.foldl (fun value byte => value * 64 + byte.toNat % 64) high

/-- The characters of `bytes`, damage replaced; `fuel` bounds their number. -/
def lossyChars : (fuel : Nat) → Bytes → List Char
  | 0, _ => []
  | _ + 1, [] => []
  | fuel + 1, lead :: rest =>
      if lead < 0x80 then Char.ofNat lead.toNat :: lossyChars fuel rest
      else match leadShape? lead with
        | none => replacement :: lossyChars fuel rest
        | some (count, low, high) =>
            let found := tailLength count low high rest
            let character :=
              if found = count then Char.ofNat (codePoint lead (rest.take count)) else replacement
            character :: lossyChars fuel (rest.drop found)

/-- The text in `bytes`, damage replaced. -/
def ofBytesLossy (bytes : Bytes) : String :=
  String.ofList (lossyChars bytes.length bytes)

end Text

end SmpClient
