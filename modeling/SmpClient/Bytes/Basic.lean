/-!
# Byte strings and the numbers written in them

Everything that crosses a link is a `Bytes`, a list of bytes.  Numbers are written in
big-endian order in headers and frames and in little-endian order in firmware files.
-/

namespace SmpClient

abbrev Bytes := List UInt8

namespace Bytes

/-- The number whose base-256 digits, most significant first, are `bytes`. -/
def toNat (bytes : Bytes) : Nat :=
  bytes.foldl (fun high byte => high * 256 + byte.toNat) 0

/-- The low `width` base-256 digits of `number`, most significant first. -/
def ofNat : (width number : Nat) → Bytes
  | 0, _ => []
  | width + 1, number => UInt8.ofNat (number / Nat.pow 256 width) :: ofNat width number

@[simp]
theorem length_ofNat (width number : Nat) : (ofNat width number).length = width := by
  induction width with
  | zero => rfl
  | succ width ih => simp [ofNat, ih]

/-- The number whose base-256 digits, least significant first, are `bytes`. -/
def toNatLittle (bytes : Bytes) : Nat :=
  bytes.foldr (fun byte high => byte.toNat + 256 * high) 0

/-- The `length` bytes that start at `offset`, fewer where the string ends. -/
def slice (bytes : Bytes) (offset length : Nat) : Bytes :=
  (bytes.drop offset).take length

@[simp]
theorem slice_zero (bytes : Bytes) (offset : Nat) : bytes.slice offset 0 = [] := by
  simp [slice]

theorem length_slice (bytes : Bytes) (offset length : Nat) :
    (bytes.slice offset length).length = min length (bytes.length - offset) := by
  simp [slice]

def ofText (text : String) : Bytes :=
  text.toUTF8.toList

/-- The text that `bytes` encode, if they are well-formed UTF-8. -/
def toText? (bytes : Bytes) : Option String :=
  String.fromUTF8? (ByteArray.mk bytes.toArray)

end Bytes

end SmpClient
