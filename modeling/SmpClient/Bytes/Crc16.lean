import SmpClient.Bytes.Basic

/-!
# The 16-bit checksum of serial frames

The cyclic redundancy check with polynomial `x^16 + x^12 + x^5 + 1`, starting from zero, most
significant bit first, and with no final inversion.
-/

namespace SmpClient

namespace Crc16

/-- Shift out one bit, and fold in the polynomial if it was set. -/
def shift (register : UInt16) : UInt16 :=
  if register &&& 0x8000 = 0 then register <<< 1 else (register <<< 1) ^^^ 0x1021

/-- The register after `byte`. -/
def update (register : UInt16) (byte : UInt8) : UInt16 :=
  Nat.repeat shift 8 (register ^^^ (byte.toUInt16 <<< 8))

def ofBytes (bytes : Bytes) : UInt16 :=
  bytes.foldl update 0

end Crc16

end SmpClient
