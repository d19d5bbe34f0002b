import SmpClient.Cbor.Float
import SmpClient.Cbor.Value

/-!
# Writing values

Every length and integer is written with the shortest head that holds it, and every float in
the narrowest format that keeps its value.  Maps are written in the order of their entries.
-/

namespace SmpClient

namespace Cbor

/-- The head of an item: its major type and an argument, with the fewest bytes. -/
def head (major argument : Nat) : Bytes :=
  if argument < 24 then [UInt8.ofNat (major * 32 + argument)]
  else if argument < 0x100 then UInt8.ofNat (major * 32 + 24) :: Bytes.ofNat 1 argument
  else if argument < 0x10000 then UInt8.ofNat (major * 32 + 25) :: Bytes.ofNat 2 argument
  else if argument < 0x100000000 then UInt8.ofNat (major * 32 + 26) :: Bytes.ofNat 4 argument
  else UInt8.ofNat (major * 32 + 27) :: Bytes.ofNat 8 argument

def headLength (argument : Nat) : Nat :=
  if argument < 24 then 1
  else if argument < 0x100 then 2
  else if argument < 0x10000 then 3
  else if argument < 0x100000000 then 5
  else 9

@[simp]
theorem length_head (major argument : Nat) :
    (head major argument).length = headLength argument := by
  unfold head headLength
  split
  · rfl
  split
  · simp
  split
  · simp
  split <;> simp

/-- A float in the narrowest format that keeps its value. -/
def encodeFloat (bits : UInt64) : Bytes :=
  if isNaN bits then [0xf9, 0x7e, 0x00]
  else match FloatFormat.half.narrow? bits with
    | some narrow => 0xf9 :: Bytes.ofNat 2 narrow
    | none => match FloatFormat.single.narrow? bits with
      | some narrow => 0xfa :: Bytes.ofNat 4 narrow
      | none => 0xfb :: Bytes.ofNat 8 bits.toNat

namespace Value

mutual

def encode : Value → Bytes
  | .null => [0xf6]
  | .bool false => [0xf4]
  | .bool true => [0xf5]
  | .int (.ofNat number) => head 0 number
  | .int (.negSucc number) => head 1 number
  | .float bits => encodeFloat bits
  | .bytes content => head 2 content.length ++ content
  | .text content => head 3 (Bytes.ofText content).length ++ Bytes.ofText content
  | .array items => head 4 items.length ++ encodeItems items
  | .map entries => head 5 entries.length ++ encodeEntries entries

/-- The bytes of values, one after the other. -/
def encodeItems : List Value → Bytes
  | [] => []
  | item :: rest => encode item ++ encodeItems rest

/-- The bytes of entries, each key before its value. -/
def encodeEntries : List (Value × Value) → Bytes
  | [] => []
  | (key, value) :: rest => encode key ++ (encode value ++ encodeEntries rest)

end

end Value

end Cbor

end SmpClient
