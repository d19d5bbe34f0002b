import SmpClient.Bytes.Hex
import SmpClient.Message.Basic

/-!
# Messages about files

Reading and writing a file in chunks, its size, and checksums of it.
-/

namespace SmpClient

/-- A chunk of a file as a device sends it; the length of the whole file comes with the first. -/
structure FileChunk where
  offset : Nat
  data : Bytes
  length : Option Nat := none
  deriving DecidableEq, Inhabited

/-- The offset and the length of a chunk are below `bound`. -/
def FileChunk.readBelow (bound : Nat) : Cbor.Reader FileChunk := fun value => do
  let fields ← Cbor.Reader.fields ["off", "data", "len"] value
  return {
    offset := ← fields.required "off" (Cbor.Reader.natBelow bound)
    data := ← fields.required "data" Cbor.Reader.blob
    length := ← fields.optional "len" none (Cbor.Reader.optional (Cbor.Reader.natBelow bound)) }

/-- A chunk with an offset and a length of 32 bits. -/
def FileChunk.read : Cbor.Reader FileChunk := FileChunk.readBelow 0x100000000

instance : Cbor.Payload FileChunk where
  toValue chunk := .record [("off", .nat chunk.offset), ("data", .bytes chunk.data),
    ("len", .orNull .nat chunk.length)]

/-- The size of a file. -/
structure FileStatus where
  length : Nat
  deriving DecidableEq, Inhabited

/-- The size must be there. -/
def FileStatus.read : Cbor.Reader FileStatus := fun value => do
  let fields ← Cbor.Reader.fields ["len"] value
  return { length := ← fields.required "len" Cbor.Reader.nat32 }

instance : Cbor.Payload FileStatus where
  toValue status := .record [("len", .nat status.length)]

/-- A checksum of part of a file: bytes for digests, a number for short checks. -/
structure FileHash where
  kind : String
  offset : Nat := 0
  length : Nat
  output : Cbor.Value
  deriving Inhabited

namespace FileHash

/-- All but the offset must be there. -/
def read : Cbor.Reader FileHash := fun value => do
  let fields ← Cbor.Reader.fields ["type", "off", "len", "output"] value
  return {
    kind := ← fields.required "type" Cbor.Reader.text
    offset := ← fields.optional "off" 0 Cbor.Reader.nat32
    length := ← fields.required "len" Cbor.Reader.nat32
    output := ← fields.required "output" Cbor.Reader.value }

/-- The checksum in hexadecimal; a negative number is shown modulo 2 to the 128, and a value
that is neither bytes nor a number as diagnostics show it. -/
def outputText (hash : FileHash) : String :=
  match hash.output with
  | .bytes content => Bytes.toHex content
  | .int number => hexNumber 8 (number % Nat.pow 2 128).toNat
  | other => other.shown

end FileHash

/-- What the device says of one kind of checksum. -/
structure HashKind where
  format : Nat := 0
  size : Nat := 0
  deriving DecidableEq, Inhabited

/-- Both numbers may be left out. -/
def HashKind.read : Cbor.Reader HashKind := fun value => do
  let fields ← Cbor.Reader.fields ["format", "size"] value
  return {
    format := ← fields.optional "format" 0 Cbor.Reader.nat32
    size := ← fields.optional "size" 0 Cbor.Reader.nat32 }

/-- A kind of checksum as a record of both its fields. -/
def HashKind.toValue (kind : HashKind) : Cbor.Value :=
  .record [("format", .nat kind.format), ("size", .nat kind.size)]

/-- The kinds of checksums that a device computes, by name. -/
structure HashKinds where
  kinds : List (String × HashKind) := []
  deriving DecidableEq, Inhabited

/-- The table may be left out. -/
def HashKinds.read : Cbor.Reader HashKinds := fun value => do
  let fields ← Cbor.Reader.fields ["types"] value
  return { kinds := ← fields.optional "types" [] (Cbor.Reader.table HashKind.read) }

instance : Cbor.Payload HashKinds where
  toValue list := .record [("types", .table HashKind.toValue list.kinds)]

namespace Message

open Cbor.Value (optionalField)

/-- Asks for the chunk of a file at an offset. -/
def fetchFile (name : String) (offset : Nat) : Cbor.Value :=
  .record [("name", .text name), ("off", .nat offset)]

/-- Stores a chunk of a file; the first one announces the length of all. -/
def fileChunk (name : String) (offset : Nat) (data : Bytes) (length : Option Nat) : Cbor.Value :=
  .record ([("name", .text name), ("off", .nat offset), ("data", .bytes data)] ++
    optionalField "len" length .nat)

/-- Asks for the size of a file. -/
def fileStatus (name : String) : Cbor.Value :=
  .record [("name", .text name)]

/-- Asks for a checksum of a file, or of a part of it. -/
def fileHash (name : String) (kind : Option String) (offset length : Option Nat) : Cbor.Value :=
  .record ([("name", .text name)] ++ optionalField "type" kind .text ++
    optionalField "off" offset .nat ++ optionalField "len" length .nat)

end Message

end SmpClient
