import SmpClient.Bytes.Sha256
import SmpClient.Message.File
import SmpClient.Message.Image
import SmpClient.Packet.Response

/-!
# Chunks of an upload

An upload sends its data in chunks, each as large as the link allows.  To size a chunk the
request is first built without data: it shows what the other fields take.  The first chunk
carries more fields than the others.
-/

namespace SmpClient

/-- Where uploaded data goes. -/
inductive Destination
  | image (index : Nat)
  | file (path : String)
  deriving DecidableEq, Inhabited

namespace Destination

/-- The management group that stores the data. -/
def group : Destination → Group
  | .image _ => .image
  | .file _ => .file

/-- The number of the command that stores a chunk. -/
def id : Destination → UInt8
  | .image _ => 1
  | .file _ => 0

/-- Offsets and lengths are written in 32 bits. -/
def wrap32 (number : Nat) : Nat :=
  number % 0x100000000

/-- The request that stores the `length` bytes of `data` at `offset`.  The first chunk announces
the length of all, and for images their digest and the image they are for. -/
def chunk (destination : Destination) (data : Bytes) (offset length : Nat) : Cbor.Value :=
  let first := offset == 0
  let total := if first then some (wrap32 data.length) else none
  match destination with
  | .image index =>
      Message.imageChunk
        { data := data.slice offset length
          image := if first && index != 0 then some index else none
          length := total
          offset := wrap32 offset
          digest := if first then some (Sha256.digest data) else none }
  | .file path => Message.fileChunk path (wrap32 offset) (data.slice offset length) total

end Destination

/-- What is uploaded and how: the data, its destination, the envelope of the link, the longest
packet and the alignment of chunks. -/
structure Upload where
  scheme : Scheme
  destination : Destination
  data : Bytes
  mtu : Nat
  alignment : Nat
  deriving Inhabited

namespace Upload

/-- The packet that stores the `length` bytes at `offset`. -/
def chunkPacket (upload : Upload) (seq : UInt8) (offset length : Nat) : Except Error Bytes :=
  Packet.build upload.scheme .write 0 upload.destination.group.number seq upload.destination.id
    (upload.destination.chunk upload.data offset length)

def headLength (length : Nat) : Nat :=
  if length ≤ 23 then 1
  else if length ≤ 0xff then 2
  else if length ≤ 0xffff then 3
  else if length ≤ 0xffffffff then 5
  else 9

/-- The last of the next `steps` lengths which, with their heads, all fit `room`. -/
def growWithin (room : Nat) : (steps length : Nat) → Nat
  | 0, length => length
  | steps + 1, length =>
      if length + 1 + headLength (length + 1) ≤ room then growWithin room steps (length + 1)
      else length

/-- The greatest length which, with its head, fits `room`.  Setting aside the longest head that
could be needed is off by less than the length of a head. -/
def fitting (room : Nat) : Nat :=
  growWithin room 8 (room - headLength room)

/-- `length` bytes of `remaining` ones: all but the last chunk are cut to the alignment. -/
def aligned (alignment remaining length : Nat) : Nat :=
  let length := min length remaining
  if length < remaining then length - length % max alignment 1 else length

/-- What a request without data takes on the link, less the head of its empty byte string. -/
def fixedLength (upload : Upload) (emptyPacket : Bytes) : Nat :=
  emptyPacket.length + upload.scheme.framingOverhead - 1

/-- The length of the chunk at `offset`.  The request that is built to size it has the sequence
number `seq`. -/
def chunkLength (upload : Upload) (seq : UInt8) (offset : Nat) : Except Error Nat := do
  let remaining := upload.data.length - offset
  let fixed := upload.fixedLength (← upload.chunkPacket seq offset 0)
  let length := aligned upload.alignment remaining (fitting (upload.mtu - fixed))
  if length = 0 ∧ 0 < remaining then
    let smallest := min (max upload.alignment 1) remaining
    throw (.insufficientMtu (fixed + headLength smallest + smallest) upload.mtu)
  else return length

/-- A chunk that is ready to be sent. -/
structure Chunk where
  packet : Bytes
  length : Nat
  deriving Inhabited

/-- The chunk at `offset`, and the next sequence number.  Sizing takes one number and the chunk
another. -/
def nextChunk (upload : Upload) (seq : UInt8) (offset : Nat) : Except Error Chunk × UInt8 :=
  match upload.chunkLength seq offset with
  | .error failure => (.error failure, seq + 1)
  | .ok length =>
      ((upload.chunkPacket (seq + 1) offset length).map fun packet => { packet, length },
        seq + 2)

/-- The chunks from an offset on, at most `count`, with their offsets; they end with the data, at a
chunk without data, or with a failure. -/
def chunks (upload : Upload) : (count : Nat) → UInt8 → (offset : Nat) →
    List (Except Error (Nat × Chunk))
  | 0, _, _ => []
  | count + 1, seq, offset =>
      match upload.nextChunk seq offset with
      | (.error failure, _) => [.error failure]
      | (.ok chunk, seq) =>
          let after := offset + chunk.length
          .ok (offset, chunk) ::
            (if chunk.length = 0 ∨ upload.data.length ≤ after then []
            else chunks upload count seq after)

/-- The offset that a response to a chunk acknowledges, which is within the data. -/
def acknowledged (upload : Upload) (response : Response) : Except Error Nat := do
  let offset ← (← response.check).uploadOffset
  if upload.data.length < offset then
    throw (.malformedResponse (.offsetBeyond offset upload.data.length))
  else return offset

end Upload

end SmpClient
