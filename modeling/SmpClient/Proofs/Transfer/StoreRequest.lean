import SmpClient.Proofs.Packet.Payload
import SmpClient.Transfer.Chunk

/-!
# What a device reads in a chunk

A device learns of a chunk only by the packet.  Under every envelope, and for images as for
files, it reads the offset, the bytes of the data from there on, and whether the request
announces the length of all, which the first chunk does and no other.
-/

namespace SmpClient

/-- What a device reads in a request to store a chunk. -/
structure StoreRequest where
  offset : Nat
  data : Bytes
  /-- Whether the length of all is announced. -/
  announces : Bool
  deriving DecidableEq

/-- The request in a packet, if there is one. -/
def StoreRequest.read? (scheme : Scheme) (packet : Bytes) : Option StoreRequest :=
  match Cbor.Value.decode (Response.payloadOf scheme packet) with
  | .ok (.map entries) =>
      match Cbor.Value.entry? entries "off", Cbor.Value.entry? entries "data" with
      | some (.int (.ofNat offset)), some (.bytes data) =>
          some { offset, data, announces := (Cbor.Value.entry? entries "len").isSome }
      | _, _ => none
  | _ => none

/-- Whether a destination can be named: images have indexes of 32 bits, and a path has a length
of 64. -/
def Destination.Representable : Destination → Prop
  | .image index => index < 2 ^ 32
  | .file path => (Bytes.ofText path).length < 2 ^ 64

instance (destination : Destination) : Decidable destination.Representable :=
  match destination with
  | .image index => inferInstanceAs (Decidable (index < 2 ^ 32))
  | .file path => inferInstanceAs (Decidable ((Bytes.ofText path).length < 2 ^ 64))

namespace Cbor

namespace Value

theorem PlainFields.nil : PlainFields [] :=
  ⟨by simp, by simp, by simp, by simp, by simp⟩

theorem PlainFields.cons_bytes {name : String} {content : Bytes} {fields : List (String × Value)}
    (plain : PlainFields fields) (fresh : name ∉ fields.map Prod.fst)
    (named : (Bytes.ofText name).length < 2 ^ 64) (fits : content.length < 2 ^ 64)
    (count : fields.length + 1 < 2 ^ 32) : PlainFields ((name, .bytes content) :: fields) :=
  plain.cons fresh named (by simp [Value.canonical]) (fun _ => fits) count

theorem PlainFields.cons_nat {name : String} {number : Nat} {fields : List (String × Value)}
    (plain : PlainFields fields) (fresh : name ∉ fields.map Prod.fst)
    (named : (Bytes.ofText name).length < 2 ^ 64) (fits : number < 2 ^ 64)
    (count : fields.length + 1 < 2 ^ 32) : PlainFields ((name, .nat number) :: fields) :=
  plain.cons fresh named (by simp [Value.canonical]) (fun _ => fits) count

theorem PlainFields.cons_text {name content : String} {fields : List (String × Value)}
    (plain : PlainFields fields) (fresh : name ∉ fields.map Prod.fst)
    (named : (Bytes.ofText name).length < 2 ^ 64) (fits : (Bytes.ofText content).length < 2 ^ 64)
    (count : fields.length + 1 < 2 ^ 32) : PlainFields ((name, .text content) :: fields) :=
  plain.cons fresh named (by simp [Value.canonical]) (fun _ => fits) count

end Value

end Cbor

namespace Destination

open Cbor.Value (PlainFields)

/-- The fields of a request that stores the `length` bytes at `offset`. -/
structure ChunkFields (data : Bytes) (offset length : Nat) (fields : List (String × Cbor.Value)) :
    Prop where
  plain : PlainFields fields
  count : fields.length ≤ 8
  unreserved : Packet.headerKey ∉ fields.map Prod.fst
  offset_eq : fields.lookup "off" = some (.nat (wrap32 offset))
  data_eq : fields.lookup "data" = some (.bytes (data.slice offset length))
  announces_eq : (fields.lookup "len").isSome = (offset == 0)

theorem wrap32_lt (number : Nat) : wrap32 number < 2 ^ 64 := by
  rw [wrap32]
  omega

section

variable {data : Bytes} (data_lt : data.length < 2 ^ 64) (offset length : Nat)

include data_lt

private theorem length_slice_lt : (data.slice offset length).length < 2 ^ 64 := by
  rw [Bytes.length_slice]
  omega

/-- The first chunk of an image also carries the digest and, for another image than the primary
one, the index. -/
theorem chunkFields_image {index : Nat} (index_lt : index < 2 ^ 32) :
    ∃ fields, (Destination.image index).chunk data offset length = .record fields ∧
      ChunkFields data offset length fields := by
  have slice_lt := length_slice_lt data_lt offset length
  have total_lt := wrap32_lt data.length
  have offset_fits := wrap32_lt offset
  have digest_lt : (Sha256.digest data).length < 2 ^ 64 := by
    rw [Sha256.length_digest]
    decide
  by_cases first : offset = 0
  · have last : PlainFields [("len", .nat (wrap32 data.length)), ("off", .nat (wrap32 offset)),
        ("sha", .bytes (Sha256.digest data))] :=
      ((PlainFields.nil.cons_bytes (by simp) (by decide +kernel) digest_lt (by simp)).cons_nat
        (by simp) (by decide +kernel) offset_fits (by simp)).cons_nat
        (by simp) (by decide +kernel) total_lt (by simp)
    by_cases primary : index = 0
    · refine ⟨("data", .bytes (data.slice offset length)) :: _, ?_,
        last.cons_bytes (by simp) (by decide +kernel) slice_lt (by simp), ?_, ?_, ?_, ?_, ?_⟩
      · simp [chunk, Message.imageChunk, Cbor.Value.optionalField, first, primary, wrap32]
      all_goals simp [Packet.headerKey, List.lookup_cons, first]
    · refine ⟨("data", .bytes (data.slice offset length)) :: ("image", .nat index) :: _, ?_,
        (last.cons_nat (by simp) (by decide +kernel) (by omega) (by simp)).cons_bytes
          (by simp) (by decide +kernel) slice_lt (by simp), ?_, ?_, ?_, ?_, ?_⟩
      · simp [chunk, Message.imageChunk, Cbor.Value.optionalField, first, primary, wrap32]
      all_goals simp [Packet.headerKey, List.lookup_cons, first]
  · refine ⟨[("data", .bytes (data.slice offset length)), ("off", .nat (wrap32 offset))], ?_,
      (PlainFields.nil.cons_nat (by simp) (by decide +kernel) offset_fits (by simp)).cons_bytes
        (by simp) (by decide +kernel) slice_lt (by simp), ?_, ?_, ?_, ?_, ?_⟩
    · simp [chunk, Message.imageChunk, Cbor.Value.optionalField, first]
    all_goals simp [Packet.headerKey, List.lookup_cons, first]

theorem chunkFields_file {path : String} (path_lt : (Bytes.ofText path).length < 2 ^ 64) :
    ∃ fields, (Destination.file path).chunk data offset length = .record fields ∧
      ChunkFields data offset length fields := by
  have slice_lt := length_slice_lt data_lt offset length
  have total_lt := wrap32_lt data.length
  have offset_fits := wrap32_lt offset
  have named {last : List (String × Cbor.Value)}
      (plain : PlainFields (("data", .bytes (data.slice offset length)) :: last))
      (fresh : "off" ∉ last.map Prod.fst ∧ "name" ∉ last.map Prod.fst)
      (few : last.length ≤ 1) :
      PlainFields (("name", .text path) :: ("off", .nat (wrap32 offset)) ::
        ("data", .bytes (data.slice offset length)) :: last) :=
    (plain.cons_nat (by simpa using fresh.1) (by decide +kernel) offset_fits
      (by simp only [List.length_cons]; omega)).cons_text (by simpa using fresh.2)
      (by decide +kernel) path_lt (by simp only [List.length_cons]; omega)
  by_cases first : offset = 0
  · have last : PlainFields [("len", .nat (wrap32 data.length))] :=
      PlainFields.nil.cons_nat (by simp) (by decide +kernel) total_lt (by simp)
    refine ⟨_, ?_, named (last.cons_bytes (by simp) (by decide +kernel) slice_lt (by simp))
      (by simp) (by simp), ?_, ?_, ?_, ?_, ?_⟩
    · simp [chunk, Message.fileChunk, Cbor.Value.optionalField, first, wrap32]
    all_goals simp [Packet.headerKey, List.lookup_cons, first]
  · refine ⟨_, ?_, named (PlainFields.nil.cons_bytes (by simp) (by decide +kernel) slice_lt
      (by simp)) (by simp) (by simp), ?_, ?_, ?_, ?_, ?_⟩
    · simp [chunk, Message.fileChunk, Cbor.Value.optionalField, first]
    all_goals simp [Packet.headerKey, List.lookup_cons, first]

theorem exists_chunkFields {destination : Destination}
    (representable : destination.Representable) :
    ∃ fields, destination.chunk data offset length = .record fields ∧
      ChunkFields data offset length fields := by
  cases destination with
  | image index => exact chunkFields_image data_lt offset length representable
  | file path => exact chunkFields_file data_lt offset length representable

end

end Destination

namespace Upload

/-- What can be uploaded: less data than an offset of 32 bits can address, to a destination that
can be named. -/
structure Representable (upload : Upload) : Prop where
  data_lt : upload.data.length < 2 ^ 32
  destination : upload.destination.Representable

/-- A device reads in a chunk exactly the bytes at its offset. -/
theorem read?_chunkPacket {upload : Upload} (representable : upload.Representable) {seq : UInt8}
    {offset length : Nat} (within : offset ≤ upload.data.length) {packet : Bytes}
    (built : upload.chunkPacket seq offset length = .ok packet) :
    StoreRequest.read? upload.scheme packet =
      some { offset, data := upload.data.slice offset length, announces := offset == 0 } := by
  have data_lt := representable.data_lt
  have offsetEq : Destination.wrap32 offset = offset :=
    Nat.mod_eq_of_lt (Nat.lt_of_le_of_lt within data_lt)
  obtain ⟨fields, chunkEq, chunk⟩ := Destination.exists_chunkFields
    (Nat.lt_trans data_lt (by decide)) offset length representable.destination
  rw [chunkPacket, chunkEq] at built
  obtain ⟨entries, decoded, found⟩ := Packet.decode_build chunk.plain chunk.unreserved
    (by have := chunk.count; omega) built
  have offsetFound : Cbor.Value.entry? entries "off" = some (.int (.ofNat offset)) := by
    rw [found "off" (by decide), chunk.offset_eq, offsetEq]
    rfl
  have dataFound : Cbor.Value.entry? entries "data" =
      some (.bytes (upload.data.slice offset length)) := by
    rw [found "data" (by decide), chunk.data_eq]
  have lengthFound : (Cbor.Value.entry? entries "len").isSome = (offset == 0) := by
    rw [found "len" (by decide), chunk.announces_eq]
  simp only [StoreRequest.read?, decoded, offsetFound, dataFound, lengthFound]

end Upload

end SmpClient
