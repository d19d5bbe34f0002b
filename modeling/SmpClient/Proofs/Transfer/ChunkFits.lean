import SmpClient.Proofs.Packet.PacketLength
import SmpClient.Proofs.Transfer.Chunk
import SmpClient.Proofs.Transfer.StoreRequest

/-!
# Chunks that fit

The first request of an upload carries all that later ones carry, and the length of the data besides.
So if the first chunk can be sized there is room for a chunk at every later offset.
-/

namespace SmpClient

/-- An upload of data that memory can hold, to a destination that can be named. -/
structure Upload.Addressable (upload : Upload) : Prop where
  data_lt : upload.data.length < 2 ^ 64
  destination : upload.destination.Representable

namespace Cbor

theorem headLength_mono {first second : Nat} (first_le : first ≤ second) :
    headLength first ≤ headLength second := by
  unfold headLength
  split_ifs <;> omega

theorem headLength_pos (argument : Nat) : 0 < headLength argument := by
  unfold headLength
  split_ifs <;> decide

theorem headLength_le (argument : Nat) : headLength argument ≤ 9 := by
  unfold headLength
  split_ifs <;> decide

theorem headLength_le_five {argument : Nat} (argument_lt : argument < 2 ^ 32) :
    headLength argument ≤ 5 := by
  unfold headLength
  split_ifs <;> omega

end Cbor

namespace Upload

/-! ## Byte strings and their heads -/

/-- The head of a byte string is the head of an item. -/
theorem headLength_eq (length : Nat) : headLength length = Cbor.headLength length := by
  unfold headLength Cbor.headLength
  split_ifs <;> omega

/-- A length that grows keeps fitting. -/
theorem growWithin_fits (room steps length : Nat) :
    growWithin room steps length = length ∨
      growWithin room steps length + headLength (growWithin room steps length) ≤ room := by
  induction steps generalizing length with
  | zero => exact .inl rfl
  | succ steps ih =>
      rw [growWithin]
      split
      · rename_i fits
        rcases ih (length + 1) with same | grown
        · rw [same]
          exact .inr fits
        · exact .inr grown
      · exact .inl rfl

theorem le_growWithin_of_fits {room target : Nat} (fits : target + headLength target ≤ room)
    {steps length : Nat} (near : target ≤ length + steps) :
    target ≤ growWithin room steps length := by
  induction steps generalizing length with
  | zero => exact near
  | succ steps ih =>
      rw [growWithin]
      split
      · exact ih (by omega)
      · rename_i full
        by_contra beyond
        have next_le : length + 1 ≤ target := by omega
        have head_le := Cbor.headLength_mono next_le
        rw [← headLength_eq, ← headLength_eq] at head_le
        omega

/-- Every length that fits with its head is at most `fitting`. -/
theorem le_fitting {room target : Nat} (fits : target + headLength target ≤ room) :
    target ≤ fitting room := by
  have head_pos := Cbor.headLength_pos target
  have head_le := Cbor.headLength_le room
  rw [← headLength_eq] at head_pos head_le
  exact le_growWithin_of_fits fits (by omega)

theorem fitting_fits {room : Nat} (pos : 0 < fitting room) :
    fitting room + headLength (fitting room) ≤ room := by
  rw [fitting] at pos ⊢
  rcases growWithin_fits room 8 (room - headLength room) with same | grown
  · rw [same] at pos ⊢
    have head_le : headLength (room - headLength room) ≤ headLength room := by
      rw [headLength_eq (room - headLength room)]
      exact headLength_eq room ▸ Cbor.headLength_mono (Nat.sub_le _ _)
    omega
  · exact grown

theorem fitting_mono {first second : Nat} (first_le : first ≤ second) :
    fitting first ≤ fitting second := by
  rcases Nat.eq_zero_or_pos (fitting first) with none | some
  · rw [none]
    exact Nat.zero_le _
  · exact le_fitting (Nat.le_trans (fitting_fits some) first_le)

/-- Where there is room for one aligned chunk of much data there is room for a chunk of less data,
and more room does no harm. -/
theorem aligned_pos {alignment more less first second : Nat} (less_pos : 0 < less)
    (less_le : less ≤ more) (first_le : first ≤ second)
    (sized : 0 < aligned alignment more first) : 0 < aligned alignment less second := by
  have unit_pos : 0 < max alignment 1 := Nat.lt_of_lt_of_le Nat.zero_lt_one (Nat.le_max_right _ _)
  simp only [aligned] at sized ⊢
  split
  · rename_i short
    have second_lt : second < less := by omega
    have first_lt : first < more := by omega
    rw [if_pos (by omega), Nat.min_eq_left (by omega)] at sized
    rw [Nat.min_eq_left (by omega)]
    have unit_le : max alignment 1 ≤ first := by
      by_contra beyond
      rw [Nat.mod_eq_of_lt (Nat.lt_of_not_le beyond)] at sized
      omega
    have rest_lt := Nat.mod_lt second unit_pos
    omega
  · omega

/-! ## Requests without data -/

section

open Cbor Cbor.Value

/-- A later request is shorter than the first one: an offset takes less than a length. -/
theorem length_chunk_le (destination : Destination) (data : Bytes) (offset : Nat) :
    (destination.chunk data offset 0).encode.length ≤ (destination.chunk data 0 0).encode.length := by
  by_cases first : offset = 0
  · rw [first]
  · have offset_le : Cbor.headLength (Destination.wrap32 offset) ≤ 5 :=
      Cbor.headLength_le_five (Nat.mod_lt _ (by decide))
    have total_pos := Cbor.headLength_pos (Destination.wrap32 data.length)
    have named : (Bytes.ofText "len").length = 3 := by decide +kernel
    have zero : Cbor.headLength (Destination.wrap32 0) = 1 := by decide
    cases destination with
    | image index =>
        by_cases primary : index = 0
        · simp [Destination.chunk, Message.imageChunk, optionalField, first, primary,
            length_encode_record, entriesLength, fieldEntries, encode, named, zero]
          omega
        · simp [Destination.chunk, Message.imageChunk, optionalField, first, primary,
            length_encode_record, entriesLength, fieldEntries, encode, named, zero]
          omega
    | file path =>
        simp [Destination.chunk, Message.fileChunk, optionalField, first,
          length_encode_record, entriesLength, fieldEntries, encode, named, zero]
        omega

theorem length_chunk_add_one (destination : Destination) {data : Bytes} {offset length : Nat}
    (within : offset + length ≤ data.length) :
    (destination.chunk data offset length).encode.length + 1 =
      (destination.chunk data offset 0).encode.length + Cbor.headLength length + length := by
  have taken : (data.slice offset length).length = length := by
    rw [Bytes.length_slice]
    omega
  have empty : Cbor.headLength 0 = 1 := rfl
  cases destination with
  | image index =>
      by_cases first : offset = 0 <;> by_cases primary : index = 0
      all_goals
        simp [Destination.chunk, Message.imageChunk, optionalField, first, primary,
          length_encode_record, entriesLength, fieldEntries, encode] at taken ⊢
        rw [taken]
        omega
  | file path =>
      by_cases first : offset = 0
      all_goals
        simp [Destination.chunk, Message.fileChunk, optionalField, first, length_encode_record,
          entriesLength, fieldEntries, encode] at taken ⊢
        rw [taken]
        omega

end

variable {upload : Upload}

theorem length_chunkPacket (addressable : upload.Addressable) {seq : UInt8} {offset length : Nat}
    {packet : Bytes} (built : upload.chunkPacket seq offset length = .ok packet) :
    packet.length = Packet.wrapping upload.scheme +
      (upload.destination.chunk upload.data offset length).encode.length := by
  obtain ⟨fields, chunkEq, chunk⟩ := Destination.exists_chunkFields addressable.data_lt offset
    length addressable.destination
  rw [chunkPacket, chunkEq] at built
  rw [chunkEq]
  exact Packet.length_build chunk.plain chunk.unreserved
    (Nat.lt_of_le_of_lt chunk.count (by decide)) built

/-- Every chunk can be put into a packet, whose header can be read. -/
theorem exists_chunkPacket (addressable : upload.Addressable) (seq : UInt8) (offset length : Nat) :
    ∃ packet request, upload.chunkPacket seq offset length = .ok packet ∧
      Packet.header upload.scheme packet = .ok request := by
  obtain ⟨fields, chunkEq, chunk⟩ := Destination.exists_chunkFields addressable.data_lt offset
    length addressable.destination
  obtain ⟨packet, built⟩ := Packet.exists_build upload.scheme .write 0
    upload.destination.group.number seq upload.destination.id fields
  obtain ⟨announced, header⟩ := Packet.header_build chunk.plain chunk.unreserved
    (by have := chunk.count; omega) built
  refine ⟨packet, _, ?_, header⟩
  rw [chunkPacket, chunkEq, built]

/-- If the first chunk can be sized so can a chunk at every offset within the data, and all the more
with longer packets. -/
theorem exists_chunkLength_of_mtu_le (addressable : upload.Addressable) (nonempty : upload.data ≠ [])
    {mtu : Nat} (mtu_le : mtu ≤ upload.mtu) {first : UInt8}
    (fits : ∃ length, ({ upload with mtu } : Upload).chunkLength first 0 = .ok length) (seq : UInt8)
    {offset : Nat} (within : offset < upload.data.length) :
    ∃ length, upload.chunkLength seq offset = .ok length := by
  obtain ⟨firstLength, sized⟩ := fits
  -- The first request without data takes the most room, so what is left for data only grows.
  obtain ⟨firstPacket, -, firstBuilt, -⟩ := exists_chunkPacket addressable first 0 0
  obtain ⟨packet, -, built, -⟩ := exists_chunkPacket addressable seq offset 0
  have packet_le : packet.length ≤ firstPacket.length := by
    rw [length_chunkPacket addressable built, length_chunkPacket addressable firstBuilt]
    exact Nat.add_le_add_left (length_chunk_le _ _ _) _
  have room_le : mtu - upload.fixedLength firstPacket ≤
      upload.mtu - upload.fixedLength packet := by
    simp only [fixedLength]
    omega
  have data_pos := List.length_pos_iff.mpr nonempty
  have firstPos : 0 < aligned upload.alignment upload.data.length
      (fitting (mtu - upload.fixedLength firstPacket)) := by
    have firstBuilt' : ({ upload with mtu } : Upload).chunkPacket first 0 0 = .ok firstPacket :=
      firstBuilt
    simp only [chunkLength, firstBuilt', bind, Except.bind, Nat.sub_zero] at sized
    split_ifs at sized with empty
    simp only [fixedLength] at empty ⊢
    omega
  have left_pos : 0 < upload.data.length - offset := Nat.sub_pos_of_lt within
  have pos := aligned_pos left_pos (Nat.sub_le _ offset) (fitting_mono room_le) firstPos
  refine ⟨aligned upload.alignment (upload.data.length - offset)
    (fitting (upload.mtu - upload.fixedLength packet)), ?_⟩
  simp only [chunkLength, built, bind, Except.bind]
  rw [if_neg (by omega)]
  rfl

theorem exists_chunkLength (addressable : upload.Addressable) (nonempty : upload.data ≠ [])
    {first : UInt8} (fits : ∃ length, upload.chunkLength first 0 = .ok length) (seq : UInt8)
    {offset : Nat} (within : offset < upload.data.length) :
    ∃ length, upload.chunkLength seq offset = .ok length :=
  exists_chunkLength_of_mtu_le addressable nonempty (Nat.le_refl _) fits seq within

/-- A chunk with data is as long as its request without data and the byte string in place of an empty
one. -/
theorem length_packet_add_one (addressable : upload.Addressable) {sizing seq : UInt8}
    {offset length : Nat} {emptyPacket packet : Bytes} (within : offset + length ≤ upload.data.length)
    (sizingBuilt : upload.chunkPacket sizing offset 0 = .ok emptyPacket)
    (built : upload.chunkPacket seq offset length = .ok packet) :
    packet.length + 1 = emptyPacket.length + headLength length + length := by
  rw [length_chunkPacket addressable built, length_chunkPacket addressable sizingBuilt, headLength_eq]
  have dataEq := length_chunk_add_one upload.destination within
  omega

/-- A chunk that was sized is within the packet length of the upload. -/
theorem length_le_of_sized (addressable : upload.Addressable) {sizing seq : UInt8}
    {offset length : Nat} (sized : upload.chunkLength sizing offset = .ok length) (pos : 0 < length)
    {packet : Bytes} (built : upload.chunkPacket seq offset length = .ok packet) :
    packet.length + upload.scheme.framingOverhead ≤ upload.mtu := by
  obtain ⟨emptyPacket, -, sizingBuilt, -⟩ := exists_chunkPacket addressable sizing offset 0
  have length_le := (chunkLength_bounds sized).1
  have packetEq := length_packet_add_one addressable (by omega) sizingBuilt built
  have lengthEq : length = aligned upload.alignment (upload.data.length - offset)
      (fitting (upload.mtu - upload.fixedLength emptyPacket)) := by
    simp only [chunkLength, sizingBuilt, bind, Except.bind] at sized
    split_ifs at sized
    exact (Except.ok.inj sized).symm
  have fitting_ge : length ≤ fitting (upload.mtu - upload.fixedLength emptyPacket) :=
    lengthEq ▸ aligned_le_length _ _ _
  have fits := fitting_fits (Nat.lt_of_lt_of_le pos fitting_ge)
  have head_le : headLength length ≤
      headLength (fitting (upload.mtu - upload.fixedLength emptyPacket)) := by
    rw [headLength_eq, headLength_eq]
    exact Cbor.headLength_mono fitting_ge
  simp only [fixedLength] at fits fitting_ge head_le
  omega

theorem length_packet_le (addressable : upload.Addressable) {seq after : UInt8} {offset : Nat}
    {chunk : Chunk} (chunkEq : upload.nextChunk seq offset = (.ok chunk, after))
    (pos : 0 < chunk.length) :
    chunk.packet.length + upload.scheme.framingOverhead ≤ upload.mtu := by
  obtain ⟨sized, built⟩ := nextChunk_eq_ok chunkEq
  exact length_le_of_sized addressable sized pos built

end Upload

end SmpClient
