import SmpClient.Proofs.Transfer.ChunkFits
import SmpClient.Proofs.Transfer.Storage

/-!
# The length that a chunk announces

A header announces the length of its payload in sixteen bits.  Nothing but the packet length of the link
keeps a chunk below that, so a link that takes longer packets gets chunks with a wrong length.
-/

namespace SmpClient

namespace Packet

/-- The longest packet whose header can announce it. -/
def longestAnnounced : Nat :=
  Header.size + 0xffff

/-- Whether the header of a packet announces the length of what follows it. -/
def Announces (scheme : Scheme) (packet : Bytes) : Prop :=
  ∃ request, header scheme packet = .ok request ∧
    request.length.toNat + Header.size = packet.length

theorem announces_iff {scheme : Scheme} {op : Op} {flags : UInt8} {group : UInt16} {seq id : UInt8}
    {payload : Cbor.Value} {packet : Bytes} (standard : scheme.isCoap = false)
    (built : build scheme op flags group seq id payload = .ok packet) :
    Announces scheme packet ↔ packet.length ≤ longestAnnounced := by
  obtain ⟨packetEq, headerEq⟩ := build_standard standard built
  have lengthEq : packet.length = Header.size + payload.encode.length := by
    rw [packetEq, List.length_append, Header.length_toBytes]
  have truncated : (UInt16.ofNat payload.encode.length).toNat = payload.encode.length % 2 ^ 16 :=
    UInt16.toNat_ofNat'
  have announces : Announces scheme packet ↔
      payload.encode.length % 2 ^ 16 + Header.size = packet.length := by
    rw [Announces, headerEq, ← truncated]
    constructor
    · rintro ⟨request, requestEq, announced⟩
      cases requestEq
      exact announced
    · intro announced
      exact ⟨_, rfl, announced⟩
  have size : Header.size = 8 := rfl
  have longest : longestAnnounced = 65543 := rfl
  rw [announces, lengthEq, size, longest]
  generalize payload.encode.length = length
  omega

end Packet

namespace Upload

variable {upload : Upload}

/-- Whether all chunks of an upload announce their length. -/
def Announces (upload : Upload) : Prop :=
  ∀ sizing seq offset length, offset < upload.data.length →
    upload.chunkLength sizing offset = .ok length →
      ∃ packet, upload.chunkPacket seq offset length = .ok packet ∧
        Packet.Announces upload.scheme packet

theorem announces_of_mtu_le (addressable : upload.Addressable) (standard : upload.scheme.isCoap = false)
    (mtu_le : upload.mtu ≤ Packet.longestAnnounced) : upload.Announces := by
  intro sizing seq offset length within sized
  obtain ⟨packet, -, built, -⟩ := exists_chunkPacket addressable seq offset length
  have pos := (chunkLength_bounds sized).2 within
  have length_le := length_le_of_sized addressable sized pos built
  exact ⟨packet, built, (Packet.announces_iff standard built).mpr (by omega)⟩

/-! ## Chunks that are too long -/

/-- The upload of an image over a link that takes packets of a given length. -/
def ofImage (scheme : Scheme) (mtu : Nat) (data : Bytes) : Upload :=
  { scheme, destination := .image 0, data, mtu, alignment := 1 }

section

open Cbor Cbor.Value

theorem length_firstChunk_le (data : Bytes) :
    ((Destination.image 0).chunk data 0 0).encode.length ≤ 100 := by
  have total_le : Cbor.headLength (Destination.wrap32 data.length) ≤ 5 :=
    Cbor.headLength_le_five (Nat.mod_lt _ (by decide))
  have names : (Bytes.ofText "data").length = 4 ∧ (Bytes.ofText "len").length = 3 ∧
      (Bytes.ofText "off").length = 3 ∧ (Bytes.ofText "sha").length = 3 := by decide +kernel
  have zero : Cbor.headLength (Destination.wrap32 0) = 1 := by decide
  have four : Cbor.headLength 4 = 1 := rfl
  have three : Cbor.headLength 3 = 1 := rfl
  have none : Cbor.headLength 0 = 1 := rfl
  have digest : Cbor.headLength 32 = 2 := rfl
  simp [Destination.chunk, Message.imageChunk, optionalField, length_encode_record, entriesLength,
    fieldEntries, encode, names, Sha256.length_digest, zero, four, three, none, digest]
  omega

end

theorem addressable_ofImage {data : Bytes} (data_lt : data.length < 2 ^ 64) (scheme : Scheme)
    (mtu : Nat) : (ofImage scheme mtu data).Addressable :=
  ⟨data_lt, by simp [ofImage, Destination.Representable]⟩

/-- The first chunk of enough data fills the longest packet that can be announced, and the next byte
too if the link has room for it. -/
theorem exists_unannounced {scheme : Scheme} (standard : scheme.isCoap = false) {data : Bytes}
    (data_lt : data.length < 2 ^ 64) (long : 0xffff < data.length) {mtu : Nat}
    (wide : Packet.longestAnnounced < mtu) (sizing seq : UInt8) :
    ∃ length packet request, (ofImage scheme mtu data).chunkLength sizing 0 = .ok length ∧
      (ofImage scheme mtu data).chunkPacket seq 0 length = .ok packet ∧
      Packet.header scheme packet = .ok request ∧
      request.length.toNat + Header.size < packet.length := by
  have addressable := addressable_ofImage data_lt scheme mtu
  obtain ⟨emptyPacket, -, sizingBuilt, -⟩ := exists_chunkPacket addressable sizing 0 0
  have emptyEq : emptyPacket.length =
      Header.size + ((Destination.image 0).chunk data 0 0).encode.length := by
    have wrapped := length_chunkPacket addressable sizingBuilt
    simpa only [ofImage, Packet.wrapping, standard, Bool.false_eq_true, if_false] using wrapped
  have chunk_le := length_firstChunk_le data
  have size : Header.size = 8 := rfl
  have longest : Packet.longestAnnounced = 65543 := rfl
  -- The length with which the packet would be one byte longer than can be announced.
  obtain ⟨target, targetEq⟩ : ∃ target, target + 3 + emptyPacket.length = 65545 :=
    ⟨65542 - emptyPacket.length, by omega⟩
  have head : headLength target = 3 := by
    unfold headLength
    split_ifs <;> omega
  have fixedEq : (ofImage scheme mtu data).fixedLength emptyPacket = emptyPacket.length - 1 := by
    simp [fixedLength, ofImage, Scheme.framingOverhead, standard]
  have target_le : target ≤ fitting (mtu - (emptyPacket.length - 1)) := le_fitting (by omega)
  obtain ⟨length, lengthEq⟩ : ∃ length, length = min (fitting (mtu - (emptyPacket.length - 1)))
    data.length := ⟨_, rfl⟩
  have length_ge : target ≤ length := by omega
  have sized : (ofImage scheme mtu data).chunkLength sizing 0 = .ok length := by
    have alignedEq : aligned 1 data.length (fitting (mtu - (emptyPacket.length - 1))) = length := by
      simp [aligned, Nat.mod_one, lengthEq]
    simp only [chunkLength, sizingBuilt, bind, Except.bind, fixedEq]
    simp only [ofImage, Nat.sub_zero, alignedEq]
    rw [if_neg (by omega)]
    rfl
  obtain ⟨packet, request, built, headerEq⟩ := exists_chunkPacket addressable seq 0 length
  refine ⟨length, packet, request, sized, built, headerEq, ?_⟩
  have announced_lt := request.length.toNat_lt
  have head_ge : headLength target ≤ headLength length := by
    rw [headLength_eq, headLength_eq]
    exact Cbor.headLength_mono length_ge
  have within : 0 + length ≤ (ofImage scheme mtu data).data.length := by
    simp only [ofImage]
    omega
  have packetEq := length_packet_add_one addressable within sizingBuilt built
  omega

/-- All chunks of all uploads announce their length just when the link takes no packets that are too
long to be announced. -/
theorem announces_iff_mtu_le {scheme : Scheme} (standard : scheme.isCoap = false) (mtu : Nat) :
    (∀ upload : Upload, upload.Addressable → upload.scheme = scheme → upload.mtu = mtu →
      upload.Announces) ↔ mtu ≤ Packet.longestAnnounced := by
  constructor
  · intro announces
    by_contra wide
    have data_lt : (List.replicate 70000 (0 : UInt8)).length < 2 ^ 64 := by
      rw [List.length_replicate]
      decide
    have long : 0xffff < (List.replicate 70000 (0 : UInt8)).length := by
      rw [List.length_replicate]
      decide
    obtain ⟨length, packet, request, sized, built, headerEq, announced_lt⟩ :=
      exists_unannounced standard data_lt long (Nat.lt_of_not_le wide) 0 1
    obtain ⟨other, otherBuilt, otherRequest, otherEq, announced⟩ :=
      announces _ (addressable_ofImage data_lt scheme mtu) rfl rfl 0 1 0 length
        (Nat.lt_of_le_of_lt (Nat.zero_le _) long) sized
    obtain rfl : packet = other := Except.ok.inj (built.symm.trans otherBuilt)
    obtain rfl : request = otherRequest := Except.ok.inj (headerEq.symm.trans otherEq)
    omega
  · rintro mtu_le upload addressable rfl rfl
    exact announces_of_mtu_le addressable standard mtu_le

theorem announces_threeBytes :
    (Scheme.ble.isCoap = false ∧ Storage.threeBytes.Addressable ∧
      (Storage.threeBytes.chunkLength 0 0).toOption = some 2) ∧ Storage.threeBytes.Announces := by
  have addressable : Storage.threeBytes.Addressable := ⟨by decide, by decide⟩
  have standard : Scheme.ble.isCoap = false := rfl
  have announces := (announces_iff_mtu_le standard 65).mpr (by decide)
  exact ⟨⟨standard, addressable, by decide +kernel⟩, announces _ addressable rfl rfl⟩

/-- A link that takes packets of 70000 bytes gets one whose header announces too few. -/
theorem unannounced_wide :
    ∃ length packet request,
      (ofImage .ble 70000 (List.replicate 70000 0)).chunkLength 0 0 = .ok length ∧
      (ofImage .ble 70000 (List.replicate 70000 0)).chunkPacket 1 0 length = .ok packet ∧
      Packet.header .ble packet = .ok request ∧
      request.length.toNat + Header.size < packet.length := by
  have wide : Packet.longestAnnounced < 70000 := by decide
  refine exists_unannounced rfl ?_ ?_ wide 0 1
  · rw [List.length_replicate]
    decide
  · rw [List.length_replicate]
    decide

end Upload

end SmpClient
