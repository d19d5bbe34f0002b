import Mathlib.Algebra.BigOperators.Group.List.Basic
import SmpClient.Proofs.Packet.Payload

/-!
# How long a packet is

The fields of a payload take as many bytes as each of them does, in whatever order they are written.
So every envelope adds a number of bytes of its own, which does not depend on the payload.
-/

namespace SmpClient

namespace Cbor

namespace Value

/-- The bytes that entries take. -/
def entriesLength (entries : List (Value × Value)) : Nat :=
  (entries.map fun entry => entry.1.encode.length + entry.2.encode.length).sum

theorem length_encodeEntries (entries : List (Value × Value)) :
    (encodeEntries entries).length = entriesLength entries := by
  induction entries with
  | nil => rfl
  | cons entry entries ih =>
      obtain ⟨key, value⟩ := entry
      simp only [encodeEntries, entriesLength, List.length_append, List.map_cons, List.sum_cons] at ih ⊢
      omega

theorem length_encode_map (entries : List (Value × Value)) :
    (Value.map entries).encode.length = headLength entries.length + entriesLength entries := by
  rw [encode, List.length_append, length_head, length_encodeEntries]

theorem entriesLength_perm {first second : List (Value × Value)}
    (moved : List.Perm first second) : entriesLength first = entriesLength second :=
  (moved.map _).sum_eq

/-- A record of few fields has a head of one byte, in whatever order they are written. -/
theorem length_encode_of_perm {fields : List (String × Value)} {entries : List (Value × Value)}
    (moved : List.Perm entries (fieldEntries fields)) (few : fields.length < 24) :
    (Value.map entries).encode.length = 1 + entriesLength (fieldEntries fields) := by
  have lengthEq : entries.length = fields.length := by
    rw [moved.length_eq, fieldEntries, List.length_map]
  rw [length_encode_map, entriesLength_perm moved, lengthEq, headLength, if_pos few]

theorem length_encode_record {fields : List (String × Value)} (few : fields.length < 24) :
    (Value.record fields).encode.length = 1 + entriesLength (fieldEntries fields) :=
  length_encode_of_perm (List.Perm.refl _) few

end Value

end Cbor

namespace Packet

open Cbor

/-- The bytes that an envelope adds to a payload. -/
def wrapping (scheme : Scheme) : Nat :=
  if scheme.isCoap then 12 else Header.size

theorem exists_build (scheme : Scheme) (op : Op) (flags : UInt8) (group : UInt16) (seq id : UInt8)
    (fields : List (String × Value)) :
    ∃ packet, build scheme op flags group seq id (.record fields) = .ok packet := by
  rw [build]
  split <;> exact ⟨_, rfl⟩

theorem length_build {scheme : Scheme} {op : Op} {flags : UInt8} {group : UInt16} {seq id : UInt8}
    {fields : List (String × Value)} {packet : Bytes} (plain : Value.PlainFields fields)
    (unreserved : headerKey ∉ fields.map Prod.fst) (few : fields.length < 23)
    (built : build scheme op flags group seq id (.record fields) = .ok packet) :
    packet.length = wrapping scheme + (Value.record fields).encode.length := by
  cases coap : scheme.isCoap with
  | false =>
      simp only [build, coap, Bool.false_eq_true, if_false, Except.ok.injEq] at built
      rw [← built, List.length_append, Header.length_toBytes, wrapping, coap,
        if_neg Bool.false_ne_true]
  | true =>
      have count : fields.length + 1 < 2 ^ 32 := by omega
      obtain ⟨entries, packetEq, moved⟩ := build_embedded plain unreserved count coap built
      generalize Header.mk _ _ _ _ _ _ _ = header at moved
      have headerEntry : (Value.text headerKey).encode.length +
          (Value.bytes header.toBytes).encode.length = 12 := by
        have keyLength : (Bytes.ofText headerKey).length = 2 := by decide +kernel
        simp [Value.encode, keyLength, Header.size, headLength]
      have fewMore : ((headerKey, Value.bytes header.toBytes) :: fields).length < 24 :=
        Nat.succ_lt_succ few
      rw [packetEq, Value.length_encode_of_perm moved fewMore,
        Value.length_encode_record (by omega), wrapping, if_pos coap]
      simp only [Value.entriesLength, Value.fieldEntries, List.map_cons, List.sum_cons,
        headerEntry]
      omega

end Packet

end SmpClient
