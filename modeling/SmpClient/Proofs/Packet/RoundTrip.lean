import Mathlib.Tactic.IntervalCases
import SmpClient.Proofs.Cbor.CanonicalForm
import SmpClient.Proofs.Packet.Payload

/-!
# What is read back from a packet

The header and the payload of a packet are read back as they were put in, whichever of the two
places the header has: in front of the payload, where it also announces the length of the packet,
or among the entries of the payload, where it takes the place of an entry under its own key and
leaves all others alone.
-/

namespace SmpClient

open Cbor

namespace Op

theorem number_le (op : Op) : op.number ≤ 3 := by
  cases op <;> decide

theorem ofNumber?_eq_some_iff {number : Nat} {op : Op} :
    ofNumber? number = some op ↔ op.number = number := by
  constructor
  · intro named
    unfold ofNumber? at named
    split at named <;> cases named <;> rfl
  · rintro rfl
    exact ofNumber?_number op

theorem exists_ofNumber?_iff {number : Nat} :
    (∃ op, ofNumber? number = some op) ↔ number ≤ 3 := by
  constructor
  · rintro ⟨op, named⟩
    rw [← ofNumber?_eq_some_iff.mp named]
    exact op.number_le
  · intro small
    interval_cases number <;> exact ⟨_, rfl⟩

end Op

namespace Header

private theorem ofNat_ofNat_toNat (high low : UInt8) :
    Bytes.ofNat 2 (UInt16.ofNat (Bytes.toNat [high, low])).toNat = [high, low] := by
  have fits : Bytes.toNat [high, low] < 2 ^ 16 := by simpa using Bytes.toNat_lt [high, low]
  rw [UInt16.toNat_ofNat', Nat.mod_eq_of_lt fits]
  exact Bytes.ofNat_toNat [high, low]

/-- Eight bytes are a header when the low three bits of the first name an operation, and then the
header has all of the bytes but for the three spare bits of the first. -/
theorem ofBytes_cons {first : UInt8} {rest : Bytes} (seven : rest.length = 7) :
    ((∃ header, ofBytes (first :: rest) = .ok header) ↔ first &&& 0x07 ≤ 3) ∧
      ∀ header, ofBytes (first :: rest) = .ok header →
        header.toBytes = (first &&& 0x1f) :: rest := by
  match rest, seven with
  | [flags, lengthHigh, lengthLow, groupHigh, groupLow, seq, id], _ =>
      have named_iff : first &&& 0x07 ≤ 3 ↔ ∃ op, Op.ofNumber? (first.toNat % 8) = some op := by
        rw [Op.exists_ofNumber?_iff, UInt8.le_iff_toNat_le, UInt8.toNat_and_ones 3 rfl]
        rfl
      rw [named_iff, ofBytes]
      cases named : Op.ofNumber? (first.toNat % 8) with
      | none => simp
      | some op =>
          refine ⟨by simp, ?_⟩
          rintro header ⟨rfl⟩
          have numberEq := Op.ofNumber?_eq_some_iff.mp named
          have firstEq : UInt8.ofNat ((UInt8.ofNat (first.toNat / 8 % 4)).toNat % 4 * 8 +
              op.number) = first &&& 0x1f := by
            apply UInt8.toNat_inj.mp
            rw [UInt8.toNat_and_ones 5 rfl, UInt8.toNat_ofNat', UInt8.toNat_ofNat', numberEq]
            omega
          rw [toBytes, firstEq, ofNat_ofNat_toNat, ofNat_ofNat_toNat]
          rfl

end Header

namespace Packet

/-- What is read from a packet whose header stands in front of the payload.  The length of the
packet is known from its first bytes on. -/
structure Fronted (scheme : Scheme) (packet : Bytes) (header : Header) (payload : Value) : Prop where
  header_eq : Packet.header scheme packet = .ok header
  announced : header.length.toNat = payload.encode.length
  whole : ∀ count, Header.size ≤ count →
    expectedLength scheme (packet.take count) = .ok packet.length
  content : payload.Readable maximumDepth →
    Value.decode (packet.drop Header.size) = .ok payload.canonical

/-- What is read from a packet that carries its header among `entries`. -/
structure Carried (scheme : Scheme) (packet : Bytes) (header : Header)
    (entries : List (Value × Value)) : Prop where
  header_eq : Packet.header scheme packet = .ok header
  content : ∃ found, Value.decode packet = .ok (.map found) ∧
    Value.withoutEntry found headerKey = Value.withoutEntry entries headerKey

variable {scheme : Scheme} {op : Op} {flags : UInt8} {group : UInt16} {seq id : UInt8}
  {payload : Value}

theorem expectedLength_take (standard : scheme.isCoap = false) (header : Header) (body : Bytes)
    {count : Nat} (within : Header.size ≤ count) :
    expectedLength scheme ((header.toBytes ++ body).take count) =
      .ok (Header.size + header.length.toNat) := by
  have takenEq : (header.toBytes ++ body).take count =
      header.toBytes ++ body.take (count - Header.size) := by
    rw [List.take_append, Header.length_toBytes,
      List.take_of_length_le (by rwa [Header.length_toBytes])]
  have lengthEq : (header.toBytes ++ body.take (count - Header.size)).slice 2 2 =
      Bytes.ofNat 2 header.length.toNat := rfl
  have long : ¬ (header.toBytes ++ body.take (count - Header.size)).length < Header.size := by
    rw [List.length_append, Header.length_toBytes]
    omega
  rw [takenEq, expectedLength, standard, if_neg Bool.false_ne_true, if_neg long, lengthEq,
    Bytes.toNat_ofNat_of_lt header.length.toNat_lt]

theorem fronted_build (standard : scheme.isCoap = false)
    (short : payload.encode.length ≤ 65535) :
    ∃ packet, build scheme op flags group seq id payload = .ok packet ∧
      Fronted scheme packet
        { version := 1, op, flags, length := UInt16.ofNat payload.encode.length, group, seq, id }
        payload := by
  have built : build scheme op flags group seq id payload = .ok (Header.toBytes
      { version := 1, op, flags, length := UInt16.ofNat payload.encode.length, group, seq, id } ++
        payload.encode) := by
    simp only [build, standard, Bool.false_eq_true, if_false]
    rfl
  obtain ⟨-, headerEq⟩ := build_standard standard built
  have announced : (UInt16.ofNat payload.encode.length).toNat = payload.encode.length := by
    rw [UInt16.toNat_ofNat', Nat.mod_eq_of_lt (by omega)]
  refine ⟨_, built, headerEq, announced, ?_, ?_⟩
  · intro count within
    rw [expectedLength_take standard _ _ within, List.length_append, Header.length_toBytes]
    simp only [announced]
  · intro readable
    rw [List.drop_left' (Header.length_toBytes _)]
    exact Value.decode_encode readable

theorem carried_build (coap : scheme.isCoap = true) (readable : payload.Readable maximumDepth)
    {entries : List (Value × Value)} (map : payload.canonical = .map entries)
    (count : entries.length + 1 < 2 ^ 64) :
    ∃ packet, build scheme op flags group seq id payload = .ok packet ∧
      Carried scheme packet { version := 1, op, flags, length := 0, group, seq, id } entries := by
  generalize headerEq : Header.mk 1 op flags 0 group seq id = header
  have built : build scheme op flags group seq id payload = .ok (Value.map
      (Value.insertEntry (.text headerKey) (.bytes header.toBytes) entries)).encode := by
    simp only [build, coap, if_true, map]
    rw [← headerEq]
    rfl
  have settled : (Value.map entries).canonical = .map entries := by
    rw [← map, Value.canonical_canonical]
  have keyFits : (Value.text headerKey).Readable 126 := by decide +kernel
  have headerFits : (Value.bytes header.toBytes).Readable 126 := by
    rw [Value.Readable, Header.length_toBytes]
    decide
  have entriesReadable : (Value.map entries).Readable maximumDepth := by
    rw [← map]
    exact Value.Readable.canonical payload maximumDepth readable
  have decoded := Value.decode_encode
    (Value.readable_map_insertEntry entriesReadable count keyFits headerFits)
  rw [Value.canonical_map_insertEntry settled (by simp only [Value.canonical])
    (by simp only [Value.canonical])] at decoded
  have version_lt : header.version.toNat < 4 := headerEq ▸ (by decide : (1 : UInt8).toNat < 4)
  exact ⟨_, built, header_of_embedded coap decoded (Value.entry?_insertEntry_self _ _ _) version_lt,
    _, decoded, Value.withoutEntry_insertEntry _ _ _⟩

/-- Under every envelope the header of a packet is read back, and so is a payload that is read back
from its own encoding, but for an entry under the key of the header.  Of the bytes of a header only
the three spare bits are lost. -/
theorem readsBack_build :
    (∀ (scheme : Scheme) (op : Op) (flags : UInt8) (group : UInt16) (seq id : UInt8)
        (payload : Value), scheme.isCoap = false → payload.encode.length ≤ 65535 →
      ∃ packet, build scheme op flags group seq id payload = .ok packet ∧
        Fronted scheme packet
          { version := 1, op, flags, length := UInt16.ofNat payload.encode.length, group, seq, id }
          payload) ∧
    (∀ (scheme : Scheme) (op : Op) (flags : UInt8) (group : UInt16) (seq id : UInt8)
        (payload : Value) (entries : List (Value × Value)), scheme.isCoap = true →
        payload.Readable maximumDepth → payload.canonical = .map entries →
        entries.length + 1 < 2 ^ 64 →
      ∃ packet, build scheme op flags group seq id payload = .ok packet ∧
        Carried scheme packet { version := 1, op, flags, length := 0, group, seq, id } entries) ∧
    ∀ (first : UInt8) (rest : Bytes), rest.length = 7 →
      ((∃ header, Header.ofBytes (first :: rest) = .ok header) ↔ first &&& 0x07 ≤ 3) ∧
        ∀ header, Header.ofBytes (first :: rest) = .ok header →
          header.toBytes = (first &&& 0x1f) :: rest := by
  refine ⟨?_, ?_, fun first rest seven => Header.ofBytes_cons seven⟩
  · intro scheme op flags group seq id payload standard short
    exact fronted_build standard short
  · intro scheme op flags group seq id payload entries coap readable map count
    exact carried_build coap readable map count

/-- A payload with numbers that are and are not numbers, maps inside, and an entry under the key
of the header. -/
def reservedEntries : List (Value × Value) :=
  [(.text "rate", .float 0x3ff8000000000000), (.text headerKey, .bool true),
    (.int (-1), .array [.null, .map [(.text "b", .bytes [1, 2]), (.text "a", .float quietNaN)]])]

theorem readsBack_reserved :
    (Value.map reservedEntries).encode.length ≤ 65535 ∧
      (Value.map reservedEntries).Readable maximumDepth ∧
      (Value.sortEntries (Value.canonicalEntries reservedEntries)).length + 1 < 2 ^ 64 ∧
      (∃ packet, build .ble .write 3 0x0102 7 9 (.map reservedEntries) = .ok packet ∧
        Fronted .ble packet
          { version := 1, op := .write, flags := 3, group := 0x0102, seq := 7, id := 9,
            length := UInt16.ofNat (Value.map reservedEntries).encode.length }
          (.map reservedEntries)) ∧
      (∃ packet, build .coapUdp .write 3 0x0102 7 9 (.map reservedEntries) = .ok packet ∧
        Carried .coapUdp packet
          { version := 1, op := .write, flags := 3, length := 0, group := 0x0102, seq := 7,
            id := 9 }
          (Value.sortEntries (Value.canonicalEntries reservedEntries))) ∧
      ∀ header, Header.ofBytes [0xeb, 0, 1, 2, 3, 4, 5, 6] = .ok header →
        header.toBytes = [0x0b, 0, 1, 2, 3, 4, 5, 6] := by
  obtain ⟨fronted, carried, bytes⟩ := readsBack_build
  have short : (Value.map reservedEntries).encode.length ≤ 65535 := by decide +kernel
  have readable : (Value.map reservedEntries).Readable maximumDepth := by decide +kernel
  have count : (Value.sortEntries (Value.canonicalEntries reservedEntries)).length + 1 < 2 ^ 64 := by
    decide +kernel
  exact ⟨short, readable, count, fronted .ble .write 3 0x0102 7 9 _ rfl short,
    carried .coapUdp .write 3 0x0102 7 9 _ _ rfl readable rfl count,
    (bytes 0xeb [0, 1, 2, 3, 4, 5, 6] rfl).2⟩

end Packet

end SmpClient
