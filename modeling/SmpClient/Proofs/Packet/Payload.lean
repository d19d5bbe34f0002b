import SmpClient.Packet.Response
import SmpClient.Proofs.Cbor.Entries
import Mathlib.Data.List.Nodup

/-!
# What a packet carries

The payload of a request is a record of named fields.  Under every envelope the packet built for
it decodes to a map with the same fields; an envelope that hides the header in the payload adds
only an entry of its own.
-/

namespace SmpClient

namespace Cbor

namespace Value

/-- The entries of a record. -/
def fieldEntries (fields : List (String × Value)) : List (Value × Value) :=
  fields.map fun (name, value) => (.text name, value)

/-- A record that is read back field by field: its names are different, and its values hold no
maps and fit their widths. -/
structure PlainFields (fields : List (String × Value)) : Prop where
  distinct : (fields.map Prod.fst).Nodup
  named : ∀ field ∈ fields, (Bytes.ofText field.1).length < 2 ^ 64
  canonical : ∀ field ∈ fields, field.2.canonical = field.2
  readable : ∀ field ∈ fields, ∀ depth, field.2.Readable depth
  count : fields.length < 2 ^ 32

theorem hasNames_fieldEntries {fields : List (String × Value)}
    (distinct : (fields.map Prod.fst).Nodup) : HasNames (fieldEntries fields) where
  texts entry member := by
    obtain ⟨⟨name, value⟩, -, rfl⟩ := List.mem_map.mp member
    exact ⟨name, rfl⟩
  distinct := by
    have keysEq : (fieldEntries fields).map Prod.fst = (fields.map Prod.fst).map Value.text := by
      simp [fieldEntries]
    rw [keysEq]
    exact distinct.map fun _ _ => Value.text.inj

theorem entry?_fieldEntries (fields : List (String × Value)) (name : String) :
    entry? (fieldEntries fields) name = fields.lookup name := by
  induction fields with
  | nil => rfl
  | cons field fields ih =>
      obtain ⟨present, value⟩ := field
      by_cases same : present = name
      · subst same
        simp [fieldEntries, entry?]
      · have other : (name == present) = false := by simpa using Ne.symm same
        rw [List.lookup_cons, other, ← ih]
        simp [fieldEntries, entry?, same]

theorem PlainFields.canonicalEntries_eq_self {fields : List (String × Value)}
    (plain : PlainFields fields) {entries : List (Value × Value)}
    (moved : List.Perm entries (fieldEntries fields)) : canonicalEntries entries = entries := by
  apply Value.canonicalEntries_eq_self
  intro entry member
  obtain ⟨field, fieldMember, rfl⟩ := List.mem_map.mp (moved.mem_iff.mp member)
  exact ⟨by simp [Value.canonical], plain.canonical field fieldMember⟩

theorem PlainFields.cons {name : String} {value : Value} {fields : List (String × Value)}
    (plain : PlainFields fields) (fresh : name ∉ fields.map Prod.fst)
    (named : (Bytes.ofText name).length < 2 ^ 64) (canonical : value.canonical = value)
    (readable : ∀ depth, value.Readable depth) (count : fields.length + 1 < 2 ^ 32) :
    PlainFields ((name, value) :: fields) where
  distinct := List.nodup_cons.mpr ⟨fresh, plain.distinct⟩
  named := List.forall_mem_cons.mpr ⟨named, plain.named⟩
  canonical := List.forall_mem_cons.mpr ⟨canonical, plain.canonical⟩
  readable := List.forall_mem_cons.mpr ⟨readable, plain.readable⟩
  count := count

/-- The entries of a plain record, in whatever order they are written, are all read back. -/
theorem PlainFields.decode {fields : List (String × Value)} (plain : PlainFields fields)
    {entries : List (Value × Value)} (moved : List.Perm entries (fieldEntries fields)) :
    ∃ found, decode (Value.map entries).encode = .ok (.map found) ∧ HasNames found ∧
      ∀ name, entry? found name = fields.lookup name := by
  have names : HasNames (fieldEntries fields) := hasNames_fieldEntries plain.distinct
  have namesMoved : HasNames entries := names.perm moved.symm
  have readable : (Value.map entries).Readable maximumDepth := by
    have lengthEq : entries.length = fields.length := by
      rw [moved.length_eq, fieldEntries, List.length_map]
    refine ⟨by have := plain.count; omega, entriesReadable_iff.mpr ?_⟩
    intro entry member
    obtain ⟨field, fieldMember, rfl⟩ := List.mem_map.mp (moved.mem_iff.mp member)
    exact ⟨plain.named field fieldMember, plain.readable field fieldMember _⟩
  have sorted := namesMoved.sortEntries_perm
  refine ⟨sortEntries entries, ?_, namesMoved.perm sorted.symm, ?_⟩
  · rw [decode_encode readable, Value.canonical, plain.canonicalEntries_eq_self moved]
  · intro name
    rw [← namesMoved.entry?_perm sorted.symm, namesMoved.entry?_perm moved,
      entry?_fieldEntries]

end Value

end Cbor

/-- A header is read back, if its version fits. -/
theorem Header.ofBytes_toBytes {header : Header} (version_lt : header.version.toNat < 4) :
    Header.ofBytes header.toBytes = .ok header := by
  have opNumber_lt : header.op.number < 8 := by cases header.op <;> decide
  have firstEq : (UInt8.ofNat (header.version.toNat % 4 * 8 + header.op.number)).toNat =
      header.version.toNat * 8 + header.op.number := by
    rw [UInt8.toNat_ofNat']
    omega
  have opEq : (header.version.toNat * 8 + header.op.number) % 8 = header.op.number := by omega
  have versionEq : (header.version.toNat * 8 + header.op.number) / 8 % 4 =
      header.version.toNat := by omega
  have readBack (number : UInt16) : UInt16.ofNat (Bytes.toNat (Bytes.ofNat 2 number.toNat)) = number := by
    rw [Bytes.toNat_ofNat_of_lt number.toNat_lt, UInt16.ofNat_toNat]
  have lengthRead := readBack header.length
  have groupRead := readBack header.group
  obtain ⟨lengthHigh, lengthLow, lengthEq⟩ : ∃ high low, Bytes.ofNat 2 header.length.toNat =
      [high, low] := ⟨_, _, rfl⟩
  obtain ⟨groupHigh, groupLow, groupEq⟩ : ∃ high low, Bytes.ofNat 2 header.group.toNat =
      [high, low] := ⟨_, _, rfl⟩
  rw [lengthEq] at lengthRead
  rw [groupEq] at groupRead
  simp only [toBytes, lengthEq, groupEq, List.cons_append, List.nil_append, ofBytes, firstEq, opEq,
    versionEq, Op.ofNumber?_number, lengthRead, groupRead, UInt8.ofNat_toNat]

namespace Packet

open Cbor

/-- In front of a payload the header announces the length of the payload, as far as it fits. -/
theorem build_standard {scheme : Scheme} {op : Op} {flags : UInt8} {group : UInt16} {seq id : UInt8}
    {payload : Value} {packet : Bytes} (standard : scheme.isCoap = false)
    (built : build scheme op flags group seq id payload = .ok packet) :
    let header : Header :=
      { version := Header.requestVersion, op, flags, length := UInt16.ofNat payload.encode.length,
        group, seq, id }
    packet = header.toBytes ++ payload.encode ∧ Packet.header scheme packet = .ok header := by
  intro header
  simp only [build, standard, Bool.false_eq_true, if_false, Except.ok.injEq] at built
  subst built
  refine ⟨rfl, ?_⟩
  have version_lt : Header.requestVersion.toNat < 4 := by decide
  have read : Header.ofBytes header.toBytes = .ok header := Header.ofBytes_toBytes version_lt
  have taken : (header.toBytes ++ payload.encode).take Header.size = header.toBytes :=
    List.take_left' (Header.length_toBytes _)
  have long : ¬ (header.toBytes ++ payload.encode).length < Header.size := by
    rw [List.length_append, Header.length_toBytes]
    omega
  rw [Packet.header, standard, if_neg Bool.false_ne_true, if_neg long, taken, read]

/-- The header of a packet that carries one is found under its key. -/
theorem header_of_embedded {scheme : Scheme} {packet : Bytes} {header : Header}
    {entries : List (Value × Value)} (coap : scheme.isCoap = true)
    (decoded : Value.decode packet = .ok (.map entries))
    (embedded : Value.entry? entries headerKey = some (.bytes header.toBytes))
    (version_lt : header.version.toNat < 4) : Packet.header scheme packet = .ok header := by
  rw [Packet.header, if_pos coap, decoded]
  simp only [embeddedHeader?, embedded, Header.ofBytes_toBytes version_lt, Except.map]

theorem plainFields_header {fields : List (String × Value)} (plain : Value.PlainFields fields)
    (unreserved : headerKey ∉ fields.map Prod.fst) (count : fields.length + 1 < 2 ^ 32)
    (header : Header) : Value.PlainFields ((headerKey, .bytes header.toBytes) :: fields) := by
  have fits : header.toBytes.length < 2 ^ 64 := by
    rw [Header.length_toBytes]
    decide
  exact plain.cons unreserved (by decide +kernel) (by simp [Value.canonical]) (fun _ => fits) count

/-- Inside a payload the header is one entry more. -/
theorem build_embedded {scheme : Scheme} {op : Op} {flags : UInt8} {group : UInt16}
    {seq id : UInt8} {fields : List (String × Value)} {packet : Bytes}
    (plain : Value.PlainFields fields) (unreserved : headerKey ∉ fields.map Prod.fst)
    (count : fields.length + 1 < 2 ^ 32) (coap : scheme.isCoap = true)
    (built : build scheme op flags group seq id (.record fields) = .ok packet) :
    let header : Header :=
      { version := Header.requestVersion, op, flags, length := 0, group, seq, id }
    ∃ entries : List (Value × Value), packet = (Value.map entries).encode ∧
      List.Perm entries (Value.fieldEntries ((headerKey, .bytes header.toBytes) :: fields)) := by
  intro header
  have canonicalEq : (Value.record fields).canonical =
      .map (Value.sortEntries (Value.fieldEntries fields)) := by
    rw [Value.record, Value.canonical, ← Value.fieldEntries,
      plain.canonicalEntries_eq_self (List.Perm.refl _)]
  simp only [build, coap, if_true, canonicalEq, Except.ok.injEq] at built
  have withHeader := plainFields_header plain unreserved count header
  have names := Value.hasNames_fieldEntries withHeader.distinct
  have sorted := (Value.hasNames_fieldEntries plain.distinct).sortEntries_perm
  have placed := sorted.cons (Value.text headerKey, Value.bytes header.toBytes)
  have moved := (names.perm placed.symm).insertEntry_perm.trans placed
  exact ⟨_, built.symm, moved⟩

/-- The packet for a plain record decodes to named entries, under every envelope, and the fields of the
record are among them. -/
theorem decode_build_hasNames {scheme : Scheme} {op : Op} {flags : UInt8} {group : UInt16}
    {seq id : UInt8} {fields : List (String × Value)} {packet : Bytes}
    (plain : Value.PlainFields fields) (unreserved : headerKey ∉ fields.map Prod.fst)
    (count : fields.length + 1 < 2 ^ 32)
    (built : build scheme op flags group seq id (.record fields) = .ok packet) :
    ∃ entries, Value.decode (Response.payloadOf scheme packet) = .ok (.map entries) ∧
      Value.HasNames entries ∧
      ∀ name, name ≠ headerKey → Value.entry? entries name = fields.lookup name := by
  cases coap : scheme.isCoap with
  | false =>
      simp only [build, coap, Bool.false_eq_true, if_false, Except.ok.injEq] at built
      obtain ⟨entries, decoded, names, found⟩ :=
        plain.decode (List.Perm.refl (Value.fieldEntries fields))
      refine ⟨entries, ?_, names, fun name _ => found name⟩
      have payloadEq : Response.payloadOf scheme packet = (Value.record fields).encode := by
        rw [← built]
        simp only [Response.payloadOf, coap, Bool.false_eq_true, if_false]
        exact List.drop_left' (Header.length_toBytes _)
      rw [payloadEq]
      exact decoded
  | true =>
      obtain ⟨written, packetEq, moved⟩ := build_embedded plain unreserved count coap built
      obtain ⟨entries, decoded, names, found⟩ :=
        (plainFields_header plain unreserved count _).decode moved
      refine ⟨entries, ?_, names, ?_⟩
      · rw [Response.payloadOf, if_pos coap, packetEq]
        exact decoded
      · intro name other
        have differs : (name == headerKey) = false := by simpa using other
        rw [found, List.lookup_cons, differs]

/-- The packet for a plain record decodes to the record, under every envelope. -/
theorem decode_build {scheme : Scheme} {op : Op} {flags : UInt8} {group : UInt16}
    {seq id : UInt8} {fields : List (String × Value)} {packet : Bytes}
    (plain : Value.PlainFields fields) (unreserved : headerKey ∉ fields.map Prod.fst)
    (count : fields.length + 1 < 2 ^ 32)
    (built : build scheme op flags group seq id (.record fields) = .ok packet) :
    ∃ entries, Value.decode (Response.payloadOf scheme packet) = .ok (.map entries) ∧
      ∀ name, name ≠ headerKey → Value.entry? entries name = fields.lookup name := by
  obtain ⟨entries, decoded, -, found⟩ := decode_build_hasNames plain unreserved count built
  exact ⟨entries, decoded, found⟩

/-- The header of a packet for a plain record is the one that it was built with, under every
envelope. -/
theorem header_build {scheme : Scheme} {op : Op} {flags : UInt8} {group : UInt16}
    {seq id : UInt8} {fields : List (String × Value)} {packet : Bytes}
    (plain : Value.PlainFields fields) (unreserved : headerKey ∉ fields.map Prod.fst)
    (count : fields.length + 1 < 2 ^ 32)
    (built : build scheme op flags group seq id (.record fields) = .ok packet) :
    ∃ length, Packet.header scheme packet =
      .ok { version := Header.requestVersion, op, flags, length, group, seq, id } := by
  have version_lt : Header.requestVersion.toNat < 4 := by decide
  cases coap : scheme.isCoap with
  | false => exact ⟨_, (build_standard coap built).2⟩
  | true =>
      obtain ⟨written, packetEq, moved⟩ := build_embedded plain unreserved count coap built
      obtain ⟨entries, decoded, -, found⟩ :=
        (plainFields_header plain unreserved count _).decode moved
      exact ⟨0, header_of_embedded coap (packetEq ▸ decoded)
        (by rw [found, List.lookup_cons, beq_self_eq_true]) version_lt⟩

end Packet

end SmpClient
