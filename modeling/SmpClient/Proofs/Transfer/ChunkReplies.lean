import SmpClient.Proofs.Transfer.DownloadContent
import SmpClient.Proofs.Transfer.StoreRequest

/-!
# Replies with a chunk of a file

A record is read from a map whatever else the map has, and in whatever order.  So what a device writes
of a chunk is read back under every envelope, also when the header is among the entries.
-/

namespace SmpClient

namespace Cbor

namespace Reader

open Value (HasNames)

/-- The fields of a record with one entry more. -/
def addField (known : List String) (found : Fields) (entry : Value × Value) :
    Except ReadError Fields := do
  match ← fieldOfKey known entry.1 with
  | none => return found
  | some name =>
      if (found.lookup name).isSome then throw (.repeated name)
      else return (name, entry.2) :: found

theorem fields_map (known : List String) (entries : List (Value × Value)) :
    fields known (.map entries) = entries.foldlM (addField known) [] :=
  rfl

theorem addField_text (known : List String) {found : Fields} {key : String}
    (absent : found.lookup key = none) (value : Value) :
    addField known found (.text key, value) =
      .ok (if key ∈ known then (key, value) :: found else found) := by
  by_cases member : key ∈ known
  · have keyEq : known.find? (· = key) = some key := by
      cases found : known.find? (· = key) with
      | none => exact absurd (List.find?_eq_none.mp found key member) (by simp)
      | some name => simpa using List.find?_some found
    simp [addField, fieldOfKey, keyEq, absent, member, bind, Except.bind, pure, Except.pure]
  · have unknown : known.find? (· = key) = none := by
      rw [List.find?_eq_none]
      intro name among same
      simp only [decide_eq_true_eq] at same
      exact member (same ▸ among)
    simp [addField, fieldOfKey, unknown, member, bind, Except.bind, pure, Except.pure]

/-- What is found under a name goes on to be found, and so is what the entries have under it. -/
theorem exists_foldlM_addField (known : List String) {entries : List (Value × Value)}
    (names : HasNames entries) (before : Fields)
    (fresh : ∀ name, Value.text name ∈ entries.map Prod.fst → before.lookup name = none) :
    ∃ found, entries.foldlM (addField known) before = .ok found ∧
      ∀ name ∈ known, found.lookup name = (before.lookup name).or (Value.entry? entries name) := by
  -- on the entries: the name of one is not among the later ones, so their fields stay as they are
  induction entries generalizing before with
  | nil => exact ⟨before, rfl, by simp [Value.entry?]⟩
  | cons entry entries ih =>
      obtain ⟨keyValue, value⟩ := entry
      obtain ⟨key, keyEq⟩ := names.texts _ List.mem_cons_self
      obtain rfl : keyValue = .text key := keyEq
      obtain ⟨notLater, distinct⟩ := List.nodup_cons.mp names.distinct
      have later : HasNames entries :=
        ⟨fun entry member => names.texts entry (List.mem_cons_of_mem _ member), distinct⟩
      have absent : before.lookup key = none := fresh key (by simp)
      have same {name : String} (other : name ≠ key) :
          (if key ∈ known then (key, value) :: before else before).lookup name =
            before.lookup name := by
        have differs : (name == key) = false := by simpa using other
        split
        · rw [List.lookup_cons, differs]
        · rfl
      obtain ⟨found, read, lookups⟩ :=
        ih later (if key ∈ known then (key, value) :: before else before) fun name member => by
          rw [same fun equal => notLater (equal ▸ member)]
          exact fresh name (List.mem_cons_of_mem _ member)
      refine ⟨found, ?_, fun name member => ?_⟩
      · rw [List.foldlM_cons, addField_text known absent]
        exact read
      · rw [lookups name member]
        by_cases equal : name = key
        · subst equal
          simp [member, absent, Value.entry?]
        · rw [same equal]
          simp [Value.entry?, Ne.symm equal]

theorem exists_fields (known : List String) {entries : List (Value × Value)}
    (names : HasNames entries) :
    ∃ found, fields known (.map entries) = .ok found ∧
      ∀ name ∈ known, found.lookup name = Value.entry? entries name := by
  obtain ⟨found, read, lookups⟩ := exists_foldlM_addField known names [] (by simp)
  exact ⟨found, (fields_map known entries).trans read, by simpa using lookups⟩

theorem natBelow_nat {number bound : Nat} (small : number < bound) :
    natBelow bound (.nat number) = .ok number :=
  if_pos small

end Reader

end Cbor

namespace FileChunk

open Cbor.Value (PlainFields)

/-- A chunk that can be written: its numbers and its data fit. -/
structure Writable (chunk : FileChunk) : Prop where
  offset_lt : chunk.offset < 2 ^ 64
  data_lt : chunk.data.length < 2 ^ 64
  length_lt : ∀ length ∈ chunk.length, length < 2 ^ 64

/-- The fields that a device writes of a chunk. -/
def fields (chunk : FileChunk) : List (String × Cbor.Value) :=
  [("off", .nat chunk.offset), ("data", .bytes chunk.data),
    ("len", Cbor.Value.orNull .nat chunk.length)]

theorem plainFields {chunk : FileChunk} (writable : chunk.Writable) :
    PlainFields chunk.fields := by
  have last : PlainFields [("len", Cbor.Value.orNull .nat chunk.length)] := by
    cases lengthEq : chunk.length with
    | none =>
        exact PlainFields.nil.cons (by simp) (by decide +kernel)
          (by simp [Cbor.Value.orNull, Cbor.Value.canonical]) (fun _ => trivial) (by simp)
    | some length =>
        exact PlainFields.nil.cons_nat (by simp) (by decide +kernel)
          (writable.length_lt length lengthEq) (by simp)
  exact (last.cons_bytes (by simp) (by decide +kernel) writable.data_lt (by simp)).cons_nat
    (by simp) (by decide +kernel) writable.offset_lt (by simp)

theorem readBelow_of_entries {chunk : FileChunk} (writable : chunk.Writable)
    {entries : List (Cbor.Value × Cbor.Value)} (names : Cbor.Value.HasNames entries)
    (written : ∀ name, name ≠ Packet.headerKey →
      Cbor.Value.entry? entries name = chunk.fields.lookup name) :
    readBelow 0x10000000000000000 (.map entries) = .ok chunk := by
  obtain ⟨found, read, lookups⟩ := Cbor.Reader.exists_fields ["off", "data", "len"] names
  have offsetEq : found.lookup "off" = some (.nat chunk.offset) := by
    rw [lookups "off" (by simp), written "off" (by decide)]
    rfl
  have dataEq : found.lookup "data" = some (.bytes chunk.data) := by
    rw [lookups "data" (by simp), written "data" (by decide)]
    rfl
  have lengthEq : found.lookup "len" = some (Cbor.Value.orNull .nat chunk.length) := by
    rw [lookups "len" (by simp), written "len" (by decide)]
    rfl
  have lengthRead : Cbor.Reader.optional (Cbor.Reader.natBelow 0x10000000000000000)
      (Cbor.Value.orNull .nat chunk.length) = .ok chunk.length := by
    cases lengthEq : chunk.length with
    | none => rfl
    | some length =>
        have lengthRead : Cbor.Reader.natBelow 0x10000000000000000 (.nat length) = .ok length :=
          Cbor.Reader.natBelow_nat (writable.length_lt length lengthEq)
        simp only [Cbor.Value.orNull, Cbor.Reader.optional, lengthRead, Except.map]
  have offsetRead : Cbor.Reader.natBelow 0x10000000000000000 (.nat chunk.offset) =
      .ok chunk.offset :=
    Cbor.Reader.natBelow_nat writable.offset_lt
  simp only [readBelow, read, Cbor.Reader.Fields.required, Cbor.Reader.Fields.optional, offsetEq,
    dataEq, lengthEq, bind, Except.bind, offsetRead, lengthRead, Cbor.Reader.blob, pure,
    Except.pure]

end FileChunk

/-- What decodes is read as it is decoded: it is not empty. -/
theorem Response.decodePayload_of_decode {payload : Bytes} {value : Cbor.Value}
    (decoded : Cbor.Value.decode payload = .ok value) : decodePayload payload = .ok value := by
  have present : payload ≠ [] := by
    rintro rfl
    simp [Cbor.Value.decode, Cbor.readItem] at decoded
  rw [decodePayload, if_neg (by simpa using present), decoded]

/-- A response under the header of the request that reports no failure is an answer to it. -/
theorem Command.answered_of_success {scheme : Scheme} {packet : Bytes} {header : Header}
    {response : Response} (headerEq : Packet.header scheme packet = .ok header)
    (replied : response.header = some { header with op := header.op.response })
    (succeeded : response.rc = 0) (ungrouped : response.groupCode = none) :
    answered scheme packet (.ok response) = .ok response := by
  have answers : header.isAnsweredBy { header with op := header.op.response } = true := by
    simp [Header.isAnsweredBy]
  simp [answered, checkAnswer, headerEq, replied, answers, Response.check, Response.isSuccess,
    succeeded, ungrouped, bind, Except.bind, pure, Except.pure]

namespace Download

/-- The response to a request with a header, with a chunk and no failure. -/
def replying (scheme : Scheme) (header : Header) (bytes : Bytes) (chunk : FileChunk) : Response :=
  { scheme, bytes, header := some { header with op := header.op.response }, rc := 0,
    groupCode := none, offset := some chunk.offset }

/-- A chunk that a device writes under the header of the request is brought by its response. -/
theorem brings_replying {scheme : Scheme} {packet bytes : Bytes} {header : Header}
    {chunk : FileChunk} (headerEq : Packet.header scheme packet = .ok header)
    (writable : chunk.Writable)
    (built : Packet.build scheme header.op.response 0 header.group header.seq header.id
      (.record chunk.fields) = .ok bytes) :
    Brings scheme ⟨packet, .ok (replying scheme header bytes chunk)⟩ chunk := by
  have unreserved : Packet.headerKey ∉ chunk.fields.map Prod.fst := by
    simp [FileChunk.fields, Packet.headerKey]
  obtain ⟨entries, decoded, names, written⟩ := Packet.decode_build_hasNames
    (FileChunk.plainFields writable) unreserved (by simp [FileChunk.fields]) built
  have read := FileChunk.readBelow_of_entries writable names written
  have payloadEq : Response.decodePayload (Response.payloadOf scheme bytes) =
      .ok (.map entries) := Response.decodePayload_of_decode decoded
  have answered : Command.answered scheme packet (.ok (replying scheme header bytes chunk)) =
      .ok (replying scheme header bytes chunk) :=
    Command.answered_of_success headerEq rfl rfl rfl
  rw [Brings, answered]
  simp only [Except.bind, Response.body, Response.payload, replying, payloadEq, read, bind, pure,
    Except.pure]

/-- The offset that a request asks for. -/
def askedOffset (scheme : Scheme) (packet : Bytes) : Nat :=
  match Cbor.Value.decode (Response.payloadOf scheme packet) with
  | .ok (.map entries) =>
      match Cbor.Value.entry? entries "off" with
      | some (.int (.ofNat offset)) => offset
      | _ => 0
  | _ => 0

/-- What a device reads in a request for a chunk: the header, and the offset if it has 32 bits. -/
theorem asked_of_readPacket {scheme : Scheme} {path : String}
    (path_lt : (Bytes.ofText path).length < 2 ^ 64) {seq : UInt8} {offset : Nat}
    (small : offset < 2 ^ 32) {packet : Bytes}
    (built : readPacket scheme path seq offset = .ok packet) :
    (∃ header, Packet.header scheme packet = .ok header) ∧ askedOffset scheme packet = offset := by
  have asking : Cbor.Value.PlainFields [("off", .nat (offset % 0x100000000))] :=
    Cbor.Value.PlainFields.nil.cons_nat (by simp) (by decide +kernel) (by omega) (by simp)
  have plain :
      Cbor.Value.PlainFields [("name", .text path), ("off", .nat (offset % 0x100000000))] :=
    asking.cons_text (by simp) (by decide +kernel) path_lt (by simp)
  have unreserved : Packet.headerKey ∉
      [("name", Cbor.Value.text path), ("off", .nat (offset % 0x100000000))].map Prod.fst := by
    simp [Packet.headerKey]
  obtain ⟨length, headerEq⟩ := Packet.header_build plain unreserved (by simp) built
  obtain ⟨entries, decoded, found⟩ := Packet.decode_build plain unreserved (by simp) built
  have offsetFound : Cbor.Value.entry? entries "off" = some (.int (.ofNat offset)) := by
    have offsetEq : offset % 0x100000000 = offset := Nat.mod_eq_of_lt small
    rw [found "off" (by decide), offsetEq]
    rfl
  exact ⟨⟨_, headerEq⟩, by simp only [askedOffset, decoded, offsetFound]⟩

/-- What comes back from a device that sends two bytes of a file, then one, then two again, and
announces the length with the first ones only. -/
def servingAnswer (scheme : Scheme) (file : Bytes) (sent : List Bytes) : Except Error Response := do
  let packet := sent.getLastD []
  let header ← Packet.header scheme packet
  let offset := askedOffset scheme packet
  let chunk : FileChunk :=
    { offset
      data := file.slice offset (sent.length % 2 + 1)
      length := if sent.length = 1 then some file.length else none }
  let bytes ← Packet.build scheme header.op.response 0 header.group header.seq header.id
    (.record chunk.fields)
  return replying scheme header bytes chunk

end Download

end SmpClient
