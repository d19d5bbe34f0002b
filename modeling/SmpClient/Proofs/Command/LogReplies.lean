import SmpClient.Command.Record
import SmpClient.Proofs.Packet.PacketLength
import SmpClient.Proofs.Packet.RoundTrip
import SmpClient.Proofs.Transfer.ChunkReplies

/-!
# Replies with a page of logs

A page holds logs, and these hold entries: records within records, each of which is put in an order of
its own when it is written.  What a device writes of a page is read back under every envelope.
-/

namespace SmpClient

namespace Cbor

namespace Value

/-- The fields of a record with their values in canonical form. -/
def canonicalFields (fields : List (String × Value)) : List (String × Value) :=
  fields.map fun (name, value) => (name, value.canonical)

theorem names_canonicalFields (fields : List (String × Value)) :
    (canonicalFields fields).map Prod.fst = fields.map Prod.fst := by
  simp [canonicalFields]

theorem canonicalEntries_fieldEntries (fields : List (String × Value)) :
    canonicalEntries (fieldEntries fields) = fieldEntries (canonicalFields fields) := by
  induction fields with
  | nil => rfl
  | cons field fields ih =>
      rw [fieldEntries, List.map_cons, canonicalEntries, ← fieldEntries, ih]
      simp only [Value.canonical, fieldEntries, canonicalFields, List.map_cons]

/-- In canonical form a record has its fields in canonical form, in some order. -/
theorem exists_canonical_record {fields : List (String × Value)}
    (distinct : (fields.map Prod.fst).Nodup) :
    ∃ entries, (Value.record fields).canonical = .map entries ∧
      List.Perm entries (fieldEntries (canonicalFields fields)) := by
  have names : HasNames (fieldEntries (canonicalFields fields)) := by
    apply hasNames_fieldEntries
    rwa [names_canonicalFields]
  refine ⟨_, ?_, names.sortEntries_perm⟩
  rw [Value.record, Value.canonical, ← fieldEntries, canonicalEntries_fieldEntries]

/-- The fields of a record are found under their names, in whatever order they are. -/
theorem found_of_perm {fields : List (String × Value)} {entries : List (Value × Value)}
    (distinct : (fields.map Prod.fst).Nodup) (moved : List.Perm entries (fieldEntries fields)) :
    HasNames entries ∧ ∀ name, entry? entries name = fields.lookup name := by
  have names := hasNames_fieldEntries distinct
  refine ⟨names.perm moved.symm, fun name => ?_⟩
  rw [← names.entry?_perm moved.symm, entry?_fieldEntries]

theorem itemsReadable_iff {depth : Nat} {items : List Value} :
    ItemsReadable depth items ↔ ∀ item ∈ items, item.Readable depth := by
  induction items with
  | nil => simp [ItemsReadable]
  | cons item items ih => simp [ItemsReadable, ih]

theorem readable_array {α : Type} {depth : Nat} {write : α → Value} {items : List α}
    (count : items.length < 2 ^ 64) (each : ∀ item ∈ items, (write item).Readable depth) :
    (Value.array (items.map write)).Readable (depth + 1) := by
  refine ⟨by rwa [List.length_map], itemsReadable_iff.mpr ?_⟩
  intro item member
  obtain ⟨written, among, rfl⟩ := List.mem_map.mp member
  exact each written among

theorem readable_record {depth : Nat} {fields : List (String × Value)}
    (count : fields.length < 2 ^ 64)
    (named : ∀ name ∈ fields.map Prod.fst, (Bytes.ofText name).length < 2 ^ 64)
    (values : ∀ value ∈ fields.map Prod.snd, value.Readable depth) :
    (Value.record fields).Readable (depth + 1) := by
  refine ⟨by rwa [List.length_map], entriesReadable_iff.mpr ?_⟩
  intro entry member
  obtain ⟨field, among, rfl⟩ := List.mem_map.mp member
  exact ⟨named field.1 (List.mem_map_of_mem among), values field.2 (List.mem_map_of_mem among)⟩

end Value

namespace Reader

open Value (canonicalFields)

theorem exists_fields_canonical (known : List String) (fields : List (String × Value))
    (distinct : (fields.map Prod.fst).Nodup) :
    ∃ found, Reader.fields known (Value.record fields).canonical = .ok found ∧
      ∀ name ∈ known, found.lookup name = (canonicalFields fields).lookup name := by
  obtain ⟨entries, canonicalEq, moved⟩ := Value.exists_canonical_record distinct
  obtain ⟨names, written⟩ :=
    Value.found_of_perm (by rwa [Value.names_canonicalFields]) moved
  obtain ⟨found, read, lookups⟩ := exists_fields known names
  exact ⟨found, canonicalEq ▸ read, fun name member => (lookups name member).trans (written name)⟩

theorem lt_of_natBelow {bound number : Nat} {value : Value}
    (read : natBelow bound value = .ok number) : number < bound := by
  unfold natBelow at read
  split at read
  · split at read
    · rename_i small
      exact Except.ok.inj read ▸ small
    · cases read
  · cases read

theorem list_canonical {α : Type} {read : Reader α} {write : α → Value} {items : List α}
    (back : ∀ item ∈ items, read (write item).canonical = .ok item) :
    list read (Value.array (items.map write)).canonical = .ok items := by
  rw [Value.canonical, list]
  induction items with
  | nil => rfl
  | cons item items ih =>
      obtain ⟨first, others⟩ := List.forall_mem_cons.mp back
      rw [List.map_cons, Value.canonicalItems, List.mapM_cons, first, ih others]
      rfl

end Reader

end Cbor

namespace Packet

open Cbor
open Value (canonicalFields)

/-- The packet for a record decodes to named entries, under every envelope, and the fields of the record
are among them. -/
theorem decode_build_record {scheme : Scheme} {op : Op} {flags : UInt8} {group : UInt16}
    {seq id : UInt8} {fields : List (String × Value)} {packet : Bytes}
    (distinct : (fields.map Prod.fst).Nodup) (unreserved : headerKey ∉ fields.map Prod.fst)
    (readable : (Value.record fields).Readable maximumDepth) (count : fields.length + 1 < 2 ^ 64)
    (built : build scheme op flags group seq id (.record fields) = .ok packet) :
    ∃ entries, Value.decode (Response.payloadOf scheme packet) = .ok (.map entries) ∧
      Value.HasNames entries ∧ ∀ name, name ≠ headerKey →
        Value.entry? entries name = (canonicalFields fields).lookup name := by
  obtain ⟨entries, canonicalEq, moved⟩ := Value.exists_canonical_record distinct
  rw [← Value.names_canonicalFields] at distinct unreserved
  cases coap : scheme.isCoap with
  | false =>
      obtain ⟨packetEq, -⟩ := build_standard coap built
      obtain ⟨names, found⟩ := Value.found_of_perm distinct moved
      refine ⟨entries, ?_, names, fun name _ => found name⟩
      rw [Response.payloadOf, coap, if_neg Bool.false_ne_true, packetEq,
        List.drop_left' (Header.length_toBytes _), Value.decode_encode readable, canonicalEq]
  | true =>
      simp only [build, coap, if_true, canonicalEq, Except.ok.injEq] at built
      generalize Header.mk _ _ _ _ _ _ _ = header at built
      have settled : (Value.map entries).canonical = .map entries := by
        rw [← canonicalEq, Value.canonical_canonical]
      have entriesReadable : (Value.map entries).Readable maximumDepth :=
        canonicalEq ▸ Value.Readable.canonical _ _ readable
      have few : entries.length + 1 < 2 ^ 64 := by
        rw [moved.length_eq, Value.fieldEntries, canonicalFields, List.length_map, List.length_map]
        exact count
      have keyFits : (Value.text headerKey).Readable 126 := by decide +kernel
      have headerFits : (Value.bytes header.toBytes).Readable 126 := by
        rw [Value.Readable, Header.length_toBytes]
        decide
      have decoded := Value.decode_encode
        (Value.readable_map_insertEntry entriesReadable few keyFits headerFits)
      rw [Value.canonical_map_insertEntry settled (by simp only [Value.canonical])
        (by simp only [Value.canonical])] at decoded
      have distinctMore :
          (((headerKey, Value.bytes header.toBytes) :: canonicalFields fields).map Prod.fst).Nodup :=
        List.nodup_cons.mpr ⟨unreserved, distinct⟩
      have placed := moved.cons (Value.text headerKey, Value.bytes header.toBytes)
      have movedMore :=
        ((Value.hasNames_fieldEntries distinctMore).perm placed.symm).insertEntry_perm.trans placed
      obtain ⟨names, found⟩ := Value.found_of_perm distinctMore movedMore
      refine ⟨_, ?_, names, fun name other => ?_⟩
      · rw [Response.payloadOf, if_pos coap, ← built, decoded]
      · have differs : (name == headerKey) = false := by simpa using other
        rw [found, List.lookup_cons, differs]

end Packet

/-! ## What a device writes -/

/-- The fields that a device writes of an entry. -/
def LogEntry.fields (entry : LogEntry) : List (String × Cbor.Value) :=
  [("msg", entry.content), ("ts", .int entry.timestamp), ("level", .nat entry.level),
    ("index", .nat entry.index), ("module", .nat entry.source)]

/-- The fields that a device writes of a log. -/
def Log.fields (log : Log) : List (String × Cbor.Value) :=
  [("name", .text log.name), ("type", .nat log.kind),
    ("entries", .array (log.entries.map fun entry => .record entry.fields))]

/-- The fields that a device writes of a page. -/
def LogPage.fields (page : LogPage) : List (String × Cbor.Value) :=
  [("next_index", .nat page.nextIndex),
    ("logs", .array (page.logs.map fun log => .record log.fields))]

/-- An entry that can be written: its message is a text or bytes or the like, and its numbers fit. -/
structure LogEntry.Writable (entry : LogEntry) : Prop where
  canonical : entry.content.canonical = entry.content
  readable : ∀ depth, entry.content.Readable depth
  timestamp_ge : -0x8000000000000000 ≤ entry.timestamp
  timestamp_le : entry.timestamp ≤ 0x7fffffffffffffff
  level_lt : entry.level < 2 ^ 32
  index_lt : entry.index < 2 ^ 64
  source_lt : entry.source < 2 ^ 32

theorem LogEntry.Writable.ofText {message : String} {index : Nat}
    (message_lt : (Bytes.ofText message).length < 2 ^ 64) (index_lt : index < 2 ^ 64) :
    LogEntry.Writable { content := .text message, index } where
  canonical := by simp only [Cbor.Value.canonical]
  readable := fun _ => message_lt
  timestamp_ge := by simp
  timestamp_le := by simp
  level_lt := by simp
  index_lt
  source_lt := by simp

structure Log.Writable (log : Log) : Prop where
  name_lt : (Bytes.ofText log.name).length < 2 ^ 64
  kind_lt : log.kind < 2 ^ 32
  count_lt : log.entries.length < 2 ^ 64
  entries : ∀ entry ∈ log.entries, entry.Writable

structure LogPage.Writable (page : LogPage) : Prop where
  nextIndex_lt : page.nextIndex < 2 ^ 64
  count_lt : page.logs.length < 2 ^ 64
  logs : ∀ log ∈ page.logs, log.Writable

section

open Cbor (Reader)
open Cbor.Reader (natBelow_nat)
open Cbor.Value (canonicalFields)

theorem LogEntry.read_written {entry : LogEntry} (writable : entry.Writable) :
    LogEntry.read (Cbor.Value.record entry.fields).canonical = .ok entry := by
  obtain ⟨found, read, lookups⟩ := Reader.exists_fields_canonical
    ["msg", "ts", "level", "index", "module"] entry.fields (by simp [LogEntry.fields])
  have contentEq : found.lookup "msg" = some entry.content :=
    (lookups "msg" (by simp)).trans (congrArg some writable.canonical)
  have timestampEq : found.lookup "ts" = some (.int entry.timestamp) := lookups "ts" (by simp)
  have levelEq : found.lookup "level" = some (.nat entry.level) := lookups "level" (by simp)
  have indexEq : found.lookup "index" = some (.nat entry.index) := lookups "index" (by simp)
  have sourceEq : found.lookup "module" = some (.nat entry.source) := lookups "module" (by simp)
  have timestampRead : Reader.int64 (.int entry.timestamp) = .ok entry.timestamp :=
    if_pos ⟨writable.timestamp_ge, writable.timestamp_le⟩
  have levelRead : Reader.nat32 (.nat entry.level) = .ok entry.level :=
    natBelow_nat writable.level_lt
  have indexRead : Reader.nat64 (.nat entry.index) = .ok entry.index :=
    natBelow_nat writable.index_lt
  have sourceRead : Reader.nat32 (.nat entry.source) = .ok entry.source :=
    natBelow_nat writable.source_lt
  simp only [LogEntry.read, read, Reader.Fields.required, Reader.Fields.optional, contentEq,
    timestampEq, levelEq, indexEq, sourceEq, timestampRead, levelRead, indexRead, sourceRead,
    Reader.value, bind, Except.bind, pure, Except.pure]

theorem Log.read_written {log : Log} (writable : log.Writable) :
    Log.read (Cbor.Value.record log.fields).canonical = .ok log := by
  obtain ⟨found, read, lookups⟩ := Reader.exists_fields_canonical ["name", "type", "entries"]
    log.fields (by simp [Log.fields])
  have nameEq : found.lookup "name" = some (.text log.name) := lookups "name" (by simp)
  have kindEq : found.lookup "type" = some (.nat log.kind) := lookups "type" (by simp)
  have entriesEq : found.lookup "entries" = some (Cbor.Value.array
      (log.entries.map fun entry => .record entry.fields)).canonical :=
    lookups "entries" (by simp)
  have kindRead : Reader.nat32 (.nat log.kind) = .ok log.kind := natBelow_nat writable.kind_lt
  have entriesRead : Reader.list LogEntry.read (Cbor.Value.array
      (log.entries.map fun entry => .record entry.fields)).canonical = .ok log.entries :=
    Reader.list_canonical fun entry member =>
      LogEntry.read_written (writable.entries entry member)
  simp only [Log.read, read, Reader.Fields.required, Reader.Fields.optional, nameEq, kindEq,
    entriesEq, Reader.text, kindRead, entriesRead, bind, Except.bind, pure, Except.pure]

theorem LogPage.read_of_entries {page : LogPage} (writable : page.Writable)
    {entries : List (Cbor.Value × Cbor.Value)} (names : Cbor.Value.HasNames entries)
    (written : ∀ name, name ≠ Packet.headerKey →
      Cbor.Value.entry? entries name = (canonicalFields page.fields).lookup name) :
    LogPage.read (.map entries) = .ok page := by
  obtain ⟨found, read, lookups⟩ := Reader.exists_fields ["next_index", "logs"] names
  have nextIndexEq : found.lookup "next_index" = some (.nat page.nextIndex) :=
    (lookups "next_index" (by simp)).trans (written "next_index" (by decide))
  have logsEq : found.lookup "logs" = some (Cbor.Value.array
      (page.logs.map fun log => .record log.fields)).canonical :=
    (lookups "logs" (by simp)).trans (written "logs" (by decide))
  have nextIndexRead : Reader.nat64 (.nat page.nextIndex) = .ok page.nextIndex :=
    natBelow_nat writable.nextIndex_lt
  have logsRead : Reader.list Log.read (Cbor.Value.array
      (page.logs.map fun log => .record log.fields)).canonical = .ok page.logs :=
    Reader.list_canonical fun log member => Log.read_written (writable.logs log member)
  simp only [LogPage.read, read, Reader.Fields.optional, nextIndexEq, logsEq, nextIndexRead,
    logsRead, bind, Except.bind, pure, Except.pure]

theorem LogEntry.readable_written {entry : LogEntry} (writable : entry.Writable) (depth : Nat) :
    (Cbor.Value.record entry.fields).Readable (depth + 1) := by
  refine Cbor.Value.readable_record (by simp [LogEntry.fields]) ?named ?values
  case named =>
    simp only [LogEntry.fields, List.map]
    decide +kernel
  case values =>
    have timestampFits : (Cbor.Value.int entry.timestamp).Readable depth := by
      have atLeast := writable.timestamp_ge
      have atMost := writable.timestamp_le
      cases timestampEq : entry.timestamp with
      | ofNat number =>
          rw [timestampEq, Int.ofNat_eq_natCast] at atMost
          exact (show number < 2 ^ 64 by omega)
      | negSucc number =>
          rw [timestampEq, Int.negSucc_eq] at atLeast
          exact (show number < 2 ^ 64 by omega)
    have levelFits : entry.level < 2 ^ 64 := writable.level_lt.trans (by decide)
    have sourceFits : entry.source < 2 ^ 64 := writable.source_lt.trans (by decide)
    simp only [LogEntry.fields, List.map, List.forall_mem_cons]
    exact ⟨writable.readable depth, timestampFits, levelFits, writable.index_lt, sourceFits,
      List.forall_mem_nil _⟩

theorem Log.readable_written {log : Log} (writable : log.Writable) (depth : Nat) :
    (Cbor.Value.record log.fields).Readable (depth + 3) := by
  refine Cbor.Value.readable_record (by simp [Log.fields]) ?named ?values
  case named =>
    simp only [Log.fields, List.map]
    decide +kernel
  case values =>
    have kindFits : log.kind < 2 ^ 64 := writable.kind_lt.trans (by decide)
    have entriesFit : (Cbor.Value.array
        (log.entries.map fun entry => .record entry.fields)).Readable (depth + 2) :=
      Cbor.Value.readable_array writable.count_lt fun entry member =>
        LogEntry.readable_written (writable.entries entry member) depth
    simp only [Log.fields, List.map, List.forall_mem_cons]
    exact ⟨writable.name_lt, kindFits, entriesFit, List.forall_mem_nil _⟩

theorem LogPage.readable_written {page : LogPage} (writable : page.Writable) (depth : Nat) :
    (Cbor.Value.record page.fields).Readable (depth + 5) := by
  refine Cbor.Value.readable_record (by simp [LogPage.fields]) ?named ?values
  case named =>
    simp only [LogPage.fields, List.map]
    decide +kernel
  case values =>
    have logsFit : (Cbor.Value.array
        (page.logs.map fun log => .record log.fields)).Readable (depth + 4) :=
      Cbor.Value.readable_array writable.count_lt fun log member =>
        Log.readable_written (writable.logs log member) depth
    simp only [LogPage.fields, List.map, List.forall_mem_cons]
    exact ⟨writable.nextIndex_lt, logsFit, List.forall_mem_nil _⟩

end

namespace LogPage

/-- The next index comes from 64 bits. -/
theorem nextIndex_lt_of_read {value : Cbor.Value} {page : LogPage}
    (read : LogPage.read value = .ok page) : page.nextIndex < 2 ^ 64 := by
  obtain ⟨fields, indexRead⟩ : ∃ fields : Cbor.Reader.Fields,
      fields.optional "next_index" 0 Cbor.Reader.nat64 = .ok page.nextIndex := by
    simp only [LogPage.read, bind, Except.bind, pure, Except.pure] at read
    split at read
    · cases read
    · rename_i fields _
      split at read
      · cases read
      · rename_i indexRead
        split at read
        · cases read
        · exact ⟨fields, Except.ok.inj read ▸ indexRead⟩
  rw [Cbor.Reader.Fields.optional] at indexRead
  split at indexRead
  · exact Cbor.Reader.lt_of_natBelow indexRead
  · rw [← Except.ok.inj indexRead]
    decide

theorem nextIndex_lt_of_conclude {name : Option String} {index : Option Nat} {scheme : Scheme}
    {packet : Bytes} {outcome : Except Error Response} {page : LogPage}
    (concluded : (Command.logPage name index).conclude scheme packet outcome = .ok page) :
    page.nextIndex < 2 ^ 64 := by
  simp only [Command.conclude, bind, Except.bind] at concluded
  split at concluded
  · cases concluded
  · simp only [Command.logPage, Command.asking, Response.body, bind, Except.bind] at concluded
    split at concluded
    · cases concluded
    · split at concluded
      · rename_i read
        exact Except.ok.inj concluded ▸ nextIndex_lt_of_read read
      · cases concluded

end LogPage

namespace LogReader

open Cbor.Value (PlainFields optionalField)

/-- The response to a request with a header, with a page and no failure. -/
def replying (scheme : Scheme) (header : Header) (bytes : Bytes) : Response :=
  { scheme, bytes, header := some { header with op := header.op.response }, rc := 0,
    groupCode := none, offset := none }

/-- A page that a device writes under the header of the request is what the request comes to. -/
theorem conclude_replying {scheme : Scheme} {packet bytes : Bytes} {header : Header}
    {page : LogPage} {name : Option String} {index : Option Nat}
    (headerEq : Packet.header scheme packet = .ok header) (writable : page.Writable)
    (built : Packet.build scheme header.op.response 0 header.group header.seq header.id
      (.record page.fields) = .ok bytes) :
    (Command.logPage name index).conclude scheme packet (.ok (replying scheme header bytes)) =
      .ok page := by
  obtain ⟨entries, decoded, names, written⟩ := Packet.decode_build_record
    (by simp [LogPage.fields]) (by simp [LogPage.fields, Packet.headerKey])
    (LogPage.readable_written writable 122) (by simp [LogPage.fields]) built
  have read := LogPage.read_of_entries writable names written
  have payloadEq : Response.decodePayload (Response.payloadOf scheme bytes) =
      .ok (.map entries) := Response.decodePayload_of_decode decoded
  have answered : Command.answered scheme packet (.ok (replying scheme header bytes)) =
      .ok (replying scheme header bytes) :=
    Command.answered_of_success headerEq rfl rfl rfl
  rw [Command.conclude, answered]
  simp only [Command.logPage, Command.asking, Response.body, Response.payload, replying, payloadEq,
    read, bind, Except.bind, pure, Except.pure]

/-- The index from which on a request asks for entries. -/
def askedIndex (scheme : Scheme) (packet : Bytes) : Nat :=
  match Cbor.Value.decode (Response.payloadOf scheme packet) with
  | .ok (.map entries) =>
      match Cbor.Value.entry? entries "index" with
      | some (.int (.ofNat index)) => index
      | _ => 0
  | _ => 0

/-- What a device reads in a request for a page: the header and the index. -/
theorem asked_of_packet {scheme : Scheme} {name : Option String}
    (name_lt : ∀ log ∈ name, (Bytes.ofText log).length < 2 ^ 64) {index : Option Nat}
    (index_lt : ∀ minimum ∈ index, minimum < 2 ^ 64) {seq : UInt8} {packet : Bytes}
    (built : (Command.logPage name index).packet scheme seq = .ok packet) :
    (∃ header, Packet.header scheme packet = .ok header) ∧
      askedIndex scheme packet = index.getD 0 := by
  have fromIndex : PlainFields (optionalField "index" index .nat) := by
    cases index with
    | none => exact PlainFields.nil
    | some minimum =>
        exact PlainFields.nil.cons_nat (by simp) (by decide +kernel) (index_lt minimum rfl) (by simp)
  have plain : PlainFields
      (optionalField "log_name" name .text ++ optionalField "index" index .nat) := by
    cases name with
    | none => exact fromIndex
    | some log =>
        refine fromIndex.cons_text ?_ (by decide +kernel) (name_lt log rfl) ?_ <;>
          cases index <;> simp [optionalField]
  have unreserved : Packet.headerKey ∉
      (optionalField "log_name" name Cbor.Value.text ++ optionalField "index" index .nat).map
        Prod.fst := by
    cases name <;> cases index <;> simp [optionalField, Packet.headerKey]
  have count : (optionalField "log_name" name Cbor.Value.text ++
      optionalField "index" index .nat).length + 1 < 2 ^ 32 := by
    cases name <;> cases index <;> simp [optionalField]
  have indexFound : (optionalField "log_name" name Cbor.Value.text ++
      optionalField "index" index .nat).lookup "index" = index.map Cbor.Value.nat := by
    cases name <;> cases index <;> rfl
  have messageEq : Message.showLogs name index none = .record
      (optionalField "log_name" name .text ++ optionalField "index" index .nat) := by
    simp [Message.showLogs, optionalField]
  simp only [Command.packet, Command.logPage, Command.asking, messageEq] at built
  obtain ⟨length, headerEq⟩ := Packet.header_build plain unreserved count built
  obtain ⟨entries, decoded, found⟩ := Packet.decode_build plain unreserved count built
  refine ⟨⟨_, headerEq⟩, ?_⟩
  rw [askedIndex, decoded]
  simp only [found "index" (by decide), indexFound]
  cases index <;> rfl

/-- What comes back from a device that answers a request with a page, which depends on the index that is
asked for and on all that was sent. -/
def pagingAnswer (scheme : Scheme) (paging : Nat → List Bytes → LogPage) (sent : List Bytes) :
    Except Error Response := do
  let packet := sent.getLastD []
  let header ← Packet.header scheme packet
  let bytes ← Packet.build scheme header.op.response 0 header.group header.seq header.id
    (.record (paging (askedIndex scheme packet) sent).fields)
  return replying scheme header bytes

theorem conclude_pagingAnswer {scheme : Scheme} {name : Option String}
    (name_lt : ∀ log ∈ name, (Bytes.ofText log).length < 2 ^ 64) {index : Option Nat}
    (index_lt : ∀ minimum ∈ index, minimum < 2 ^ 64) {seq : UInt8} {sent : List Bytes}
    {packet : Bytes} (built : (Command.logPage name index).packet scheme seq = .ok packet)
    {paging : Nat → List Bytes → LogPage}
    (writable : (paging (index.getD 0) (sent ++ [packet])).Writable) :
    (Command.logPage name index).conclude scheme packet
        (pagingAnswer scheme paging (sent ++ [packet])) =
      .ok (paging (index.getD 0) (sent ++ [packet])) := by
  obtain ⟨⟨header, headerEq⟩, indexEq⟩ := asked_of_packet name_lt index_lt built
  obtain ⟨bytes, replied⟩ := Packet.exists_build scheme header.op.response 0 header.group header.seq
    header.id (paging (index.getD 0) (sent ++ [packet])).fields
  have answerEq : pagingAnswer scheme paging (sent ++ [packet]) =
      .ok (replying scheme header bytes) := by
    simp [pagingAnswer, headerEq, indexEq, replied, bind, Except.bind, pure, Except.pure]
  rw [answerEq]
  exact conclude_replying headerEq writable replied

end LogReader

end SmpClient
