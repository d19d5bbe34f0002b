import SmpClient.Proofs.Transfer.ChunkFits
import SmpClient.Proofs.Transfer.ChunkPackets
import SmpClient.Proofs.Upgrade.SessionSteps

/-!
# The requests of a session

A session sends its own requests and the chunks of its uploads.  By their headers a device tells which
of them write the state of images: those that test an image and those that confirm one, each of which
names the image by its hash.
-/

namespace SmpClient

/-- Whether requests with this header write the state of images. -/
def Header.marksImages (header : Header) : Bool :=
  header.op = .write && header.group = Group.image.number && header.id = 0

/-- What a request that writes the state of images says: which image is marked, and whether for good. -/
structure Marking where
  hash : Bytes
  confirm : Bool
  deriving DecidableEq

/-- What a device reads in a request to mark an image. -/
def Marking.read? (scheme : Scheme) (packet : Bytes) : Option Marking :=
  match Cbor.Value.decode (Response.payloadOf scheme packet) with
  | .ok (.map entries) =>
      match Cbor.Value.entry? entries "hash", Cbor.Value.entry? entries "confirm" with
      | some (.bytes hash), some (.bool confirm) => some { hash, confirm }
      | _, _ => none
  | _ => none

/-- An image that memory can hold, with an index of 32 bits. -/
structure TargetImage.Addressable (target : TargetImage) : Prop where
  index_lt : target.index < 2 ^ 32
  data_lt : target.data.length < 2 ^ 64
  hash_lt : target.hash.length < 2 ^ 64

open Cbor.Value (PlainFields)

/-- The header of a request whose fields are plain tells whether it writes the state of images. -/
theorem Packet.marksImages_build {scheme : Scheme} {op : Op} {group : UInt16} {seq id : UInt8}
    {fields : List (String × Cbor.Value)} {packet : Bytes} (plain : PlainFields fields)
    (unreserved : headerKey ∉ fields.map Prod.fst) (count : fields.length ≤ 8)
    (built : build scheme op 0 group seq id (.record fields) = .ok packet) :
    ∃ header, Packet.header scheme packet = .ok header ∧
      header.marksImages = (op = .write && group = Group.image.number && id = 0) := by
  obtain ⟨length, read⟩ := header_build plain unreserved (by omega) built
  exact ⟨_, read, rfl⟩

/-- No chunk of an image writes the state of images. -/
theorem Upload.Sends.marksImages {upload : Upload} (addressable : upload.Addressable) {index : Nat}
    (destinationEq : upload.destination = .image index) {packet : Bytes} (sends : upload.Sends packet) :
    ∃ header, Packet.header upload.scheme packet = .ok header ∧ header.marksImages = false := by
  obtain ⟨seq, offset, length, -, built⟩ := sends
  obtain ⟨fields, chunkEq, chunk⟩ := Destination.exists_chunkFields addressable.data_lt offset
    length addressable.destination
  rw [chunkPacket, chunkEq, destinationEq] at built
  obtain ⟨header, read, marksEq⟩ :=
    Packet.marksImages_build chunk.plain chunk.unreserved chunk.count built
  exact ⟨header, read, marksEq⟩

namespace Session

namespace Question

/-- The image that a request names. -/
def target? : Question → Option TargetImage
  | .test target | .confirm target => some target
  | _ => none

/-- How a request marks an image. -/
def marking? : Question → Option Marking
  | .test target => some { hash := target.hash, confirm := false }
  | .confirm target => some { hash := target.hash, confirm := true }
  | _ => none

variable {scheme : Scheme} {seq : UInt8} {packet : Bytes}

theorem marks_of_markImage {hash : Bytes} (named : hash ≠ []) (hash_lt : hash.length < 2 ^ 64)
    {confirm : Bool} (built : (Command.markImage hash confirm).packet scheme seq = .ok packet) :
    (∃ header, Packet.header scheme packet = .ok header ∧ header.marksImages = true) ∧
      Marking.read? scheme packet = some { hash, confirm } := by
  have last : PlainFields [("confirm", .bool confirm)] :=
    PlainFields.nil.cons (by simp) (by decide +kernel) (by simp [Cbor.Value.canonical])
      (fun _ => trivial) (by simp)
  have plain : PlainFields [("hash", .bytes hash), ("confirm", .bool confirm)] :=
    last.cons_bytes (by simp) (by decide +kernel) hash_lt (by simp)
  have unreserved : Packet.headerKey ∉
      [("hash", Cbor.Value.bytes hash), ("confirm", .bool confirm)].map Prod.fst := by
    simp [Packet.headerKey]
  have messageEq : Message.markImage hash (some confirm) =
      .record [("hash", .bytes hash), ("confirm", .bool confirm)] := by
    simp [Message.markImage, Cbor.Value.optionalField, named]
  simp only [Command.packet, Command.markImage, Command.asking, messageEq] at built
  refine ⟨Packet.marksImages_build plain unreserved (by simp) built, ?_⟩
  obtain ⟨entries, decoded, found⟩ := Packet.decode_build plain unreserved (by simp) built
  have hashFound : Cbor.Value.entry? entries "hash" = some (.bytes hash) := by
    rw [found "hash" (by decide)]
    rfl
  have confirmFound : Cbor.Value.entry? entries "confirm" = some (.bool confirm) := by
    rw [found "confirm" (by decide)]
    rfl
  simp only [Marking.read?, decoded, hashFound, confirmFound]

/-- A device sees by the header whether a request marks an image, and reads how. -/
theorem marksImages_packet {question : Question}
    (addressable : ∀ target ∈ question.target?, target.Addressable ∧ target.hash ≠ [])
    (built : question.packet scheme seq = .ok packet) :
    (∃ header, Packet.header scheme packet = .ok header ∧
        header.marksImages = question.marking?.isSome) ∧
      ∀ marking ∈ question.marking?, Marking.read? scheme packet = some marking := by
  cases question with
  | bootloader attempt =>
      have plain : PlainFields [("query", .text "mode")] :=
        PlainFields.nil.cons_text (by simp) (by decide +kernel) (by decide +kernel) (by simp)
      exact ⟨Packet.marksImages_build plain (by simp [Packet.headerKey]) (by simp) built,
        fun marking marks => by cases marks⟩
  | slots attempt mode | erase | reset =>
      exact ⟨Packet.marksImages_build PlainFields.nil (by simp) (by simp) built,
        fun marking marks => by cases marks⟩
  | test target | confirm target =>
      obtain ⟨fits, named⟩ := addressable target rfl
      obtain ⟨header, read⟩ := marks_of_markImage named fits.hash_lt built
      refine ⟨header, fun marking same => ?_⟩
      rw [read, ← Option.some.inj same]

end Question

/-- What a phase sends: its question, or chunks of an image. -/
def Phase.Speaks (origin : Session) : Phase → Prop
  | .asking question packet => ∃ seq, question.packet origin.scheme seq = .ok packet
  | .uploading job =>
      ∃ target ∈ origin.images, ∃ mtu options, UploadJob.Underway
        (UploadJob.plan origin.scheme mtu (.image target.index) target.data options) job
  | _ => True

variable {origin session : Session}

/-- A session sends its question, or what the upload sends that is going on. -/
theorem sends_of_packet? {packet : Bytes} (handed : (machine.need session).packet? = some packet) :
    (∃ question, session.phase = .asking question packet) ∨
      ∃ job, session.phase = .uploading job ∧
        (UploadJob.machine.need job).packet? = some packet := by
  cases phaseEq : session.phase with
  | asking question sent =>
      simp only [machine, need, phaseEq] at handed
      exact .inl ⟨question, by rw [Option.some.inj handed]⟩
  | uploading job =>
      refine .inr ⟨job, rfl, ?_⟩
      simp only [machine, need, phaseEq] at handed
      cases needEq : job.need <;> simp only [needEq, Need.map] at handed
      all_goals
        simp only [UploadJob.machine, needEq]
        exact handed
  | choosing | awaitingDrop | swapping _ =>
      simp only [machine, need, phaseEq] at handed
      split at handed <;> cases handed
  | _ =>
      simp only [machine, need, phaseEq] at handed
      cases handed

theorem speaks_answer (question : Question) (packet : Bytes) (outcome : Except Error Response)
    (session : Session) : (session.answer question packet outcome).phase.Speaks origin := by
  cases question <;> simp only [answer, afterReset] <;> repeat' split
  all_goals trivial

theorem speaks_ask (schemeEq : session.scheme = origin.scheme) (question : Question) :
    (session.ask question).phase.Speaks origin := by
  simp only [ask]
  split
  · rename_i packet built
    exact ⟨session.seq, schemeEq ▸ built⟩
  · exact speaks_answer question [] _ _

theorem speaks_perform (schemeEq : session.scheme = origin.scheme) {task : Task}
    (known : ∀ target, task = .upload target → target ∈ origin.images) :
    (session.perform task).phase.Speaks origin := by
  have schemeEq' : ({ session with dropped := false } : Session).scheme = origin.scheme := schemeEq
  cases task with
  | upload target =>
      simp only [perform]
      split
      · trivial
      · refine ⟨target, known target rfl, session.mtu, session.settings.upload, ?_⟩
        rw [← schemeEq]
        exact UploadJob.underway_start _ _ _ _ _
  | confirmAfterReset target => trivial
  | reset | resetBeforeUpload => exact speaks_ask schemeEq' _
  | _ => exact speaks_ask schemeEq _

theorem speaks_of_working (schemeEq : session.scheme = origin.scheme)
    (working : session.phase.isWorking = true) (speaks : session.phase.Speaks origin)
    (reply : Reply) : (session.feed reply).phase.Speaks origin := by
  cases phaseEq : session.phase with
  | inspecting attempt mode =>
      cases reply <;> simp only [feed, phaseEq]
      case ready => exact speaks_ask schemeEq _
      all_goals trivial
  | asking question packet =>
      rw [phaseEq] at speaks
      cases reply <;> simp only [feed, phaseEq]
      case answer outcome => exact speaks_answer _ _ _ _
      all_goals exact speaks
  | connecting target =>
      cases reply <;> simp only [feed, phaseEq]
      case connected outcome =>
        cases outcome with
        | error failure => trivial
        | ok connected => exact speaks_ask schemeEq _
      all_goals trivial
  | uploading job =>
      rw [phaseEq] at speaks
      obtain ⟨target, member, mtu, options, underway⟩ := speaks
      simp only [feed, phaseEq]
      split
      · trivial
      · exact ⟨target, member, mtu, options, underway.feed reply⟩
  | awaitingDrop =>
      have drops (timedOut : Bool) : (session.afterDrop timedOut).phase.Speaks origin := by
        simp only [afterDrop]
        split_ifs
        · trivial
        · trivial
        · trivial
        · trivial
        · exact speaks
      cases reply <;> simp only [feed, phaseEq]
      case ready => exact drops false
      case silence => exact drops true
      all_goals trivial
  | swapping milliseconds =>
      cases reply <;> simp only [feed, phaseEq]
      all_goals trivial
  | _ => simp [Phase.isWorking, phaseEq] at working

theorem speaks_feed (schemeEq : session.scheme = origin.scheme)
    (speaks : session.phase.Speaks origin)
    (known : ∀ target, session.phase = .performing (.upload target) → target ∈ origin.images)
    (reply : Reply) : (session.feed reply).phase.Speaks origin := by
  have turn := turn_feed session reply
  generalize fedEq : session.feed reply = next at turn ⊢
  generalize session.notices reply = seen at turn
  cases turn with
  | stayed => exact speaks
  | began phaseEq =>
      exact speaks_perform schemeEq fun target taskEq => known target (taskEq ▸ phaseEq)
  | worked working =>
      rw [← fedEq]
      exact speaks_of_working schemeEq working speaks reply
  | entered phaseEq nextEq => rcases nextEq with ⟨-, rfl⟩ | ⟨-, rfl⟩ <;> trivial
  | returned phaseEq =>
      obtain ⟨queue, phase, nextEq, concluded⟩ := conclude_cases _ session
      rw [nextEq]
      rcases concluded with rfl | ⟨note, rfl⟩ <;> trivial
  | _ => trivial

theorem speaks_signaled {signal : Signal} {next : Session} (signaled : Signaled signal session next)
    (speaks : session.phase.Speaks origin) : next.phase.Speaks origin := by
  rcases signaled.phase with phaseEq | ⟨job, phaseEq, nextEq⟩
  · rwa [phaseEq]
  · rw [phaseEq] at speaks
    obtain ⟨target, member, mtu, options, underway⟩ := speaks
    rw [nextEq]
    exact ⟨target, member, mtu, options, underway.signal signal⟩

end Session

end SmpClient
