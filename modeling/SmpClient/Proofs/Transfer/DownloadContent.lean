import Mathlib.Data.List.Forall2
import SmpClient.Proofs.Machine.Network
import SmpClient.Proofs.Transfer.FileContent
import SmpClient.Proofs.Transfer.JobSteps

/-!
# What a download returns

The device says where each of its chunks belongs, and where a chunk ends is where the next one is
asked for.  A download that ends well returns the bytes that the chunks brought, the later ones over
the earlier ones.  A device that leaves places out gets them filled with zeros.
-/

namespace SmpClient

namespace Network

/-- What came back for a packet. -/
structure Answer where
  packet : Bytes
  outcome : Except Error Response

/-- The conduct of a device that answers as the schedule says, and keeps a record of it. -/
def recording : Conduct (List Answer) (Except Error Response) :=
  fun outcome packet record => some (outcome, record ++ [⟨packet, outcome⟩])

end Network

namespace FileBuffer

/-- Each byte of the buffer is what the last of some chunks over it brought; where none came it is
zero. -/
def Holds (chunks : List FileChunk) (buffer : FileBuffer) : Prop :=
  ∀ position < buffer.length,
    buffer.content[position]? = some ((FileChunk.lastByte? chunks position).getD 0)

theorem holds_allocate {announced : Option Nat} {buffer : FileBuffer}
    (allocated : allocate announced = .ok buffer) :
    announced = some buffer.length ∧ buffer.Holds [] := by
  cases announced with
  | none => cases allocated
  | some length =>
      simp only [allocate] at allocated
      split_ifs at allocated
      cases allocated
      exact ⟨rfl, fun position within => by simp [within]⟩

theorem Holds.place {chunks : List FileChunk} {buffer placed : FileBuffer}
    (holds : buffer.Holds chunks) {chunk : FileChunk} {offset : Nat}
    (place : buffer.place chunk = .ok (placed, offset)) : placed.Holds (chunks ++ [chunk]) := by
  obtain ⟨-, -, lengthEq, -⟩ := content_place place
  intro position within
  rw [lengthEq] at within
  rw [getElem?_content_place place, holds position within, FileChunk.lastByte?_concat]
  cases chunk.byteAt? position <;> rfl

end FileBuffer

namespace Download

/-- An answer that brings a chunk: it belongs to the packet, reports success and has a body. -/
def Brings (scheme : Scheme) (answer : Network.Answer) (chunk : FileChunk) : Prop :=
  ((Command.answered scheme answer.packet answer.outcome).bind fun response =>
    response.body (FileChunk.readBelow 0x10000000000000000)) = .ok chunk

instance (scheme : Scheme) (answer : Network.Answer) (chunk : FileChunk) :
    Decidable (Brings scheme answer chunk) :=
  match broughtEq : (Command.answered scheme answer.packet answer.outcome).bind fun response =>
      response.body (FileChunk.readBelow 0x10000000000000000) with
  | .ok brought => decidable_of_iff (brought = chunk) (by simp [Brings, broughtEq])
  | .error _ => isFalse (by simp [Brings, broughtEq])

/-- A download under an envelope that has taken in some chunks, the first of which announced the
length. -/
structure Assembled (scheme : Scheme) (chunks : List FileChunk) (state : Download) : Prop where
  scheme_eq : state.scheme = scheme
  unopened : state.buffer = none → chunks = []
  announced : ∀ buffer, state.buffer = some buffer →
    ∃ first ∈ chunks.head?, first.length = some buffer.length
  ends : ∀ buffer, state.buffer = some buffer →
    ∃ last ∈ chunks.getLast?, state.offset = last.after
  holds : ∀ buffer, state.buffer = some buffer → buffer.Holds chunks

variable {scheme : Scheme} {chunks : List FileChunk} {state after : Download}

theorem Assembled.place (scheme_eq : state.scheme = scheme) {chunk : FileChunk}
    {buffer placed : FileBuffer} {offset : Nat}
    (announced : ∃ first ∈ (chunks ++ [chunk]).head?, first.length = some buffer.length)
    (holds : buffer.Holds chunks) (place : buffer.place chunk = .ok (placed, offset)) :
    Assembled scheme (chunks ++ [chunk]) { state with buffer := some placed, offset } := by
  obtain ⟨offsetEq, -, lengthEq, -⟩ := FileBuffer.content_place place
  refine ⟨scheme_eq, by simp, ?_, ?_, ?_⟩
  · rintro _ ⟨rfl⟩
    rw [lengthEq]
    exact announced
  · rintro _ ⟨rfl⟩
    exact ⟨chunk, by simp, offsetEq⟩
  · rintro _ ⟨rfl⟩
    exact holds.place place

theorem Assembled.store (assembled : Assembled scheme chunks state) {chunk : FileChunk}
    (stored : state.store chunk = (.ok (), after)) :
    Assembled scheme (chunks ++ [chunk]) after := by
  cases bufferEq : state.buffer with
  | some buffer =>
      simp only [Download.store, bufferEq] at stored
      cases place : buffer.place chunk with
      | error failure => simp [place] at stored
      | ok found =>
          simp only [place, Prod.mk.injEq, true_and] at stored
          obtain rfl := stored
          obtain ⟨first, isFirst, lengthEq⟩ := assembled.announced buffer bufferEq
          refine .place assembled.scheme_eq ⟨first, ?_, lengthEq⟩ (assembled.holds buffer bufferEq)
            place
          simp [List.head?_append, Option.mem_def.mp isFirst]
  | none =>
      obtain rfl := assembled.unopened bufferEq
      simp only [Download.store, bufferEq] at stored
      cases allocated : FileBuffer.allocate chunk.length with
      | error failure => simp [allocated] at stored
      | ok buffer =>
          simp only [allocated] at stored
          cases place : buffer.place chunk with
          | error failure => simp [place] at stored
          | ok found =>
              simp only [place, Prod.mk.injEq, true_and] at stored
              obtain rfl := stored
              obtain ⟨announced, holds⟩ := FileBuffer.holds_allocate allocated
              exact .place assembled.scheme_eq ⟨chunk, rfl, announced⟩ holds place

/-- An answer that is taken in brings a chunk, which is put into the buffer. -/
theorem Assembled.accept (assembled : Assembled scheme chunks state) {request : Exchange}
    {outcome : Except Error Response}
    (accepted : transfer.accept request outcome state = (.ok (), after)) :
    ∃ chunk, Brings scheme ⟨request.packet, outcome⟩ chunk ∧
      Assembled scheme (chunks ++ [chunk]) after := by
  simp only [transfer, Download.accept] at accepted
  split at accepted
  · cases accepted
  · rename_i chunk found
    exact ⟨chunk, assembled.scheme_eq ▸ found, assembled.store accepted⟩

/-- Asking for a chunk changes nothing but the sequence number. -/
theorem Assembled.request (assembled : Assembled scheme chunks state) {offset : Nat}
    {result : Except Error Exchange} (requested : transfer.request offset state = (result, after)) :
    Assembled scheme chunks after := by
  obtain rfl : { state with seq := state.seq + 1 } = after := congrArg Prod.snd requested
  exact ⟨assembled.scheme_eq, assembled.unopened, assembled.announced, assembled.ends,
    assembled.holds⟩

/-- What a finished download returns: as many bytes as the first chunk announced, each of them from
the last chunk over it. -/
theorem Assembled.content (assembled : Assembled scheme chunks state) {bytes : Bytes}
    (contentEq : state.content = .ok bytes) :
    (∃ first ∈ chunks.head?, first.length = some bytes.length) ∧
      (∃ last ∈ chunks.getLast?, bytes.length = last.after) ∧
      ∀ position < bytes.length,
        bytes[position]? = some ((FileChunk.lastByte? chunks position).getD 0) := by
  simp only [Download.content] at contentEq
  split at contentEq
  · rename_i buffer bufferEq
    split_ifs at contentEq with complete
    cases contentEq
    rw [FileBuffer.length_content]
    obtain ⟨last, isLast, offsetEq⟩ := assembled.ends buffer bufferEq
    exact ⟨assembled.announced buffer bufferEq, ⟨last, isLast, complete.symm.trans offsetEq⟩,
      assembled.holds buffer bufferEq⟩
  · cases contentEq

end Download

namespace DownloadJob

open Download (Assembled Brings)

theorem content_of_finished_need {job : DownloadJob} {bytes : Bytes}
    (needEq : machine.need job = .finished (.ok bytes)) :
    job.run.phase = .ended (.ok ()) ∧ job.run.transfer.content = .ok bytes := by
  obtain ⟨ended, phaseEq, resultEq⟩ := need_eq_finished needEq
  cases ended with
  | error failure => cases resultEq
  | ok => exact ⟨phaseEq, resultEq⟩

/-- A download and the device that answers it: unless it has failed, it has taken in all chunks that
the device brought. -/
structure Followed (scheme : Scheme) (network : Network DownloadJob (List Network.Answer)) :
    Prop where
  posted_eq : network.posted = []
  taken : (∃ failure, network.state.run.phase = .ended (.error failure)) ∨
    ∃ chunks, List.Forall₂ (Brings scheme) network.device chunks ∧
      Assembled scheme chunks network.state.run.transfer

variable {scheme : Scheme} {before after : Network DownloadJob (List Network.Answer)}

theorem Followed.fed (followed : Followed scheme before) {reply : Reply}
    (own : Network.OwnReply (machine.need before.state) reply) :
    Followed scheme { before with state := machine.feed reply before.state } := by
  refine ⟨followed.posted_eq, ?_⟩
  cases own with
  | silence collects => exact absurd collects need_ne_collect
  | ready =>
      rcases followed.taken with ⟨failure, phaseEq⟩ | ⟨chunks, brings, assembled⟩
      · refine .inl ⟨failure, ?_⟩
        simp only [machine, Stepwise.feed_ended phaseEq, phaseEq]
      · have advanced := Stepwise.advanced_advance Download.transfer before.state.run
        simp only [machine, Stepwise.feed]
        generalize before.state.run.advance Download.transfer = run at advanced ⊢
        cases advanced with
        | stayed | begun | completed | told => exact .inr ⟨chunks, brings, assembled⟩
        | refused | aborted | failed => exact .inl ⟨_, rfl⟩
        | requested phaseEq unfinished uncanceled requested =>
            exact .inr ⟨chunks, brings, assembled.request requested⟩

theorem Followed.exchange (followed : Followed scheme before) {packet : Bytes}
    {kind : ResponseKind} (needEq : machine.need before.state = .exchange packet kind)
    (outcome : Except Error Response) :
    Followed scheme
      { before with
        device := before.device ++ [⟨packet, outcome⟩]
        state := machine.feed (.answer outcome) before.state } := by
  refine ⟨followed.posted_eq, ?_⟩
  obtain ⟨offset, request, phaseEq, rfl⟩ := sending_of_need needEq
  rcases followed.taken with ⟨failure, ended⟩ | ⟨chunks, brings, assembled⟩
  · rw [phaseEq] at ended
    cases ended
  · have accepted := Stepwise.accepted_answer Download.transfer outcome before.state.run
    simp only [machine, Stepwise.feed]
    generalize before.state.run.answer Download.transfer outcome = run at accepted ⊢
    cases accepted with
    | stayed idle => exact absurd phaseEq (idle offset request)
    | failed | aborted | stuck => exact .inl ⟨_, rfl⟩
    | settled sent accepted =>
        rw [phaseEq] at sent
        cases sent
        obtain ⟨chunk, brought, assembledAfter⟩ := assembled.accept accepted
        exact .inr ⟨chunks ++ [chunk], List.rel_append brings (.cons brought .nil), assembledAfter⟩

theorem Followed.step {move : Network.Move (Except Error Response)}
    (followed : Followed scheme before)
    (effect : Network.Effect machine Network.recording before move after) :
    Followed scheme after := by
  cases effect with
  | none => exact followed
  | fed own => exact followed.fed own
  | posted needEq => exact absurd needEq need_ne_post
  | exchanged needEq conducted =>
      cases conducted
      exact followed.exchange needEq _
  | processed postedEq conducted =>
      rw [followed.posted_eq] at postedEq
      cases postedEq
  | collected needEq answeredEq => exact absurd needEq need_ne_collect
  | signaled signal => exact ⟨followed.posted_eq, followed.taken⟩

/-- What a download returns is put together from the chunks that the device brought in answer to all
its requests; unless a chunk leaves out places before it, nothing else is in it. -/
theorem content_of_finished (scheme : Scheme) (path : String) (seq : UInt8) (control : Control)
    (schedule : List (Network.Move (Except Error Response))) (bytes : Bytes) :
    let start : Network DownloadJob (List Network.Answer) :=
      { state := .start scheme path seq control, device := [] }
    let network := start.run machine Network.recording schedule
    machine.need network.state = .finished (.ok bytes) →
      ∃ chunks, List.Forall₂ (Brings scheme) network.device chunks ∧
        (∃ first ∈ chunks.head?, first.length = some bytes.length) ∧
        ∀ position < bytes.length,
          bytes[position]? = some ((FileChunk.lastByte? chunks position).getD 0) ∧
          (FileChunk.Adjoin 0 chunks → (FileChunk.lastByte? chunks position).isSome) := by
  intro start network finished
  -- No step takes a failed download up again, so one that ends well never failed.
  have followed : Followed scheme network := by
    refine Network.run_invariant (Followed scheme) ⟨rfl, .inr ⟨[], .nil, ?_⟩⟩
      (fun _ _ _ effect followed => followed.step effect) schedule
    exact ⟨rfl, fun _ => rfl, by simp [start, DownloadJob.start], by simp [start, DownloadJob.start],
      by simp [start, DownloadJob.start]⟩
  obtain ⟨phaseEq, contentEq⟩ := content_of_finished_need finished
  rcases followed.taken with ⟨failure, failed⟩ | ⟨chunks, brings, assembled⟩
  · rw [phaseEq] at failed
    cases failed
  · obtain ⟨announced, ⟨last, isLast, endEq⟩, holds⟩ := assembled.content contentEq
    refine ⟨chunks, brings, announced, fun position within => ⟨holds position within, ?_⟩⟩
    intro adjoin
    exact FileChunk.lastByte?_isSome adjoin (List.mem_of_getLast? isLast) (endEq ▸ within)

/-- The answer that brings a chunk of a file. -/
def bringing (seq : UInt8) (chunk : FileChunk) : Network.Move (Except Error Response) :=
  .exchange <|
    (Packet.build .ble .readResponse 0 Group.file.number seq 0 (Cbor.Payload.toValue chunk)).bind
      fun bytes => Response.decode .ble bytes .generic

/-- The download of a file, before the first request. -/
def fileStart : Network DownloadJob (List Network.Answer) :=
  { state := .start .ble "file" 0 {}, device := [] }

/-- The device brings a byte of the file for the second time, with another value. -/
def overlapping : List (Network.Move (Except Error Response)) :=
  [.advance, .advance, bringing 0 ⟨0, [1, 2], some 4⟩, .advance, .advance,
    bringing 1 ⟨1, [7, 8], none⟩, .advance, .advance, bringing 2 ⟨3, [9], none⟩, .advance, .advance]

theorem finished_overlapping :
    machine.need (fileStart.run machine Network.recording overlapping).state =
      .finished (.ok [1, 7, 8, 9]) := by
  decide +kernel

theorem content_of_finished_overlapping :
    let network := fileStart.run machine Network.recording overlapping
    machine.need network.state = .finished (.ok [1, 7, 8, 9]) ∧
      ∃ chunks, List.Forall₂ (Brings .ble) network.device chunks ∧
        (∃ first ∈ chunks.head?, first.length = some 4) ∧
        ∀ position < 4,
          [1, 7, 8, 9][position]? = some ((FileChunk.lastByte? chunks position).getD 0) ∧
          (FileChunk.Adjoin 0 chunks → (FileChunk.lastByte? chunks position).isSome) := by
  have finished := finished_overlapping
  rw [fileStart] at finished ⊢
  exact ⟨finished, content_of_finished .ble "file" 0 {} overlapping [1, 7, 8, 9] finished⟩

/-- The only chunk of a file of three bytes is one that brings the last of them. -/
def leavingOut : List (Network.Move (Except Error Response)) :=
  [.advance, .advance, bringing 0 ⟨2, [7], some 3⟩, .advance, .advance]

/-- A download can end well although nothing ever came for some of the bytes that it returns. -/
theorem uncovered_of_finished :
    let network := fileStart.run machine Network.recording leavingOut
    machine.need network.state = .finished (.ok [0, 0, 7]) ∧
      List.Forall₂ (Brings .ble) network.device [⟨2, [7], some 3⟩] ∧
      FileChunk.lastByte? [⟨2, [7], some 3⟩] 0 = none := by
  decide +kernel

end DownloadJob

end SmpClient
