import Mathlib.Tactic.SplitIfs
import SmpClient.Transfer.Download
import SmpClient.Transfer.UploadJob

/-!
# Where aborts come from

A result that says that an operation was aborted comes from a cancel or from the link.  Nothing that
a transfer finds wrong with its own packets, or with what comes back for them, is called an abort.
-/

namespace SmpClient

/-- A result that does not say that the operation was aborted. -/
def Unaborted {α : Type} (result : Except Error α) : Prop :=
  result ≠ .error .aborted

section

variable {α β : Type} {result : Except Error α}

theorem unaborted_ok (value : α) : Unaborted (.ok value) := by
  simp [Unaborted]

theorem Unaborted.bind {next : α → Except Error β} (first : Unaborted result)
    (second : ∀ value, Unaborted (next value)) : Unaborted (result >>= next) := by
  cases result with
  | error failure => simpa [Unaborted, Bind.bind, Except.bind] using first
  | ok value => exact second value

theorem Unaborted.map (unaborted : Unaborted result) (change : α → β) :
    Unaborted (result.map change) := by
  cases result with
  | error failure => simpa [Unaborted, Except.map] using unaborted
  | ok value => exact unaborted_ok _

/-- A failure that is passed on. -/
theorem Unaborted.passOn (unaborted : Unaborted result) {failure : Error}
    (failed : result = .error failure) : Unaborted (.error failure : Except Error β) := by
  rw [failed] at unaborted
  simpa [Unaborted] using unaborted

end

/-! ## Packets and responses -/

theorem Header.unaborted_ofBytes (bytes : Bytes) : Unaborted (Header.ofBytes bytes) := by
  rw [Header.ofBytes.eq_def]
  split
  · split <;> simp [Unaborted]
  · simp [Unaborted]

theorem Packet.unaborted_build (scheme : Scheme) (op : Op) (flags : UInt8) (group : UInt16)
    (seq id : UInt8) (payload : Cbor.Value) :
    Unaborted (Packet.build scheme op flags group seq id payload) := by
  rw [Packet.build]
  split_ifs
  · split <;> simp [Unaborted]
  · exact unaborted_ok _

theorem Packet.unaborted_header (scheme : Scheme) (packet : Bytes) :
    Unaborted (Packet.header scheme packet) := by
  rw [Packet.header]
  split_ifs
  · split
    · simp [Unaborted]
    · split
      · rename_i failure embedded
        rw [Packet.embeddedHeader?.eq_def] at embedded
        split at embedded
        · split at embedded
          · exact ((Header.unaborted_ofBytes _).map some).passOn embedded
          · cases embedded
        · cases embedded
      · simp [Unaborted]
      · exact unaborted_ok _
  · simp [Unaborted]
  · exact Header.unaborted_ofBytes _

theorem Response.unaborted_check (response : Response) : Unaborted response.check := by
  unfold Response.check
  dsimp only
  split_ifs <;> simp [Unaborted]

theorem Response.unaborted_uploadOffset (response : Response) :
    Unaborted response.uploadOffset := by
  rw [Response.uploadOffset]
  split <;> simp [Unaborted]

theorem Response.unaborted_body {α : Type} (response : Response) (read : Cbor.Reader α) :
    Unaborted (response.body read) := by
  refine Unaborted.bind ?_ fun value => ?_
  · rw [Response.decodePayload]
    split_ifs
    · exact unaborted_ok _
    · split <;> simp [Unaborted]
  · split
    · exact unaborted_ok _
    · simp [Unaborted, throw, throwThe, MonadExceptOf.throw]

theorem Command.unaborted_checkAnswer (scheme : Scheme) (packet : Bytes) (response : Response) :
    Unaborted (Command.checkAnswer scheme packet response) := by
  refine (Packet.unaborted_header scheme packet).bind fun request => ?_
  split
  · exact unaborted_ok _
  · split_ifs
    · exact unaborted_ok _
    · simp [Unaborted, throw, throwThe, MonadExceptOf.throw]

theorem Command.unaborted_answered (scheme : Scheme) (packet : Bytes)
    {outcome : Except Error Response} (unaborted : Unaborted outcome) :
    Unaborted (Command.answered scheme packet outcome) :=
  unaborted.bind fun response => (unaborted_checkAnswer scheme packet response).bind fun _ =>
    response.unaborted_check

/-! ## Uploads -/

namespace Upload

variable (upload : Upload)

theorem unaborted_nextChunk (seq : UInt8) (offset : Nat) :
    Unaborted (upload.nextChunk seq offset).1 := by
  have sized : Unaborted (upload.chunkLength seq offset) := by
    refine (Packet.unaborted_build _ _ _ _ _ _ _).bind fun empty => ?_
    dsimp only
    split_ifs
    · simp [Unaborted, throw, throwThe, MonadExceptOf.throw]
    · exact unaborted_ok _
  rw [nextChunk]
  split
  · rename_i failure failed
    exact sized.passOn failed
  · exact (Packet.unaborted_build _ _ _ _ _ _ _).map _

theorem unaborted_acknowledged (response : Response) :
    Unaborted (upload.acknowledged response) := by
  refine response.unaborted_check.bind fun checked => ?_
  refine checked.unaborted_uploadOffset.bind fun offset => ?_
  split_ifs
  · simp [Unaborted, throw, throwThe, MonadExceptOf.throw]
  · exact unaborted_ok _

end Upload

/-- A kind of transfer that neither calls its requests aborted nor the answers that are not. -/
structure Transfer.AbortsNothing {τ : Type} (kind : LinkTransfer τ) : Prop where
  request : ∀ offset state, Unaborted (kind.request offset state).1
  accept : ∀ request outcome state, Unaborted outcome →
    Unaborted (kind.accept request outcome state).1

theorem SingleUpload.abortsNothing : SingleUpload.transfer.AbortsNothing where
  request offset state := (state.upload.unaborted_nextChunk state.seq offset).map _
  accept request outcome state unaborted := by
    have acknowledged : Unaborted (state.acknowledged request outcome) :=
      unaborted.bind fun response =>
        (Command.unaborted_checkAnswer _ _ response).bind fun _ =>
          state.upload.unaborted_acknowledged response
    simp only [transfer, SingleUpload.accept]
    split
    · exact unaborted_ok _
    · rename_i failure failed
      exact acknowledged.passOn failed

theorem Window.unaborted_reported (window : Window) (ticket : Ticket)
    {outcome : Except Error Response} (unaborted : Unaborted outcome) :
    Unaborted (window.reported ticket outcome) := by
  refine unaborted.bind fun response => ?_
  have acknowledged := window.upload.unaborted_acknowledged response
  cases response.header with
  | none => exact acknowledged
  | some header =>
      dsimp only
      split_ifs
      · simp [Unaborted, throw, throwThe, MonadExceptOf.throw, Bind.bind, Except.bind]
      · exact acknowledged

/-! ## Downloads -/

theorem FileBuffer.unaborted_allocate (announced : Option Nat) :
    Unaborted (FileBuffer.allocate announced) := by
  rw [FileBuffer.allocate.eq_def]
  split
  · simp [Unaborted]
  · split_ifs <;> simp [Unaborted]

theorem FileBuffer.unaborted_place (chunk : FileChunk) (buffer : FileBuffer) :
    Unaborted (buffer.place chunk) := by
  rw [FileBuffer.place]
  split_ifs <;> simp [Unaborted]

theorem Download.unaborted_store (chunk : FileChunk) (state : Download) :
    Unaborted (state.store chunk).1 := by
  simp only [Download.store]
  split
  · rename_i failure failed
    split at failed
    · cases failed
    · exact (FileBuffer.unaborted_allocate chunk.length).passOn failed
  · rename_i buffer _
    split
    · rename_i failure failed
      exact (FileBuffer.unaborted_place chunk buffer).passOn failed
    · exact unaborted_ok _

theorem Download.abortsNothing : Download.transfer.AbortsNothing where
  request offset state := (Packet.unaborted_build _ _ _ _ _ _ _).map _
  accept request outcome state unaborted := by
    have found : Unaborted (state.chunkOf request.packet outcome) :=
      (Command.unaborted_answered _ _ unaborted).bind fun response => response.unaborted_body _
    simp only [transfer, Download.accept]
    split
    · rename_i failure failed
      exact found.passOn failed
    · exact state.unaborted_store _

end SmpClient
