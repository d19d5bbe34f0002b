import SmpClient.Proofs.Transfer.StepwiseSteps
import SmpClient.Proofs.Transfer.Storage
import SmpClient.Transfer.Single

/-!
# Plain uploads and the device

A plain upload has one request out at a time, so what it knows of the device is true now: from the
first answer on the device holds a prefix of the data, and the offset is its length.
-/

namespace SmpClient

namespace SingleUpload

open Storage

/-- What a plain upload knows of the device that it sends to. -/
structure Known (upload : Upload) (state : SingleUpload) (device : Storage) : Prop where
  upload_eq : ∃ mtu, state.upload = { upload with mtu }
  offset_le : state.offset ≤ upload.data.length
  /-- Before the first answer the device may hold anything. -/
  held : state.offset = 0 ∨ device.held <+: upload.data
  complete : state.offset = upload.data.length → device.held = upload.data

/-- A plain upload on its way, and the device. -/
structure Tracked (upload : Upload) (run : Stepwise SingleUpload Exchange) (device : Storage) :
    Prop where
  known : Known upload run.transfer device
  sending : ∀ offset request, run.phase = .sending offset request →
    offset = run.transfer.offset ∧ offset ≠ upload.data.length ∧
      ∃ length, Carries upload request.packet offset length
  ended : run.phase = .ended (.ok ()) → run.transfer.offset = upload.data.length

theorem request_eq_ok {state after : SingleUpload} {offset : Nat} {request : Exchange}
    (requested : state.request offset = (.ok request, after)) :
    (∃ seq, after = { state with seq }) ∧
      ∃ seq length, state.upload.chunkLength state.seq offset = .ok length ∧
        state.upload.chunkPacket seq offset length = .ok request.packet := by
  rw [SingleUpload.request] at requested
  cases chunkEq : state.upload.nextChunk state.seq offset with
  | mk result seq =>
      cases result with
      | error failure => simp [chunkEq, Except.map] at requested
      | ok chunk =>
          simp only [chunkEq, Except.map, Prod.mk.injEq, Except.ok.injEq] at requested
          obtain ⟨rfl, rfl⟩ := requested
          obtain ⟨sized, built⟩ := Upload.nextChunk_eq_ok chunkEq
          exact ⟨⟨seq, rfl⟩, _, _, sized, built⟩

theorem request_eq_error {state after : SingleUpload} {offset : Nat} {failure : Error}
    (requested : state.request offset = (.error failure, after)) :
    ∃ seq, after = { state with seq } := by
  rw [SingleUpload.request] at requested
  exact ⟨_, (congrArg Prod.snd requested).symm⟩

/-- A request stores a chunk at the offset that it is for. -/
theorem built_of_request {upload : Upload} {state after : SingleUpload}
    (upload_eq : ∃ mtu, state.upload = { upload with mtu })
    (offset_le : state.offset ≤ upload.data.length) {request : Exchange}
    (requested : state.request state.offset = (.ok request, after)) :
    ∃ seq length, state.offset + length ≤ upload.data.length ∧
      upload.chunkPacket seq state.offset length = .ok request.packet := by
  obtain ⟨mtu, uploadEq⟩ := upload_eq
  obtain ⟨-, seq, length, sized, built⟩ := request_eq_ok requested
  obtain ⟨length_le, -⟩ := Upload.chunkLength_bounds sized
  rw [uploadEq] at built length_le
  exact ⟨seq, length, Nat.add_le_of_le_sub' offset_le length_le, built⟩

/-- A request carries the chunk of the data at the offset that it is for. -/
theorem carries_of_request {upload : Upload} (representable : upload.Representable)
    {state after : SingleUpload} (upload_eq : ∃ mtu, state.upload = { upload with mtu })
    (offset_le : state.offset ≤ upload.data.length) {request : Exchange}
    (requested : state.request state.offset = (.ok request, after)) :
    ∃ length, Carries upload request.packet state.offset length := by
  obtain ⟨seq, length, within, built⟩ := built_of_request upload_eq offset_le requested
  exact ⟨length, carries_of_chunkPacket representable within built⟩

theorem acknowledged_eq_ok {state : SingleUpload} {request : Exchange}
    {outcome : Except Error Response} {offset : Nat}
    (acknowledged : state.acknowledged request outcome = .ok offset) :
    ∃ response, outcome = .ok response ∧ state.upload.acknowledged response = .ok offset := by
  cases outcome with
  | error failure => cases acknowledged
  | ok response =>
      refine ⟨response, rfl, ?_⟩
      simp only [SingleUpload.acknowledged, bind, Except.bind] at acknowledged
      split at acknowledged
      · cases acknowledged
      · exact acknowledged

section

variable {upload : Upload} {run : Stepwise SingleUpload Exchange} {device : Storage}

theorem Known.isFinished_iff {state : SingleUpload} (known : Known upload state device) :
    transfer.isFinished state = true ↔ state.offset = upload.data.length := by
  obtain ⟨mtu, uploadEq⟩ := known.upload_eq
  simp [Transfer.isFinished, transfer, uploadEq]

theorem Known.of_seq {state : SingleUpload} (known : Known upload state device) (seq : UInt8) :
    Known upload { state with seq } device :=
  ⟨known.upload_eq, known.offset_le, known.held, known.complete⟩

theorem Tracked.advance (representable : upload.Representable)
    (tracked : Tracked upload run device) :
    Tracked upload (run.advance transfer) device := by
  obtain ⟨known, sending, ended⟩ := tracked
  have advanced := Stepwise.advanced_advance transfer run
  generalize run.advance transfer = after at advanced ⊢
  cases advanced with
  | stayed => exact ⟨known, sending, ended⟩
  | refused | begun | aborted | told => exact ⟨known, by simp, by simp⟩
  | completed phaseEq finished =>
      exact ⟨known, by simp, fun _ => known.isFinished_iff.mp finished⟩
  | failed phaseEq uncanceled requested =>
      obtain ⟨seq, rfl⟩ := request_eq_error requested
      exact ⟨known.of_seq seq, by simp, by simp⟩
  | requested phaseEq unfinished uncanceled requested =>
      have carries := carries_of_request representable known.upload_eq known.offset_le requested
      obtain ⟨⟨seq, rfl⟩, -⟩ := request_eq_ok requested
      refine ⟨known.of_seq seq, ?_, by simp⟩
      rintro offset sent phase
      cases phase
      refine ⟨rfl, fun complete => ?_, carries⟩
      rw [known.isFinished_iff.mpr complete] at unfinished
      cases unfinished

/-- What the upload knows when it has taken in what came back. -/
theorem Tracked.accept (tracked : Tracked upload run device) {offset : Nat} {request : Exchange}
    (phaseEq : run.phase = .sending offset request) {treatment : Treatment}
    {outcome : Except Error Response} {after : Storage}
    (conducted : storing upload.scheme treatment request.packet device = some (outcome, after)) :
    Known upload (transfer.accept request outcome run.transfer).2 after := by
  obtain ⟨rfl, offset_ne, length, carries⟩ := tracked.sending offset request phaseEq
  obtain ⟨upload_eq, offset_le, held, -⟩ := tracked.known
  have stored := storing_of_carries carries conducted
  cases acknowledged : run.transfer.acknowledged request outcome with
  | error failure =>
      simp only [transfer, SingleUpload.accept, acknowledged]
      refine ⟨upload_eq, offset_le, ?_, fun complete => absurd complete offset_ne⟩
      rcases stored with ⟨-, rfl⟩ | ⟨limit, rfl, -⟩
      · exact held
      · exact .inr (store_isPrefix_data held.symm)
  | ok offset =>
      obtain ⟨response, rfl, acknowledgedEq⟩ := acknowledged_eq_ok acknowledged
      rcases stored with ⟨⟨failure, lost⟩, -⟩ | ⟨limit, afterEq, honest⟩
      · cases lost
      · have heldAfter : after.held <+: upload.data := afterEq ▸ store_isPrefix_data held.symm
        have offsetEq := offset_eq_of_acknowledges honest acknowledgedEq
        simp only [transfer, SingleUpload.accept, acknowledged, offsetEq]
        exact
          { upload_eq
            offset_le := heldAfter.length_le
            held := .inr heldAfter
            complete := heldAfter.eq_of_length }

/-- The device deals with the request that is out, and the upload takes in what comes back. -/
theorem Tracked.answer (tracked : Tracked upload run device) {offset : Nat} {request : Exchange}
    (phaseEq : run.phase = .sending offset request) {treatment : Treatment}
    {outcome : Except Error Response} {after : Storage}
    (conducted : storing upload.scheme treatment request.packet device = some (outcome, after)) :
    Tracked upload (run.answer transfer outcome) after := by
  have known := tracked.accept phaseEq conducted
  have accepted := Stepwise.accepted_answer transfer outcome run
  generalize run.answer transfer outcome = answered at accepted ⊢
  cases accepted with
  | stayed idle => exact absurd phaseEq (idle offset request)
  | failed sent accepted | aborted sent accepted | stuck sent accepted | settled sent accepted =>
      rw [phaseEq] at sent
      cases sent
      rw [accepted] at known
      exact ⟨known, by simp, by simp⟩

end

end SingleUpload

end SmpClient
