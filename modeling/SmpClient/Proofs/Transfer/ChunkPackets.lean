import SmpClient.Proofs.Machine.OpenLink
import SmpClient.Proofs.Transfer.JobSteps
import SmpClient.Proofs.Transfer.SingleSteps
import SmpClient.Proofs.Transfer.WindowSteps

/-!
# What uploads send

Every packet that an upload ever hands to its link, in whatever generation and attempt, is the request
to store a chunk that lies within the data.
-/

namespace SmpClient

/-- A packet that stores a chunk of the data. -/
def Upload.Sends (upload : Upload) (packet : Bytes) : Prop :=
  ∃ seq offset length, offset + length ≤ upload.data.length ∧
    upload.chunkPacket seq offset length = .ok packet

theorem Upload.Sends.carries {upload : Upload} (representable : upload.Representable) {packet : Bytes}
    (sends : upload.Sends packet) : ∃ offset length, Storage.Carries upload packet offset length := by
  obtain ⟨seq, offset, length, within, built⟩ := sends
  exact ⟨offset, length, Storage.carries_of_chunkPacket representable within built⟩

namespace SingleUpload

/-- A plain upload whose offset lies within the data, whatever the device does. -/
structure Within (upload : Upload) (state : SingleUpload) : Prop where
  upload_eq : ∃ mtu, state.upload = { upload with mtu }
  offset_le : state.offset ≤ upload.data.length

/-- A plain upload on its way: the request that is out stores a chunk. -/
structure Underway (upload : Upload) (run : Stepwise SingleUpload Exchange) : Prop where
  within : Within upload run.transfer
  sending : ∀ offset request, run.phase = .sending offset request → upload.Sends request.packet

variable {upload : Upload} {run : Stepwise SingleUpload Exchange}

theorem Within.accept {state after : SingleUpload} (within : Within upload state)
    {request : Exchange} {outcome : Except Error Response} {result : Except Error Unit}
    (accepted : transfer.accept request outcome state = (result, after)) :
    Within upload after := by
  obtain rfl : (transfer.accept request outcome state).2 = after := congrArg Prod.snd accepted
  cases acknowledged : state.acknowledged request outcome with
  | error failure =>
      simp only [transfer, SingleUpload.accept, acknowledged]
      exact within
  | ok reached =>
      obtain ⟨mtu, uploadEq⟩ := within.upload_eq
      obtain ⟨response, -, acknowledgedEq⟩ := acknowledged_eq_ok acknowledged
      rw [uploadEq] at acknowledgedEq
      have reached_le := (Upload.acknowledged_eq_ok acknowledgedEq).2.2
      simp only [transfer, SingleUpload.accept, acknowledged]
      exact ⟨within.upload_eq, reached_le⟩

theorem Underway.advance (underway : Underway upload run) :
    Underway upload (run.advance transfer) := by
  obtain ⟨within, sending⟩ := underway
  have advanced := Stepwise.advanced_advance transfer run
  generalize run.advance transfer = after at advanced ⊢
  cases advanced with
  | stayed => exact ⟨within, sending⟩
  | refused | begun | completed | aborted | told => exact ⟨within, by simp⟩
  | failed phaseEq uncanceled requested =>
      obtain ⟨seq, rfl⟩ := request_eq_error requested
      exact ⟨⟨within.upload_eq, within.offset_le⟩, by simp⟩
  | requested phaseEq unfinished uncanceled requested =>
      have built := built_of_request within.upload_eq within.offset_le requested
      obtain ⟨⟨seq, rfl⟩, -⟩ := request_eq_ok requested
      refine ⟨⟨within.upload_eq, within.offset_le⟩, ?_⟩
      rintro offset sent phase
      cases phase
      obtain ⟨seq, length, chunk⟩ := built
      exact ⟨seq, run.transfer.offset, length, chunk⟩

theorem Underway.answer (underway : Underway upload run) (outcome : Except Error Response) :
    Underway upload (run.answer transfer outcome) := by
  have accepted := Stepwise.accepted_answer transfer outcome run
  generalize run.answer transfer outcome = answered at accepted ⊢
  cases accepted with
  | stayed idle => exact underway
  | failed sent accepted | aborted sent accepted | stuck sent accepted | settled sent accepted =>
      exact ⟨underway.within.accept accepted, by simp⟩

theorem Underway.feed (underway : Underway upload run) (reply : Reply) :
    Underway upload (run.feed transfer reply) := by
  cases reply with
  | ready => exact underway.advance
  | answer outcome => exact underway.answer outcome
  | acknowledgement ticket outcome => exact underway
  | silence => exact underway
  | connected outcome => exact underway

theorem Underway.sends (underway : Underway upload run) {packet : Bytes}
    (handed : (run.need transfer).packet? = some packet) : upload.Sends packet := by
  cases needEq : run.need transfer with
  | exchange sent kind =>
      rw [needEq] at handed
      obtain rfl : sent = packet := Option.some.inj handed
      obtain ⟨offset, request, phaseEq, rfl⟩ := Stepwise.sending_of_need needEq
      exact underway.sending offset request phaseEq
  | post sent kind ticket => exact absurd needEq Stepwise.need_ne_post
  | _ =>
      rw [needEq] at handed
      cases handed

end SingleUpload

theorem Window.Sound.sends {upload : Upload} {window : Window} (sound : window.Sound)
    (upload_eq : ∃ mtu, window.upload = { upload with mtu }) {packet : Bytes}
    (handed : (Window.machine.need window).packet? = some packet) : upload.Sends packet := by
  cases needEq : Window.machine.need window with
  | exchange sent kind => exact absurd needEq Window.need_ne_exchange
  | post sent kind ticket =>
      rw [needEq] at handed
      obtain rfl : sent = packet := Option.some.inj handed
      have promised := sound.promised
      rw [(Window.need_eq_post_iff.mp needEq).1] at promised
      obtain ⟨-, -, issues⟩ := promised
      obtain ⟨seq, built⟩ := issues.exists_built upload_eq
      exact ⟨seq, ticket.offset, ticket.length, built⟩
  | _ =>
      rw [needEq] at handed
      cases handed

namespace UploadJob

/-- An upload job on its way, whatever the device does. -/
inductive Underway (upload : Upload) (job : UploadJob) : Prop
  | single (run : Stepwise SingleUpload Exchange) (engineEq : job.engine = .single run)
      (underway : SingleUpload.Underway upload run)
  | windowed (window : Window) (engineEq : job.engine = .windowed window)
      (upload_eq : ∃ mtu, window.upload = { upload with mtu }) (sound : window.Sound)

variable {upload : Upload} {job : UploadJob}

/-- An attempt starts within the data, whatever came before it. -/
theorem Underway.of_start (mtu capacity attempt : Nat) (seq : UInt8) (control : Control)
    (engineEq : job.engine = .start { upload with mtu } capacity attempt seq control) :
    Underway upload job := by
  rw [UploadEngine.start] at engineEq
  split at engineEq
  · rename_i several
    refine .windowed _ engineEq ⟨mtu, rfl⟩ ⟨?_, trivial⟩
    exact ⟨Nat.lt_of_succ_lt several, Nat.zero_le _, Nat.zero_le _, Nat.zero_le _⟩
  · exact .single _ engineEq ⟨⟨⟨mtu, rfl⟩, Nat.zero_le _⟩, by simp⟩

theorem underway_start (upload : Upload) (window attempt : Nat) (seq : UInt8)
    (control : Control) : Underway upload (.start upload window attempt seq control) := by
  rw [UploadJob.start]
  split
  · exact .single _ rfl ⟨⟨⟨upload.mtu, rfl⟩, Nat.zero_le _⟩, by simp⟩
  · exact .of_start upload.mtu _ _ _ _ rfl

theorem Underway.upload_eq (underway : Underway upload job) :
    ∃ mtu, job.engine.upload = { upload with mtu } := by
  cases underway with
  | single run engineEq underway =>
      rw [engineEq]
      exact underway.within.upload_eq
  | windowed window engineEq upload_eq sound =>
      rw [engineEq]
      exact upload_eq

theorem Underway.retry (underway : Underway upload job) (mtu : Nat) :
    Underway upload (job.retry mtu) := by
  obtain ⟨first, uploadEq⟩ := underway.upload_eq
  refine .of_start mtu job.capacity (job.attempt + 1) job.engine.seq job.engine.control ?_
  rw [UploadJob.retry, uploadEq]

theorem Underway.feed (underway : Underway upload job) (reply : Reply) :
    Underway upload (machine.feed reply job) := by
  rcases feed_cases reply job with goesOn | ⟨mtu, retried⟩ | same
  · rw [goesOn]
    cases underway with
    | single run engineEq underway =>
        rw [engineEq]
        exact .single _ rfl (underway.feed reply)
    | windowed window engineEq upload_eq sound =>
        have uploadEq : (window.feed reply).upload = window.upload :=
          congrArg Prod.fst (Window.fixed_feed reply window)
        rw [engineEq]
        exact .windowed _ rfl (uploadEq ▸ upload_eq) (sound.feed reply)
  · rw [retried]
    exact underway.retry mtu
  · rw [same]
    exact underway

theorem Underway.signal (underway : Underway upload job) (signal : Signal) :
    Underway upload (machine.signal signal job).2 := by
  cases underway with
  | single run engineEq underway =>
      refine .single (run.signal signal).2 ?_ ⟨underway.within, underway.sending⟩
      simp only [machine, UploadJob.signal, engineEq, UploadEngine.signal]
  | windowed window engineEq upload_eq sound =>
      refine .windowed (window.signal signal).2 ?_ upload_eq (sound.signal signal)
      simp only [machine, UploadJob.signal, engineEq, UploadEngine.signal]

/-- Every packet that an upload hands to its link stores a chunk of the data. -/
theorem Underway.sends (underway : Underway upload job) {packet : Bytes}
    (handed : (machine.need job).packet? = some packet) : upload.Sends packet := by
  have retryEq : job.retryMtu? = none := by
    refine retryMtu?_eq_none rfl fun stepping => ?_
    rw [stepping] at handed
    cases handed
  rw [need_of_retryMtu? retryEq] at handed
  cases underway with
  | single run engineEq underway =>
      rw [engineEq] at handed
      exact underway.sends handed
  | windowed window engineEq upload_eq sound =>
      rw [engineEq] at handed
      exact sound.sends upload_eq handed

end UploadJob

end SmpClient
