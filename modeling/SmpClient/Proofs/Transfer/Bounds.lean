import SmpClient.Proofs.Machine.Trace
import SmpClient.Proofs.Transfer.Agreement
import SmpClient.Proofs.Transfer.ChunkPackets
import SmpClient.Proofs.Transfer.FileContent

/-!
# Transfers that stay within their data

A device chooses the offset that a transfer goes on at, and the length and the place of all that it
sends.  Whatever it chooses, no transfer leaves its data or its buffer: an offset or a chunk that lies
outside ends the transfer before it is used, and a transfer that fails has changed nothing.
-/

namespace SmpClient

/-- An offset from which the rest of the data can be counted and a chunk of it be taken. -/
structure Upload.Reaches (upload : Upload) (offset : Nat) : Prop where
  offset_le : offset ≤ upload.data.length
  chunk_le : ∀ seq length, upload.chunkLength seq offset = .ok length →
    offset + length ≤ upload.data.length

theorem Upload.reaches_of_le {upload : Upload} {offset : Nat}
    (offset_le : offset ≤ upload.data.length) : upload.Reaches offset where
  offset_le := offset_le
  chunk_le seq length sized := by
    have length_le := (Upload.chunkLength_bounds sized).1
    omega

/-- A transfer over a link fails to send: there is no request for the chunk, or what comes back for it
is not taken in. -/
inductive Transfer.FailsToSend {τ : Type} (kind : LinkTransfer τ) (before : τ) : τ → Prop
  | unasked {offset : Nat} {failure : Error} {after : τ}
      (requested : kind.request offset before = (.error failure, after)) :
      FailsToSend kind before after
  | refused {offset : Nat} {request : Exchange} {outcome : Except Error Response} {failure : Error}
      {asked after : τ} (requested : kind.request offset before = (.ok request, asked))
      (accepted : kind.accept request outcome asked = (.error failure, after)) :
      FailsToSend kind before after

/-! ## Uploads -/

/-- A plain upload within the data: where it is, and in the request that is out. -/
structure SingleUpload.InBounds (upload : Upload) (run : Stepwise SingleUpload Exchange) : Prop where
  data_eq : run.transfer.upload.data = upload.data
  offset : run.transfer.upload.Reaches run.transfer.offset
  sends : ∀ offset request, run.phase = .sending offset request → upload.Sends request.packet

theorem SingleUpload.inBounds_after (upload : Upload) (seq : UInt8) (control : Control)
    (events : List Event) :
    InBounds upload (machine.after events (fresh upload seq control)) := by
  have underway : Underway upload (machine.after events (fresh upload seq control)) := by
    refine machine.after_invariant (Underway upload) ?_ (fun reply run => (·.feed reply)) ?_ events
    · exact ⟨⟨⟨upload.mtu, rfl⟩, Nat.zero_le _⟩, by simp [fresh]⟩
    · exact fun signal run underway => ⟨underway.within, underway.sending⟩
  generalize machine.after events (fresh upload seq control) = run at underway
  obtain ⟨mtu, uploadEq⟩ := underway.within.upload_eq
  have data_eq : run.transfer.upload.data = upload.data := by rw [uploadEq]
  refine ⟨data_eq, Upload.reaches_of_le ?_, underway.sending⟩
  rw [data_eq]
  exact underway.within.offset_le

theorem SingleUpload.eq_of_failsToSend {before after : SingleUpload}
    (fails : transfer.FailsToSend before after) : after = { before with seq := after.seq } := by
  cases fails with
  | unasked requested =>
      obtain ⟨seq, rfl⟩ := request_eq_error requested
      rfl
  | refused requested accepted =>
      obtain ⟨⟨seq, rfl⟩, -⟩ := request_eq_ok requested
      simp only [transfer, SingleUpload.accept] at accepted
      split at accepted <;> cases accepted
      rfl

/-- A windowed upload within the data: what is acknowledged, where it goes on, and in the request that
it is about to send. -/
structure Window.InBounds (upload : Upload) (window : Window) : Prop where
  data_eq : window.upload.data = upload.data
  acked_le : window.acked ≤ upload.data.length
  next : window.upload.Reaches window.next
  sends : ∀ packet ticket, window.phase = .posting packet ticket →
    ticket.offset + ticket.length ≤ upload.data.length ∧ upload.Sends packet

theorem Window.inBounds_after (upload : Upload) (capacity attempt : Nat) (seq : UInt8)
    (control : Control) (events : List Event) :
    InBounds upload (machine.after events (fresh upload capacity attempt seq control)) := by
  have kept : let window := machine.after events (fresh upload capacity attempt seq control)
      window.upload = upload ∧ window.Sound := by
    refine machine.after_invariant (fun window => window.upload = upload ∧ window.Sound)
      ⟨rfl, sound_fresh upload capacity attempt seq control⟩ ?_ ?_ events
    · rintro reply window ⟨uploadEq, sound⟩
      exact ⟨(congrArg Prod.fst (fixed_feed reply window)).trans uploadEq, sound.feed reply⟩
    · rintro signal window ⟨uploadEq, sound⟩
      exact ⟨uploadEq, sound.signal signal⟩
  generalize machine.after events (fresh upload capacity attempt seq control) = window at kept
  obtain ⟨rfl, sound⟩ := kept
  refine ⟨rfl, sound.bounded.acked_le, Upload.reaches_of_le sound.bounded.next_le, ?_⟩
  intro packet ticket phaseEq
  have promised := sound.promised
  rw [phaseEq] at promised
  obtain ⟨-, -, issues⟩ := promised
  obtain ⟨seq, built⟩ := issues.built
  exact ⟨issues.within, seq, ticket.offset, ticket.length, issues.within, built⟩

/-! ## Downloads -/

namespace FileBuffer

theorem allocate_eq_ok {announced : Option Nat} {buffer : FileBuffer}
    (allocated : allocate announced = .ok buffer) :
    announced = some buffer.length ∧ buffer.length ≤ maxLength ∧
      buffer.content = List.replicate buffer.length 0 := by
  cases announced with
  | none => cases allocated
  | some length =>
      simp only [allocate] at allocated
      split_ifs at allocated with implausible
      cases allocated
      exact ⟨rfl, Nat.le_of_not_lt implausible, content_new _ _⟩

/-- A buffer as it was, but for a chunk that lies within it. -/
structure Takes (before : FileBuffer) (chunk : FileChunk) (after : FileBuffer) : Prop where
  within : chunk.after ≤ before.length
  length_eq : after.length = before.length
  content_eq : after.content =
    before.content.take chunk.offset ++ chunk.data ++ before.content.drop chunk.after

theorem takes_of_place {chunk : FileChunk} {buffer placed : FileBuffer} {offset : Nat}
    (place : buffer.place chunk = .ok (placed, offset)) :
    offset = chunk.after ∧ buffer.Takes chunk placed := by
  obtain ⟨offsetEq, within, lengthEq, contentEq⟩ := content_place place
  exact ⟨offsetEq, within, lengthEq, contentEq⟩

end FileBuffer

namespace Download

/-- The buffer that a chunk is for: the one that there is, else a new one of the length that the chunk
announces. -/
def Opens (state : Download) (chunk : FileChunk) (buffer : FileBuffer) : Prop :=
  state.buffer = some buffer ∨
    state.buffer = none ∧ FileBuffer.allocate chunk.length = .ok buffer

/-- What a download can do with a chunk. -/
inductive Stored (chunk : FileChunk) (before : Download) : Except Error Unit × Download → Prop
  | unopened {failure : Error} (bufferEq : before.buffer = none) :
      Stored chunk before (.error failure, before)
  | refused {failure : Error} {buffer : FileBuffer} (opens : before.Opens chunk buffer) :
      Stored chunk before (.error failure, { before with buffer := some buffer })
  | placed {buffer placed : FileBuffer} (opens : before.Opens chunk buffer)
      (takes : buffer.Takes chunk placed) :
      Stored chunk before (.ok (), { before with buffer := some placed, offset := chunk.after })

theorem store_of_opens {chunk : FileChunk} {state : Download} {buffer : FileBuffer}
    (opens : state.Opens chunk buffer) :
    state.store chunk = { state with buffer := some buffer }.store chunk := by
  rcases opens with bufferEq | ⟨bufferEq, allocated⟩
  · simp only [store, bufferEq]
  · simp only [store, bufferEq, allocated]

theorem stored_of_opens {chunk : FileChunk} {state : Download} {buffer : FileBuffer}
    (opens : state.Opens chunk buffer) : Stored chunk state (state.store chunk) := by
  rw [store_of_opens opens]
  simp only [store]
  cases placeEq : buffer.place chunk with
  | error failure => exact .refused opens
  | ok found =>
      obtain ⟨placed, offset⟩ := found
      obtain ⟨rfl, takes⟩ := FileBuffer.takes_of_place placeEq
      exact .placed opens takes

theorem stored_store (chunk : FileChunk) (state : Download) :
    Stored chunk state (state.store chunk) := by
  cases bufferEq : state.buffer with
  | some buffer => exact stored_of_opens (.inl bufferEq)
  | none =>
      cases allocated : FileBuffer.allocate chunk.length with
      | error failure =>
          simp only [store, bufferEq, allocated]
          exact .unopened bufferEq
      | ok buffer => exact stored_of_opens (.inr ⟨bufferEq, allocated⟩)

/-- What comes back either brings no chunk and is refused, or its chunk is stored. -/
theorem accept_cases (request : Exchange) (outcome : Except Error Response) (state : Download) :
    (∃ failure, state.chunkOf request.packet outcome = .error failure ∧
        transfer.accept request outcome state = (.error failure, state)) ∨
      ∃ chunk, state.chunkOf request.packet outcome = .ok chunk ∧
        Stored chunk state (transfer.accept request outcome state) := by
  simp only [transfer, accept]
  cases state.chunkOf request.packet outcome with
  | error failure => exact .inl ⟨failure, rfl, rfl⟩
  | ok chunk => exact .inr ⟨chunk, rfl, stored_store chunk state⟩

theorem request_snd (offset : Nat) (state : Download) :
    (transfer.request offset state).2 = { state with seq := state.seq + 1 } :=
  rfl

/-- What an event can do to the buffer when it brings some chunks. -/
inductive Buffers (chunks : List FileChunk) : Option FileBuffer → Option FileBuffer → Prop
  | kept (buffer : Option FileBuffer) : Buffers chunks buffer buffer
  | allocated {chunk : FileChunk} {new : FileBuffer} (member : chunk ∈ chunks)
      (allocated : FileBuffer.allocate chunk.length = .ok new) : Buffers chunks none (some new)
  | taken {chunk : FileChunk} {before after : FileBuffer} (member : chunk ∈ chunks)
      (takes : before.Takes chunk after) : Buffers chunks (some before) (some after)
  | opened {chunk : FileChunk} {new after : FileBuffer} (member : chunk ∈ chunks)
      (allocated : FileBuffer.allocate chunk.length = .ok new) (takes : new.Takes chunk after) :
      Buffers chunks none (some after)

theorem Stored.buffers {chunk : FileChunk} {before : Download}
    {result : Except Error Unit × Download} (stored : Stored chunk before result) :
    Buffers [chunk] before.buffer result.2.buffer := by
  have member := List.mem_singleton_self chunk
  cases stored with
  | unopened => exact .kept _
  | refused opens =>
      rcases opens with bufferEq | ⟨bufferEq, allocated⟩
      · rw [bufferEq]
        exact .kept _
      · rw [bufferEq]
        exact .allocated member allocated
  | placed opens takes =>
      rcases opens with bufferEq | ⟨bufferEq, allocated⟩
      · rw [bufferEq]
        exact .taken member takes
      · rw [bufferEq]
        exact .opened member allocated takes

/-- A download that fails to send is where it was, with all that it had received. -/
structure Unmoved (before after : Download) : Prop where
  offset_eq : after.offset = before.offset
  buffer_eq : ∀ buffer, before.buffer = some buffer → after.buffer = some buffer
  blank : before.buffer = none → ∀ buffer, after.buffer = some buffer →
    buffer.content = List.replicate buffer.length 0

theorem unmoved_of_failsToSend {before after : Download}
    (fails : transfer.FailsToSend before after) : Unmoved before after := by
  have unmoved (seq : UInt8) : Unmoved before { before with seq } :=
    ⟨rfl, fun _ bufferEq => bufferEq, fun none _ bufferEq => by cases none.symm.trans bufferEq⟩
  cases fails with
  | unasked requested =>
      obtain rfl := congrArg Prod.snd requested
      exact unmoved _
  | @refused offset request outcome failure asked _ requested accepted =>
      obtain rfl := congrArg Prod.snd requested
      rw [request_snd] at accepted
      rcases accept_cases request outcome { before with seq := before.seq + 1 } with
        ⟨failure, -, acceptEq⟩ | ⟨chunk, -, stored⟩
      · rw [acceptEq] at accepted
        cases accepted
        exact unmoved _
      · rw [accepted] at stored
        cases stored with
        | unopened => exact unmoved _
        | refused opens =>
            rcases opens with bufferEq | ⟨bufferEq, allocated⟩
            · have bufferEq : before.buffer = _ := bufferEq
              refine ⟨rfl, fun _ found => found.symm.trans bufferEq ▸ rfl, fun none => ?_⟩
              cases none.symm.trans bufferEq
            · have bufferEq : before.buffer = none := bufferEq
              refine ⟨rfl, fun _ found => ?_, fun _ buffer found => ?_⟩
              · cases bufferEq.symm.trans found
              · obtain rfl := Option.some.inj found
                exact (FileBuffer.allocate_eq_ok allocated).2.2

end Download

namespace DownloadJob

open Download (Buffers)

/-- The chunk that an event brings for the request that is out. -/
def brings (job : DownloadJob) : Event → List FileChunk
  | .reply (.answer outcome) =>
      match job.run.phase with
      | .sending _ request => (job.run.transfer.chunkOf request.packet outcome).toOption.toList
      | _ => []
  | _ => []

/-- A download to which some chunks were brought, within its buffer, which has the length that the first
of them announced. -/
structure InBounds (brought : List FileChunk) (job : DownloadJob) : Prop where
  unopened : job.run.transfer.buffer = none → job.run.transfer.offset = 0
  opened : ∀ buffer, job.run.transfer.buffer = some buffer →
    job.run.transfer.offset ≤ buffer.length ∧ buffer.content.length = buffer.length ∧
      buffer.length ≤ FileBuffer.maxLength ∧
      ∃ first ∈ brought.head?, first.length = some buffer.length

/-- A download that goes on without a buffer was brought nothing. -/
structure Following (brought : List FileChunk) (job : DownloadJob) : Prop where
  inBounds : InBounds brought job
  awaits : job.run.transfer.buffer = none →
    (∃ failure, job.run.phase = .ended (.error failure)) ∨ brought = []

variable {brought : List FileChunk} {job : DownloadJob}

theorem Following.advance (following : Following brought job) :
    Following brought { run := job.run.advance Download.transfer } := by
  obtain ⟨run⟩ := job
  obtain ⟨⟨unopened, opened⟩, awaits⟩ := following
  have advanced := Stepwise.advanced_advance Download.transfer run
  generalize run.advance Download.transfer = after at advanced ⊢
  cases advanced with
  | stayed => exact ⟨⟨unopened, opened⟩, awaits⟩
  | refused | aborted => exact ⟨⟨unopened, opened⟩, fun _ => .inl ⟨_, rfl⟩⟩
  | begun phaseEq | completed phaseEq | told phaseEq =>
      refine ⟨⟨unopened, opened⟩, fun none => .inr ((awaits none).resolve_left ?_)⟩
      rintro ⟨failure, ended⟩
      cases phaseEq.symm.trans ended
  | failed phaseEq uncanceled requested =>
      obtain rfl := congrArg Prod.snd requested
      exact ⟨⟨unopened, opened⟩, fun _ => .inl ⟨_, rfl⟩⟩
  | requested phaseEq unfinished uncanceled requested =>
      obtain rfl := congrArg Prod.snd requested
      refine ⟨⟨unopened, opened⟩, fun none => .inr ((awaits none).resolve_left ?_)⟩
      rintro ⟨failure, ended⟩
      cases phaseEq.symm.trans ended

theorem brings_of_sending {offset : Nat} {request : Exchange}
    (phaseEq : job.run.phase = .sending offset request) (outcome : Except Error Response) :
    brings job (.reply (.answer outcome)) =
      (job.run.transfer.chunkOf request.packet outcome).toOption.toList := by
  simp only [brings, phaseEq]

/-- The chunk that opens the buffer is the first one, as none came before. -/
theorem Following.exists_first (following : Following brought job) {offset : Nat} {request : Exchange}
    (phaseEq : job.run.phase = .sending offset request) {chunk : FileChunk} {buffer : FileBuffer}
    (opens : job.run.transfer.Opens chunk buffer) :
    job.run.transfer.offset ≤ buffer.length ∧ buffer.length ≤ FileBuffer.maxLength ∧
      ∃ first ∈ (brought ++ [chunk]).head?, first.length = some buffer.length := by
  rcases opens with bufferEq | ⟨bufferEq, allocated⟩
  · obtain ⟨offset_le, -, length_le, first, isFirst, announced⟩ :=
      following.inBounds.opened buffer bufferEq
    exact ⟨offset_le, length_le, first, by simp [List.head?_append, Option.mem_def.mp isFirst],
      announced⟩
  · obtain ⟨announced, length_le, -⟩ := FileBuffer.allocate_eq_ok allocated
    have nothing : brought = [] := by
      refine (following.awaits bufferEq).resolve_left ?_
      rintro ⟨failure, ended⟩
      cases phaseEq.symm.trans ended
    rw [following.inBounds.unopened bufferEq, nothing]
    exact ⟨Nat.zero_le _, length_le, chunk, rfl, announced⟩

theorem Following.of_buffer {run : Stepwise Download Exchange} {buffer : FileBuffer}
    (bufferEq : run.transfer.buffer = some buffer) (offset_le : run.transfer.offset ≤ buffer.length)
    (length_le : buffer.length ≤ FileBuffer.maxLength)
    (first : ∃ first ∈ brought.head?, first.length = some buffer.length) :
    Following brought { run } := by
  refine ⟨⟨fun none => ?_, fun found foundEq => ?_⟩, fun none => ?_⟩
  · cases none.symm.trans bufferEq
  · obtain rfl := Option.some.inj (foundEq.symm.trans bufferEq)
    exact ⟨offset_le, FileBuffer.length_content _, length_le, first⟩
  · cases none.symm.trans bufferEq

/-- What a run makes of an answer to the request that is out. -/
theorem answer_of_sending {offset : Nat} {request : Exchange}
    (phaseEq : job.run.phase = .sending offset request) (outcome : Except Error Response) :
    (job.run.answer Download.transfer outcome).transfer =
        (Download.transfer.accept request outcome job.run.transfer).2 ∧
      ∀ failure, (Download.transfer.accept request outcome job.run.transfer).1 = .error failure →
        (job.run.answer Download.transfer outcome).phase = .ended (.error failure) := by
  have accepted := Stepwise.accepted_answer Download.transfer outcome job.run
  generalize job.run.answer Download.transfer outcome = after at accepted ⊢
  cases accepted with
  | stayed idle => exact absurd phaseEq (idle offset request)
  | failed sent accepted =>
      cases phaseEq.symm.trans sent
      rw [accepted]
      exact ⟨rfl, fun _ failed => Except.error.inj failed ▸ rfl⟩
  | aborted sent accepted | stuck sent accepted | settled sent accepted =>
      cases phaseEq.symm.trans sent
      rw [accepted]
      exact ⟨rfl, fun _ failed => by cases failed⟩

theorem Following.answer (following : Following brought job) (outcome : Except Error Response) :
    Following (brought ++ brings job (.reply (.answer outcome)))
      { run := job.run.answer Download.transfer outcome } := by
  cases phaseEq : job.run.phase with
  | sending offset request =>
      obtain ⟨transferEq, failing⟩ := answer_of_sending phaseEq outcome
      rw [brings_of_sending phaseEq]
      rcases Download.accept_cases request outcome job.run.transfer with
        ⟨failure, unbrought, acceptEq⟩ | ⟨chunk, brought, stored⟩
      · rw [acceptEq] at transferEq failing
        have ended := failing failure rfl
        generalize job.run.answer Download.transfer outcome = after at transferEq ended ⊢
        simp only [unbrought, Except.toOption, Option.toList_none, List.append_nil]
        refine ⟨⟨?_, ?_⟩, fun _ => .inl ⟨failure, ended⟩⟩
        · simpa only [transferEq] using following.inBounds.unopened
        · simpa only [transferEq] using following.inBounds.opened
      · simp only [brought, Except.toOption, Option.toList_some]
        generalize job.run.answer Download.transfer outcome = after at transferEq failing ⊢
        generalize Download.transfer.accept request outcome job.run.transfer = result
          at transferEq failing stored
        cases stored with
        | @unopened failure bufferEq =>
            have ended := failing failure rfl
            refine ⟨⟨?_, fun buffer opened => ?_⟩, fun _ => .inl ⟨failure, ended⟩⟩
            · simpa only [transferEq] using following.inBounds.unopened
            · rw [transferEq] at opened
              cases bufferEq.symm.trans opened
        | refused opens =>
            obtain ⟨offset_le, length_le, first⟩ := following.exists_first phaseEq opens
            refine .of_buffer (congrArg Download.buffer transferEq) ?_ length_le first
            rwa [transferEq]
        | placed opens takes =>
            obtain ⟨-, length_le, first⟩ := following.exists_first phaseEq opens
            rw [← takes.length_eq] at length_le first
            refine .of_buffer (congrArg Download.buffer transferEq) ?_ length_le first
            rw [transferEq, takes.length_eq]
            exact takes.within
  | starting | choosing | telling | ended =>
      have stayed : job.run.answer Download.transfer outcome = job.run := by
        simp only [Stepwise.answer, phaseEq]
      have unbrought : brings job (.reply (.answer outcome)) = [] := by
        simp only [brings, phaseEq]
      rw [unbrought, stayed, List.append_nil]
      exact following

theorem following_after (scheme : Scheme) (path : String) (seq : UInt8) (control : Control)
    (events : List Event) :
    let start := DownloadJob.start scheme path seq control
    Following (machine.trace brings events start) (machine.after events start) := by
  intro start
  refine machine.trace_invariant Following ?_ ?_ events
  · exact ⟨⟨fun _ => rfl, by simp [start, DownloadJob.start]⟩, fun _ => .inr rfl⟩
  · intro brought event job following
    cases event with
    | signal signal =>
        simp only [brings, List.append_nil]
        exact ⟨⟨following.inBounds.unopened, following.inBounds.opened⟩, following.awaits⟩
    | reply reply =>
        cases reply with
        | ready =>
            simp only [brings, List.append_nil]
            exact following.advance
        | answer outcome => exact following.answer outcome
        | acknowledgement | silence | connected =>
            simp only [brings, List.append_nil]
            exact following

theorem buffers_advance (chunks : List FileChunk) (run : Stepwise Download Exchange) :
    Buffers chunks run.transfer.buffer (run.advance Download.transfer).transfer.buffer := by
  have advanced := Stepwise.advanced_advance Download.transfer run
  generalize run.advance Download.transfer = after at advanced ⊢
  cases advanced with
  | stayed | refused | begun | completed | aborted | told => exact .kept _
  | failed _ _ requested | requested _ _ _ requested =>
      obtain rfl := congrArg Prod.snd requested
      exact .kept _

/-- The buffer is opened by a chunk and changed by chunks only. -/
theorem buffers_take (job : DownloadJob) (event : Event) :
    Buffers (brings job event) job.run.transfer.buffer
      (machine.take job event).run.transfer.buffer := by
  cases event with
  | signal signal => exact .kept _
  | reply reply =>
      cases reply with
      | ready => exact buffers_advance _ job.run
      | acknowledgement | silence | connected => exact .kept _
      | answer outcome =>
          change Buffers _ _ (job.run.answer Download.transfer outcome).transfer.buffer
          cases phaseEq : job.run.phase with
          | sending offset request =>
              rw [brings_of_sending phaseEq, (answer_of_sending phaseEq outcome).1]
              rcases Download.accept_cases request outcome job.run.transfer with
                ⟨failure, -, acceptEq⟩ | ⟨chunk, brought, stored⟩
              · rw [acceptEq]
                exact .kept _
              · simp only [brought, Except.toOption, Option.toList_some]
                exact stored.buffers
          | starting | choosing | telling | ended =>
              simp only [Stepwise.answer, phaseEq]
              exact .kept _

end DownloadJob

/-- Whatever happens to a transfer, a plain or windowed upload stays within its data, and a download
within its buffer, which is opened once, with the length that the first chunk announces, and only
changed where a chunk belongs; and one that fails to send is where it was, with all that it had. -/
theorem Transfer.inBounds_of_events :
    (∀ upload seq control events, SingleUpload.InBounds upload
      (SingleUpload.machine.after events (SingleUpload.fresh upload seq control))) ∧
    (∀ upload capacity attempt seq control events, Window.InBounds upload
      (Window.machine.after events (.fresh upload capacity attempt seq control))) ∧
    (∀ scheme path seq control events,
      let start := DownloadJob.start scheme path seq control
      let job := DownloadJob.machine.after events start
      DownloadJob.InBounds (DownloadJob.machine.trace DownloadJob.brings events start) job ∧
        ∀ event, Download.Buffers (job.brings event) job.run.transfer.buffer
          (DownloadJob.machine.take job event).run.transfer.buffer) ∧
    (∀ before after, SingleUpload.transfer.FailsToSend before after →
      after = { before with seq := after.seq }) ∧
    ∀ before after, Download.transfer.FailsToSend before after → before.Unmoved after := by
  refine ⟨SingleUpload.inBounds_after, Window.inBounds_after, ?_,
    fun _ _ => SingleUpload.eq_of_failsToSend, fun _ _ => Download.unmoved_of_failsToSend⟩
  intro scheme path seq control events start job
  exact ⟨(DownloadJob.following_after scheme path seq control events).inBounds, job.buffers_take⟩

end SmpClient
