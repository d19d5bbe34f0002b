import SmpClient.Proofs.Machine.Trace
import SmpClient.Proofs.Transfer.ChunkFits
import SmpClient.Proofs.Transfer.ChunkPackets
import SmpClient.Proofs.Transfer.Stops

/-!
# Packets that are long enough

Whether the packets of a link are long enough for an upload shows at its first chunk.  Once that was
sent, no attempt gives up by itself for want of room: what can still tell it that a packet is too long is
an answer of the link.
-/

namespace SmpClient

/-- The first chunk of an upload fits its packets. -/
def Upload.FitsFirst (upload : Upload) : Prop :=
  ∃ seq length, upload.chunkLength seq 0 = .ok length

/-- Then there is a chunk wherever there is data left, and at the end an empty one. -/
theorem Upload.FitsFirst.exists_nextChunk {upload : Upload} (fits : upload.FitsFirst)
    (addressable : upload.Addressable) (seq : UInt8) {offset : Nat}
    (within : offset ≤ upload.data.length) :
    ∃ chunk after, upload.nextChunk seq offset = (.ok chunk, after) := by
  obtain ⟨first, fits⟩ := fits
  have sized : ∃ length, upload.chunkLength seq offset = .ok length := by
    rcases Nat.eq_or_lt_of_le within with complete | short
    · obtain ⟨emptyPacket, -, built, -⟩ := exists_chunkPacket addressable seq offset 0
      have none : ¬ 0 < upload.data.length - offset := by omega
      simp only [chunkLength, built, bind, Except.bind, none, and_false, if_false]
      exact ⟨_, rfl⟩
    · have nonempty : upload.data ≠ [] := List.length_pos_iff.mp (Nat.zero_lt_of_lt short)
      exact exists_chunkLength addressable nonempty fits seq short
  obtain ⟨length, sized⟩ := sized
  obtain ⟨packet, -, built, -⟩ := exists_chunkPacket addressable (seq + 1) offset length
  refine ⟨{ packet, length }, seq + 2, ?_⟩
  simp only [nextChunk, sized, built, Except.map]

/-- A closed transfer does not start, but not for want of room. -/
theorem Control.start_ne_insufficientMtu {control : Control} {failure : Error}
    (refused : control.start = .error failure) (required mtu : Nat) :
    failure ≠ .insufficientMtu required mtu := by
  rw [start] at refused
  split at refused
  · cases refused
  · cases refused
  · cases refused
  · split at refused <;> cases refused <;> simp

/-! ## Plain uploads -/

namespace SingleUpload

/-- A plain upload that has sent nothing yet. -/
structure Unsent (run : Stepwise SingleUpload Exchange) : Prop where
  offset_eq : run.transfer.offset = 0
  idle : ∀ offset request, run.phase ≠ .sending offset request

variable {upload : Upload} {run : Stepwise SingleUpload Exchange}

theorem Unsent.packet? (unsent : Unsent run) : (run.need transfer).packet? = none := by
  cases needEq : run.need transfer with
  | exchange packet kind =>
      obtain ⟨offset, request, phaseEq, -⟩ := Stepwise.sending_of_need needEq
      exact absurd phaseEq (unsent.idle offset request)
  | post packet kind ticket => exact absurd needEq Stepwise.need_ne_post
  | _ => rfl

/-- The first request that it comes to send shows that the first chunk fits. -/
theorem Unsent.feed (unsent : Unsent run) (reply : Reply) :
    Unsent (run.feed transfer reply) ∨ run.transfer.upload.FitsFirst := by
  obtain ⟨offset_eq, idle⟩ := unsent
  cases reply with
  | ready =>
      have advanced := Stepwise.advanced_advance transfer run
      change Unsent (run.advance transfer) ∨ _
      generalize run.advance transfer = after at advanced ⊢
      cases advanced with
      | stayed => exact .inl ⟨offset_eq, idle⟩
      | refused | begun | completed | aborted | told => exact .inl ⟨offset_eq, by simp⟩
      | failed phaseEq uncanceled requested =>
          obtain ⟨seq, rfl⟩ := request_eq_error requested
          exact .inl ⟨offset_eq, by simp⟩
      | requested phaseEq unfinished uncanceled requested =>
          obtain ⟨-, seq, length, sized, -⟩ := request_eq_ok requested
          have sizedFirst : run.transfer.upload.chunkLength run.transfer.seq 0 = .ok length :=
            offset_eq ▸ sized
          exact .inr ⟨_, length, sizedFirst⟩
  | answer outcome =>
      have accepted := Stepwise.accepted_answer transfer outcome run
      change Unsent (run.answer transfer outcome) ∨ _
      generalize run.answer transfer outcome = after at accepted ⊢
      cases accepted with
      | stayed => exact .inl ⟨offset_eq, idle⟩
      | failed sent | aborted sent | stuck sent | settled sent => exact absurd sent (idle _ _)
  | acknowledgement ticket outcome => exact .inl ⟨offset_eq, idle⟩
  | silence => exact .inl ⟨offset_eq, idle⟩
  | connected outcome => exact .inl ⟨offset_eq, idle⟩

/-- What is uploaded, and how, stays as it is. -/
theorem upload_accept {state after : SingleUpload} {request : Exchange}
    {outcome : Except Error Response} {result : Except Error Unit}
    (accepted : transfer.accept request outcome state = (result, after)) :
    after.upload = state.upload := by
  obtain rfl : (transfer.accept request outcome state).2 = after := congrArg Prod.snd accepted
  simp only [transfer, accept]
  split <;> rfl

theorem upload_feed (reply : Reply) (run : Stepwise SingleUpload Exchange) :
    (run.feed transfer reply).transfer.upload = run.transfer.upload := by
  cases reply with
  | ready =>
      have advanced := Stepwise.advanced_advance transfer run
      change (run.advance transfer).transfer.upload = _
      generalize run.advance transfer = after at advanced ⊢
      cases advanced with
      | failed phaseEq uncanceled requested =>
          obtain ⟨seq, rfl⟩ := request_eq_error requested
          rfl
      | requested phaseEq unfinished uncanceled requested =>
          obtain ⟨⟨seq, rfl⟩, -⟩ := request_eq_ok requested
          rfl
      | _ => rfl
  | answer outcome =>
      have taken := Stepwise.accepted_answer transfer outcome run
      change (run.answer transfer outcome).transfer.upload = _
      generalize run.answer transfer outcome = after at taken ⊢
      cases taken with
      | stayed => rfl
      | failed sent accepted | aborted sent accepted | stuck sent accepted
      | settled sent accepted =>
          exact upload_accept accepted
  | acknowledgement ticket outcome => rfl
  | silence => rfl
  | connected outcome => rfl

/-- A plain upload whose first chunk fits does not fail by itself for want of room. -/
theorem unfailing_of_fits (addressable : upload.Addressable) (underway : Underway upload run)
    (fits : run.transfer.upload.FitsFirst) {reply : Reply} (unanswered : reply.outcome? = none)
    {failure : Error} (unended : ∀ result, run.phase ≠ .ended result)
    (ended : (run.feed transfer reply).phase = .ended (.error failure)) (required mtu : Nat) :
    failure ≠ .insufficientMtu required mtu := by
  obtain ⟨within, offset_le⟩ := underway.within
  cases reply with
  | ready =>
      change (run.advance transfer).phase = _ at ended
      have advanced := Stepwise.advanced_advance transfer run
      generalize run.advance transfer = after at advanced ended
      cases advanced with
      | stayed => exact absurd ended (unended _)
      | refused phaseEq started =>
          cases ended
          exact Control.start_ne_insufficientMtu started required mtu
      | begun | completed | told | requested => cases ended
      | aborted =>
          cases ended
          simp
      | @failed refusal state phaseEq uncanceled requested =>
          obtain ⟨packets, uploadEq⟩ := within
          have dataEq : run.transfer.upload.data = upload.data := by rw [uploadEq]
          have addressable : run.transfer.upload.Addressable := by
            rw [uploadEq]
            exact ⟨addressable.data_lt, addressable.destination⟩
          obtain ⟨chunk, seq, next⟩ :=
            fits.exists_nextChunk addressable run.transfer.seq (dataEq ▸ offset_le)
          simp [transfer, request, next, Except.map] at requested
  | answer outcome => cases unanswered
  | acknowledgement ticket outcome => cases unanswered
  | silence => exact absurd ended (unended _)
  | connected outcome => exact absurd ended (unended _)

end SingleUpload

/-! ## Windowed uploads -/

namespace Window

/-- A windowed upload that has sent nothing yet. -/
structure Unsent (window : Window) : Prop where
  next_eq : window.next = 0
  acked_eq : window.acked = 0
  inFlight_eq : window.inFlight = 0
  idle : ∀ packet ticket, window.phase ≠ .posting packet ticket
  collected : window.phase ≠ .collecting

variable {upload : Upload} {window : Window}

theorem Unsent.packet? (unsent : Unsent window) : (machine.need window).packet? = none := by
  cases needEq : machine.need window with
  | exchange packet kind => exact absurd needEq need_ne_exchange
  | post packet kind ticket =>
      exact absurd (need_eq_post_iff.mp needEq).1 (unsent.idle packet ticket)
  | _ => rfl

theorem Unsent.afterIssuing (unsent : Unsent window) (paused : Bool) :
    (window.afterIssuing paused).Unsent := by
  obtain ⟨next_eq, acked_eq, inFlight_eq, -, -⟩ := unsent
  rw [Window.afterIssuing, if_neg (not_not_intro inFlight_eq)]
  split_ifs
  · exact ⟨next_eq, acked_eq, inFlight_eq, by simp, by simp⟩
  · exact ⟨next_eq, acked_eq, inFlight_eq, by simp, by simp⟩

theorem Unsent.notePause (unsent : Unsent window) : window.notePause.Unsent := by
  obtain ⟨next_eq, acked_eq, inFlight_eq, idle, collected⟩ := unsent
  rw [Window.notePause]
  split_ifs
  · exact ⟨next_eq, acked_eq, inFlight_eq, idle, collected⟩
  · exact ⟨acked_eq, acked_eq, inFlight_eq, idle, collected⟩
  · exact ⟨next_eq, acked_eq, inFlight_eq, idle, collected⟩

/-- A turn starts a new generation at the beginning, if it starts one. -/
theorem Unsent.turn (unsent : Unsent window) : window.turn.Unsent := by
  have noted := unsent.notePause
  obtain ⟨next_eq, acked_eq, inFlight_eq, -, -⟩ := unsent
  rw [Window.turn]
  split
  · exact ⟨next_eq, acked_eq, inFlight_eq, by simp, by simp⟩
  · split
    · exact ⟨next_eq, acked_eq, inFlight_eq, by simp [finish], by simp [finish]⟩
    · dsimp only
      split
      · split
        · exact ⟨noted.acked_eq, noted.acked_eq, noted.inFlight_eq, by simp, by simp⟩
        · exact ⟨noted.next_eq, noted.acked_eq, noted.inFlight_eq, by simp, by simp⟩
      · exact noted.afterIssuing _

/-- The first packet that it builds shows that the first chunk fits. -/
theorem Unsent.issue (unsent : Unsent window) : window.issue.Unsent ∨ window.upload.FitsFirst := by
  rw [Window.issue]
  split
  · obtain ⟨next_eq, acked_eq, inFlight_eq, -, -⟩ := unsent
    cases next : window.upload.nextChunk window.seq window.next with
    | mk result seq =>
        cases result with
        | error failure => exact .inl ⟨next_eq, acked_eq, inFlight_eq, by simp, by simp⟩
        | ok chunk =>
            rw [next_eq] at next
            exact .inr ⟨_, _, (Upload.nextChunk_eq_ok next).1⟩
  · exact .inl (unsent.afterIssuing _)

theorem Unsent.feed (unsent : Unsent window) (reply : Reply) :
    (window.feed reply).Unsent ∨ window.upload.FitsFirst := by
  obtain ⟨next_eq, acked_eq, inFlight_eq, idle, collected⟩ := unsent
  unfold Window.feed
  split
  · left
    rw [begin]
    split
    · exact ⟨next_eq, acked_eq, inFlight_eq, by simp [finish], by simp [finish]⟩
    · exact ⟨next_eq, acked_eq, inFlight_eq, by simp, by simp⟩
  · exact .inl (Unsent.turn ⟨next_eq, acked_eq, inFlight_eq, idle, collected⟩)
  · exact Unsent.issue ⟨next_eq, acked_eq, inFlight_eq, idle, collected⟩
  · rename_i phaseEq
    exact absurd phaseEq (idle _ _)
  · left
    rw [rise]
    split_ifs
    · exact ⟨next_eq, acked_eq, inFlight_eq, idle, collected⟩
    · exact ⟨next_eq, acked_eq, inFlight_eq, by simp [finish], by simp [finish]⟩
    · exact ⟨next_eq, acked_eq, inFlight_eq, by simp, by simp⟩
  · rename_i phaseEq
    exact absurd phaseEq collected
  · rename_i phaseEq
    exact absurd phaseEq collected
  · exact .inl ⟨next_eq, acked_eq, inFlight_eq, by simp, by simp⟩
  · exact .inl ⟨next_eq, acked_eq, inFlight_eq, idle, collected⟩

theorem issue_of_fits (addressable : window.upload.Addressable) (fits : window.upload.FitsFirst)
    (sound : window.Sound) (result : Except Error Unit) : window.issue.phase ≠ .ended result := by
  rw [issue]
  split
  · rename_i room
    have next_le : window.next ≤ window.upload.data.length := sound.bounded.next_le
    obtain ⟨chunk, after, next⟩ := fits.exists_nextChunk addressable window.seq next_le
    obtain ⟨-, built⟩ := Upload.nextChunk_eq_ok next
    obtain ⟨packet, request, builtAgain, headerEq⟩ :=
      Upload.exists_chunkPacket addressable (window.seq + 1) window.next chunk.length
    obtain rfl := Except.ok.inj (builtAgain.symm.trans built)
    simp [next, headerEq]
  · unfold Window.afterIssuing
    split_ifs <;> simp

theorem ended_turn {failure : Error} (ended : window.turn.phase = .ended (.error failure)) :
    failure = .aborted := by
  have turned := window.turned_turn
  rw [ended] at turned
  cases turned
  rfl

/-- A windowed upload whose first chunk fits does not fail by itself for want of room. -/
theorem unfailing_of_fits (addressable : window.upload.Addressable) (sound : window.Sound)
    (fits : window.upload.FitsFirst) {reply : Reply} (unanswered : reply.outcome? = none)
    {failure : Error} (unended : ∀ result, window.phase ≠ .ended result)
    (ended : (window.feed reply).phase = .ended (.error failure)) (required mtu : Nat) :
    failure ≠ .insufficientMtu required mtu := by
  unfold Window.feed at ended
  split at ended
  · rw [begin] at ended
    split at ended
    · rename_i started
      cases ended
      exact Control.start_ne_insufficientMtu started required mtu
    · cases ended
  · rw [ended_turn ended]
    simp
  · exact absurd ended (issue_of_fits addressable fits sound _)
  · cases ended
  · rw [rise] at ended
    split_ifs at ended
    · exact absurd ended (unended _)
    · cases ended
      simp
  · cases ended
  · cases unanswered
  · cases ended
  · exact absurd ended (unended _)

end Window

/-! ## Jobs -/

namespace UploadJob

/-- The packets that an attempt hands to the link. -/
def handedIn (attempt : Nat) : List Event → UploadJob → List Bytes :=
  machine.trace fun job event =>
    if (machine.take job event).attempt = attempt then machine.hands job event else []

/-- An attempt ends for want of room in its packets, though no answer says so. -/
structure GivesUp (job : UploadJob) (reply : Reply) : Prop where
  unended : job.engine.result? = none
  unanswered : reply.outcome? = none
  ended : ∃ required mtu,
    (machine.feed reply job).engine.result? = some (.error (.insufficientMtu required mtu))

/-- An attempt that has sent nothing yet. -/
inductive Unsent (job : UploadJob) : Prop
  | single (run : Stepwise SingleUpload Exchange) (engineEq : job.engine = .single run)
      (unsent : SingleUpload.Unsent run)
  | windowed (window : Window) (engineEq : job.engine = .windowed window) (unsent : window.Unsent)

variable {upload : Upload} {job : UploadJob}

theorem unsent_of_start {upload : Upload} {capacity attempt : Nat} {seq : UInt8} {control : Control}
    (engineEq : job.engine = .start upload capacity attempt seq control) : job.Unsent := by
  rw [UploadEngine.start] at engineEq
  split at engineEq
  · exact .windowed _ engineEq ⟨rfl, rfl, rfl, by simp, by simp⟩
  · exact .single _ engineEq ⟨rfl, by simp⟩

theorem unsent_start (upload : Upload) (window attempt : Nat) (seq : UInt8) (control : Control) :
    (start upload window attempt seq control).Unsent := by
  rw [start]
  split
  · exact .single _ rfl ⟨rfl, by simp⟩
  · exact unsent_of_start rfl

theorem Unsent.packet? (unsent : job.Unsent) : (machine.need job).packet? = none := by
  cases retryEq : job.retryMtu? with
  | some mtu =>
      rw [(of_retryMtu?_eq_some retryEq).1]
      rfl
  | none =>
      rw [need_of_retryMtu? retryEq]
      cases unsent with
      | single run engineEq unsent =>
          rw [engineEq]
          exact unsent.packet?
      | windowed window engineEq unsent =>
          rw [engineEq]
          exact unsent.packet?

theorem Unsent.hands {reply : Reply} (unsent : (machine.feed reply job).Unsent) :
    machine.hands job (.reply reply) = [] := by
  rcases machine.hands_reply reply job with none | ⟨packet, -, handed⟩
  · exact none
  · rw [unsent.packet?] at handed
    cases handed

theorem Unsent.feed (unsent : job.Unsent) (retryEq : job.retryMtu? = none) (reply : Reply) :
    (machine.feed reply job).Unsent ∨ job.engine.upload.FitsFirst := by
  rw [feed_of_retryMtu? retryEq]
  cases unsent with
  | single run engineEq unsent =>
      rw [engineEq]
      exact (unsent.feed reply).imp_left fun still => .single _ rfl still
  | windowed window engineEq unsent =>
      rw [engineEq]
      exact (unsent.feed reply).imp_left fun still => .windowed _ rfl still

theorem Unsent.signal (unsent : job.Unsent) (signal : Signal) :
    (machine.signal signal job).2.Unsent := by
  cases unsent with
  | single run engineEq unsent =>
      refine .single (run.signal signal).2 ?_ ⟨unsent.offset_eq, unsent.idle⟩
      simp only [machine, UploadJob.signal, engineEq, UploadEngine.signal]
  | windowed window engineEq unsent =>
      refine .windowed (window.signal signal).2 ?_
        ⟨unsent.next_eq, unsent.acked_eq, unsent.inFlight_eq, unsent.idle, unsent.collected⟩
      simp only [machine, UploadJob.signal, engineEq, UploadEngine.signal]

/-- An attempt keeps to what it uploads, and how. -/
theorem upload_feed (retryEq : job.retryMtu? = none) (reply : Reply) :
    (machine.feed reply job).engine.upload = job.engine.upload := by
  rw [feed_of_retryMtu? retryEq]
  cases engineEq : job.engine with
  | single run => exact SingleUpload.upload_feed reply run
  | windowed window => exact congrArg Prod.fst (Window.fixed_feed reply window)

theorem upload_signal (signal : Signal) (job : UploadJob) :
    (machine.signal signal job).2.engine.upload = job.engine.upload := by
  simp only [machine, UploadJob.signal]
  cases job.engine <;> rfl

/-- An attempt whose first chunk fits does not give up by itself for want of room. -/
theorem not_givesUp_of_fits (addressable : upload.Addressable) (underway : Underway upload job)
    (fits : job.engine.upload.FitsFirst) (reply : Reply) : ¬ GivesUp job reply := by
  rintro ⟨unended, unanswered, required, mtu, ended⟩
  have retryEq : job.retryMtu? = none := by simp [retryMtu?, unended]
  rw [feed_of_retryMtu? retryEq] at ended
  have needEq := UploadEngine.need_of_result? ended
  cases underway with
  | single run engineEq underway =>
      rw [engineEq] at needEq fits unended
      have phaseEq := Stepwise.need_eq_finished_iff.mp needEq
      have running : ∀ result, run.phase ≠ .ended result := by
        intro result phase
        simp [UploadEngine.result?, phase] at unended
      exact SingleUpload.unfailing_of_fits addressable underway fits unanswered running phaseEq
        required mtu rfl
  | windowed window engineEq upload_eq sound =>
      rw [engineEq] at needEq fits unended
      have phaseEq := Window.need_eq_finished_iff.mp needEq
      have running : ∀ result, window.phase ≠ .ended result := by
        intro result phase
        simp [UploadEngine.result?, phase] at unended
      have windowAddressable : window.upload.Addressable := by
        obtain ⟨mtu, uploadEq⟩ := upload_eq
        rw [uploadEq]
        exact ⟨addressable.data_lt, addressable.destination⟩
      exact Window.unfailing_of_fits windowAddressable sound fits unanswered running phaseEq
        required mtu rfl

/-- What one attempt has handed to the link: nothing unless its first chunk fits. -/
structure Foreseen (upload : Upload) (attempt : Nat) (seen : List Bytes) (job : UploadJob) : Prop where
  underway : Underway upload job
  before : job.attempt < attempt → seen = []
  now : job.attempt = attempt → (job.Unsent ∧ seen = []) ∨ job.engine.upload.FitsFirst

theorem Foreseen.retry {attempt : Nat} {seen : List Bytes} (foreseen : Foreseen upload attempt seen job)
    (mtu : Nat) : Foreseen upload attempt seen (job.retry mtu) where
  underway := foreseen.underway.retry mtu
  before := fun earlier => foreseen.before (Nat.lt_of_succ_lt earlier)
  now := fun reached =>
    .inl ⟨unsent_of_start rfl, foreseen.before (Nat.lt_of_lt_of_eq (Nat.lt_succ_self _) reached)⟩

/-- What an attempt hands to the link shows that its first chunk fits. -/
theorem Foreseen.feed {attempt : Nat} {seen : List Bytes} (foreseen : Foreseen upload attempt seen job)
    (reply : Reply) :
    Foreseen upload attempt
      (seen ++
        if (machine.feed reply job).attempt = attempt then machine.hands job (.reply reply) else [])
      (machine.feed reply job) := by
  cases retryEq : job.retryMtu? with
  | some mtu =>
      obtain ⟨needEq, retried | same⟩ := (of_retryMtu?_eq_some retryEq).imp_right (· reply)
      · have silent : machine.hands job (.reply reply) = [] := by
          refine Unsent.hands ?_
          rw [retried]
          exact unsent_of_start rfl
        rw [silent, ite_self, List.append_nil, retried]
        exact foreseen.retry mtu
      · have silent : machine.hands job (.reply reply) = [] := by
          rcases machine.hands_reply reply job with none | ⟨packet, -, handed⟩
          · exact none
          · rw [same, needEq] at handed
            cases handed
        rw [silent, ite_self, List.append_nil, same]
        exact foreseen
  | none =>
      have attemptEq : (machine.feed reply job).attempt = job.attempt := by
        rw [feed_of_retryMtu? retryEq]
      have uploadEq := upload_feed retryEq reply
      refine ⟨foreseen.underway.feed reply, fun earlier => ?_, fun reached => ?_⟩
      · rw [if_neg (Nat.ne_of_lt earlier), List.append_nil]
        exact foreseen.before (attemptEq ▸ earlier)
      · rw [if_pos reached, uploadEq]
        rcases foreseen.now (attemptEq ▸ reached) with ⟨unsent, rfl⟩ | fits
        · rcases unsent.feed retryEq reply with still | fits
          · exact .inl ⟨still, still.hands⟩
          · exact .inr fits
        · exact .inr fits

theorem Foreseen.signal {attempt : Nat} {seen : List Bytes}
    (foreseen : Foreseen upload attempt seen job) (signal : Signal) :
    Foreseen upload attempt seen (machine.signal signal job).2 where
  underway := foreseen.underway.signal signal
  before := foreseen.before
  now := fun reached => by
    rw [upload_signal]
    exact (foreseen.now reached).imp_left fun ⟨unsent, silent⟩ => ⟨unsent.signal signal, silent⟩

theorem foreseen_after (upload : Upload) (window first attempt : Nat) (seq : UInt8)
    (control : Control) (events : List Event) :
    Foreseen upload attempt (handedIn attempt events (.start upload window first seq control))
      (machine.after events (.start upload window first seq control)) := by
  refine Machine.trace_invariant (Foreseen upload attempt) ?_ ?_ events
  · exact ⟨underway_start upload window first seq control, fun _ => rfl,
      fun _ => .inl ⟨unsent_start upload window first seq control, rfl⟩⟩
  · intro seen event job foreseen
    cases event with
    | reply reply => exact foreseen.feed reply
    | signal signal =>
        simp only [Machine.hands, ite_self, List.append_nil]
        exact foreseen.signal signal

/-- If the first chunk of an upload fits its packets there is a chunk at every offset, on a multiple of
the alignment or not.  So an attempt that gives up for want of room, without an answer that says so, has
not sent anything. -/
theorem fits_at_every_offset (upload : Upload) (addressable : upload.Addressable) :
    ((∃ first length, upload.chunkLength first 0 = .ok length) →
      ∀ seq offset, offset < upload.data.length →
        ∃ length, upload.chunkLength seq offset = .ok length) ∧
    ∀ (window attempt : Nat) (seq : UInt8) (control : Control) (events : List Event) (reply : Reply),
      let start := UploadJob.start upload window attempt seq control
      let job := machine.after events start
      GivesUp job reply → handedIn job.attempt events start = [] := by
  constructor
  · rintro ⟨first, fits⟩ seq offset within
    have nonempty : upload.data ≠ [] := List.length_pos_iff.mp (Nat.zero_lt_of_lt within)
    exact Upload.exists_chunkLength addressable nonempty fits seq within
  · intro window attempt seq control events reply start job givesUp
    have foreseen := foreseen_after upload window attempt job.attempt seq control events
    rcases foreseen.now rfl with ⟨-, none⟩ | fits
    · exact none
    · exact absurd givesUp (not_givesUp_of_fits addressable foreseen.underway fits reply)

open Storage (threeBytes)

/-- An upload sends its first chunk, which the link refuses, and starts over with packets too short for
any chunk. -/
def shortened : List Event :=
  [.reply .ready, .reply .ready, .reply (.answer (.error (.insufficientMtu 60 20))), .reply .ready,
    .reply .ready]

/-- The second attempt gives up before it has sent anything, though the first has sent a chunk. -/
theorem fits_at_every_offset_threeBytes :
    let start := UploadJob.start threeBytes 1 0 0 {}
    let job := machine.after shortened start
    (threeBytes.Addressable ∧ (∃ first length, threeBytes.chunkLength first 0 = .ok length) ∧
      2 < threeBytes.data.length ∧ GivesUp job .ready) ∧
    (∃ length, threeBytes.chunkLength 5 2 = .ok length) ∧
      job.attempt = 1 ∧ handedIn 0 shortened start ≠ [] ∧ handedIn 1 shortened start = [] := by
  intro start job
  have addressable : threeBytes.Addressable := ⟨by decide, by decide⟩
  have fits : ∃ first length, threeBytes.chunkLength first 0 = .ok length := by
    have sized : (threeBytes.chunkLength 0 0).toOption = some 2 := by decide +kernel
    cases lengthEq : threeBytes.chunkLength 0 0 with
    | error failure =>
        rw [lengthEq] at sized
        cases sized
    | ok length => exact ⟨0, length, lengthEq⟩
  have givesUp : GivesUp job .ready := by
    have unended : job.engine.result?.isNone = true := by decide +kernel
    have refused : (machine.feed .ready job).engine.result?.bind (MtuRetry.next? 19) = some 18 := by
      decide +kernel
    refine ⟨Option.isNone_iff_eq_none.mp unended, rfl, ?_⟩
    obtain ⟨result, ended, next⟩ := Option.bind_eq_some_iff.mp refused
    rw [MtuRetry.next?.eq_def] at next
    split at next
    · exact ⟨_, _, ended⟩
    · cases next
  have attemptEq : job.attempt = 1 := by decide +kernel
  obtain ⟨everywhere, unsent⟩ := fits_at_every_offset threeBytes addressable
  have silent := unsent 1 0 0 {} shortened .ready givesUp
  exact ⟨⟨addressable, fits, by decide, givesUp⟩, everywhere fits 5 2 (by decide), attemptEq,
    by decide +kernel, attemptEq ▸ silent⟩

end UploadJob

end SmpClient
