import SmpClient.Proofs.Machine.Network
import SmpClient.Proofs.Transfer.Aborts
import SmpClient.Proofs.Transfer.JobSteps
import SmpClient.Proofs.Transfer.WindowSteps
import SmpClient.Transfer.Background

/-!
# What a cancel stops

A transfer looks for a cancel only at some points of its way.  Where it looks for one before
anything else can end it, a cancel stops it for certain.  Where it waits for an answer the answer
comes first, and may complete the transfer or make it fail.
-/

namespace SmpClient

namespace Control

/-- What a transfer may do to its control by itself: at most it closes it. -/
structure Follows (before after : Control) : Prop where
  canceled_eq : after.canceled = before.canceled
  closed : before.phase = .closed → after.phase = .closed

theorem Follows.refl (control : Control) : Follows control control :=
  ⟨rfl, id⟩

theorem Follows.close (control : Control) : Follows control control.close :=
  ⟨rfl, fun _ => rfl⟩

theorem isAborted_iff {control : Control} :
    control.isAborted = true ↔ control.phase = .closed ∧ control.canceled = true := by
  simp [isAborted]

theorem Follows.isAborted {before after : Control} (follows : Follows before after)
    (aborted : before.isAborted = true) : after.isAborted = true := by
  obtain ⟨closed, canceled⟩ := isAborted_iff.mp aborted
  exact isAborted_iff.mpr ⟨follows.closed closed, follows.canceled_eq.trans canceled⟩

theorem Follows.start {control started : Control} (startEq : control.start = .ok started) :
    Follows control started := by
  unfold Control.start at startEq
  split at startEq
  · rename_i idle
    cases startEq
    exact ⟨rfl, fun closed => by rw [idle] at closed; cases closed⟩
  · cases startEq
    exact .refl _
  · cases startEq
    exact .refl _
  · split at startEq <;> cases startEq

/-- What one step of a transfer does to its control. -/
inductive Steered (before : Control) (complete : Prop) : Control → Prop
  | kept : Steered before complete before
  | started {control : Control} (startEq : before.start = .ok control) :
      Steered before complete control
  | closed (done : complete) : Steered before complete before.close

theorem Steered.imp {before after : Control} {complete other : Prop} (implies : complete → other)
    (steered : Steered before complete after) : Steered before other after := by
  cases steered with
  | kept => exact .kept
  | started startEq => exact .started startEq
  | closed done => exact .closed (implies done)

theorem Steered.follows {before after : Control} {complete : Prop}
    (steered : Steered before complete after) : Follows before after := by
  cases steered with
  | kept => exact .refl _
  | started startEq => exact .start startEq
  | closed done => exact .close _

/-- A transfer closes itself only at its complete end. -/
theorem Steered.complete_of_closed {before after : Control} {complete : Prop}
    (steered : Steered before complete after) (closed : after.phase = .closed) :
    before.phase = .closed ∨ complete := by
  cases steered with
  | kept => exact .inl closed
  | started startEq =>
      left
      unfold Control.start at startEq
      split at startEq
      · cases startEq
        cases closed
      · cases startEq
        exact closed
      · cases startEq
        exact closed
      · assumption
  | closed done => exact .inr done

/-- A transfer that was canceled does not begin. -/
theorem start_of_isAborted {control : Control} (aborted : control.isAborted = true) :
    control.start = .error .aborted := by
  obtain ⟨closed, canceled⟩ := isAborted_iff.mp aborted
  simp [start, closed, canceled]

theorem canceled_of_start {control : Control} (started : control.start = .error .aborted) :
    control.canceled = true := by
  unfold Control.start at started
  split at started
  · cases started
  · cases started
  · cases started
  · split at started
    · assumption
    · cases started

/-- What a signal does: an accepted cancel closes the transfer for good; nothing else is remembered
as a cancel, and nothing changes what is closed. -/
theorem signal_cases (signal : Signal) (control : Control) :
    (signal = .cancel ∧ (control.signal signal).1 = true ∧
      (control.signal signal).2.isAborted = true) ∨
    (¬ (signal = .cancel ∧ (control.signal signal).1 = true) ∧
      Follows control (control.signal signal).2) := by
  obtain ⟨phase, canceled⟩ := control
  cases signal <;> cases phase <;>
    simp [Control.signal, pause, resume, cancel, isAborted, Follows.refl]
  all_goals exact ⟨rfl, fun closed => nomatch closed⟩

theorem canceled_signal (signal : Signal) {control : Control}
    (canceled : control.canceled = true) : (control.signal signal).2.canceled = true := by
  rcases control.signal_cases signal with ⟨-, -, aborted⟩ | ⟨-, follows⟩
  · exact (isAborted_iff.mp aborted).2
  · exact follows.canceled_eq.trans canceled

end Control

/-- A job that keeps to the control it shares with its owner.  Where it is `stoppable` it looks for a
cancel before anything else can end it, or a cancel has already stopped it. -/
structure Cancelable {σ α : Type} (inner : Machine σ Progress (Except Error α)) (close : σ → σ)
    (control : σ → Control) (stoppable : σ → Bool) : Prop where
  signaled : ∀ signal job, (inner.signal signal job).1 = ((control job).signal signal).1 ∧
    control (inner.signal signal job).2 = ((control job).signal signal).2
  stoppable_signal : ∀ signal job, stoppable (inner.signal signal job).2 = stoppable job
  finished_signal : ∀ signal job result,
    inner.need (inner.signal signal job).2 = .finished result → inner.need job = .finished result
  closed : ∀ job, control (close job) = (control job).close
  stoppable_close : ∀ job, stoppable (close job) = stoppable job
  follows : ∀ reply job, (control job).Follows (control (inner.feed reply job))
  stops : ∀ reply job, (control job).isAborted = true → stoppable job = true →
    stoppable (inner.feed reply job) = true
  ended : ∀ job result, inner.need job = .finished result →
    (stoppable job = true ↔ result = .error .aborted)
  /-- Only a cancel stops a job, unless what comes back says so. -/
  explained : ∀ reply job, (∀ outcome ∈ reply.outcome?, Unaborted outcome) →
    inner.need (inner.feed reply job) = .finished (.error .aborted) →
      inner.need job = .finished (.error .aborted) ∨ (control job).canceled = true

theorem Cancelable.canceled_signal {σ α : Type} {inner : Machine σ Progress (Except Error α)}
    {close : σ → σ} {control : σ → Control} {stoppable : σ → Bool}
    (cancelable : Cancelable inner close control stoppable) {job : σ}
    (canceled : (control job).canceled = true) (signal : Signal) :
    (control (inner.signal signal job).2).canceled = true := by
  rw [(cancelable.signaled signal job).2]
  exact Control.canceled_signal signal canceled

/-! ## Stepwise transfers -/

namespace Stepwise

variable {τ : Type} {kind : LinkTransfer τ} {run : Stepwise τ Exchange}

/-- Whether a cancel stops a run for certain, or has stopped it. -/
def stoppable (kind : LinkTransfer τ) (run : Stepwise τ Exchange) : Bool :=
  match run.phase with
  | .starting | .ended (.error .aborted) => true
  | .choosing | .telling => !kind.isFinished run.transfer
  | .sending _ _ | .ended _ => false

theorem stoppable_of_ended {result : Except Error Unit} (phaseEq : run.phase = .ended result) :
    run.stoppable kind = true ↔ result = .error .aborted := by
  unfold stoppable
  rw [phaseEq]
  split <;> simp_all

theorem steered_feed (reply : Reply) :
    run.control.Steered ((run.feed kind reply).phase = .ended (.ok ()))
      (run.feed kind reply).control := by
  cases reply with
  | ready =>
      have advanced := advanced_advance kind run
      simp only [feed]
      generalize run.advance kind = after at advanced ⊢
      cases advanced with
      | begun phaseEq started => exact .started started
      | completed => exact .closed rfl
      | stayed | refused | aborted | failed | requested | told => exact .kept
  | answer outcome =>
      have accepted := accepted_answer kind outcome run
      simp only [feed]
      generalize run.answer kind outcome = after at accepted ⊢
      cases accepted <;> exact .kept
  | acknowledgement ticket outcome => exact .kept
  | silence => exact .kept
  | connected outcome => exact .kept

theorem stoppable_feed (canceled : run.control.isAborted = true)
    (stoppable : run.stoppable kind = true) (reply : Reply) :
    (run.feed kind reply).stoppable kind = true := by
  cases reply with
  | ready =>
      have advanced := advanced_advance kind run
      simp only [feed]
      generalize run.advance kind = after at advanced ⊢
      cases advanced with
      | stayed => exact stoppable
      | refused phaseEq started =>
          rw [Control.start_of_isAborted canceled] at started
          cases started
          rfl
      | begun phaseEq started =>
          rw [Control.start_of_isAborted canceled] at started
          cases started
      | completed phaseEq finished =>
          simp [Stepwise.stoppable, phaseEq, finished] at stoppable
      | aborted => rfl
      | failed phaseEq uncanceled =>
          rw [canceled] at uncanceled
          cases uncanceled
      | requested phaseEq unfinished uncanceled =>
          rw [canceled] at uncanceled
          cases uncanceled
      | told phaseEq => simpa [Stepwise.stoppable, phaseEq] using stoppable
  | answer outcome =>
      have accepted := accepted_answer kind outcome run
      simp only [feed]
      generalize run.answer kind outcome = after at accepted ⊢
      cases accepted with
      | stayed => exact stoppable
      | failed phaseEq | aborted phaseEq | stuck phaseEq | settled phaseEq =>
          simp [Stepwise.stoppable, phaseEq] at stoppable
  | acknowledgement ticket outcome => exact stoppable
  | silence => exact stoppable
  | connected outcome => exact stoppable

theorem explained_feed (aborts : kind.AbortsNothing) {reply : Reply}
    (unaborted : ∀ outcome ∈ reply.outcome?, Unaborted outcome)
    (ended : (run.feed kind reply).phase = .ended (.error .aborted)) :
    run.phase = .ended (.error .aborted) ∨ run.control.canceled = true := by
  cases reply with
  | ready =>
      have advanced := advanced_advance kind run
      simp only [feed] at ended
      generalize run.advance kind = after at advanced ended
      cases advanced with
      | stayed => exact .inl ended
      | refused phaseEq started =>
          cases ended
          exact .inr (Control.canceled_of_start started)
      | aborted phaseEq unfinished canceled => exact .inr (Control.isAborted_iff.mp canceled).2
      | failed phaseEq uncanceled requested =>
          cases ended
          exact absurd (congrArg Prod.fst requested) (aborts.request _ _)
      | begun | completed | requested | told => cases ended
  | answer outcome =>
      have accepted := accepted_answer kind outcome run
      simp only [feed] at ended
      generalize run.answer kind outcome = after at accepted ended
      cases accepted with
      | stayed => exact .inl ended
      | failed phaseEq accepted =>
          cases ended
          have heard := unaborted outcome (by simp [Reply.outcome?])
          exact absurd (congrArg Prod.fst accepted) (aborts.accept _ _ _ heard)
      | aborted phaseEq accepted canceled => exact .inr canceled
      | stuck | settled => cases ended
  | acknowledgement ticket outcome => exact .inl ended
  | silence => exact .inl ended
  | connected outcome => exact .inl ended

end Stepwise

/-! ## Windowed uploads -/

namespace Window

variable {window : Window}

/-- Whether a cancel stops an upload for certain, or has stopped it. -/
def stoppable (window : Window) : Bool :=
  match window.phase with
  | .starting | .resting | .ended (.error .aborted) => true
  | .turning | .telling => window.acked < window.total
  | .issuing | .posting _ _ | .collecting | .ended _ => false

theorem stoppable_of_ended {result : Except Error Unit} (phaseEq : window.phase = .ended result) :
    window.stoppable = true ↔ result = .error .aborted := by
  unfold stoppable
  rw [phaseEq]
  split <;> simp_all

theorem steered_turn (window : Window) :
    window.control.Steered (window.turn.phase = .ended (.ok ())) window.turn.control := by
  rw [turn]
  split
  · exact .closed rfl
  · split
    · exact .kept
    · dsimp only
      split
      · split <;> simp [restart, Control.Steered.kept]
      · simp [Control.Steered.kept]

theorem steered_feed (reply : Reply) :
    window.control.Steered ((window.feed reply).phase = .ended (.ok ()))
      (window.feed reply).control := by
  unfold feed
  split
  · rw [begin]
    split
    · exact .kept
    · rename_i started
      exact .started started
  · exact window.steered_turn
  · rw [control_issue]
    exact .kept
  · exact .kept
  · rw [rise]
    split_ifs <;> exact .kept
  · exact .kept
  · rw [control_acknowledge]
    exact .kept
  · exact .kept
  · exact .kept

theorem stoppable_feed (canceled : window.control.isAborted = true)
    (stoppable : window.stoppable = true) (reply : Reply) :
    (window.feed reply).stoppable = true := by
  have closed := (Control.isAborted_iff.mp canceled).1
  unfold feed
  split
  · rw [begin, Control.start_of_isAborted canceled]
    rfl
  · rename_i phaseEq
    have short : window.acked < window.total := by
      simpa [Window.stoppable, phaseEq] using stoppable
    rw [turn, if_neg (Nat.not_le_of_lt short), if_pos (Control.isAborted_iff.mp canceled).2]
    rfl
  · rename_i phaseEq
    simp [Window.stoppable, phaseEq] at stoppable
  · rename_i phaseEq
    simp [Window.stoppable, phaseEq] at stoppable
  · have unpaused : window.control.isPaused = false := by simp [Control.isPaused, closed]
    rw [rise, unpaused, if_neg Bool.false_ne_true, if_pos canceled]
    rfl
  · rename_i phaseEq
    simp [Window.stoppable, phaseEq] at stoppable
  · rename_i phaseEq
    simp [Window.stoppable, phaseEq] at stoppable
  · rename_i phaseEq
    have short : window.acked < window.total := by
      simpa [Window.stoppable, phaseEq] using stoppable
    exact decide_eq_true short
  · exact stoppable

/-! ### Where an upload ends -/

theorem canceled_of_turn {failure : Error} (ended : window.turn.phase = .ended (.error failure)) :
    window.control.canceled = true := by
  have turned := window.turned_turn
  rw [ended] at turned
  cases turned with
  | aborted canceled => exact canceled

theorem unaborted_of_issue {failure : Error} (ended : window.issue.phase = .ended (.error failure)) :
    failure ≠ .aborted := by
  rw [issue] at ended
  split at ended
  · have next := window.upload.unaborted_nextChunk window.seq window.next
    split at ended
    · rename_i failed
      cases ended
      rintro rfl
      exact next (congrArg Prod.fst failed)
    · rename_i chunk seq _
      split at ended
      · rename_i failed
        cases ended
        rintro rfl
        exact Packet.unaborted_header _ _ failed
      · cases ended
  · rw [afterIssuing] at ended
    split_ifs at ended

theorem unaborted_of_settle {ticket : Ticket} {offset : Nat} {failure : Error}
    (ended : (window.settle ticket offset).phase = .ended (.error failure)) :
    failure ≠ .aborted := by
  rw [settle] at ended
  split at ended
  · rw [moveTo] at ended
    split_ifs at ended
  · dsimp only at ended
    generalize (if offset ≤ window.acked then window.stalls + 1 else 0) = stalls at ended
    split at ended
    · cases ended
      simp
    · rw [moveTo] at ended
      split_ifs at ended

theorem unaborted_of_acknowledge (phaseEq : window.phase = .collecting) {ticket : Ticket}
    {outcome : Except Error Response} (unaborted : Unaborted outcome) {failure : Error}
    (ended : (window.acknowledge ticket outcome).phase = .ended (.error failure)) :
    failure ≠ .aborted := by
  rw [acknowledge] at ended
  split at ended
  · rw [phaseEq] at ended
    cases ended
  · dsimp only at ended
    split at ended
    · cases ended
    · split at ended
      · rename_i failed
        cases ended
        rintro rfl
        exact unaborted_reported _ ticket unaborted failed
      · exact unaborted_of_settle ended

theorem explained_feed {reply : Reply} (unaborted : ∀ outcome ∈ reply.outcome?, Unaborted outcome)
    (ended : (window.feed reply).phase = .ended (.error .aborted)) :
    window.phase = .ended (.error .aborted) ∨ window.control.canceled = true := by
  unfold feed at ended
  split at ended
  · rw [begin] at ended
    split at ended
    · rename_i started
      cases ended
      exact .inr (Control.canceled_of_start started)
    · cases ended
  · exact .inr (canceled_of_turn ended)
  · exact absurd rfl (unaborted_of_issue ended)
  · cases ended
  · rename_i phaseEq
    rw [rise] at ended
    split_ifs at ended with paused canceled
    · exact .inl ended
    · exact .inr (Control.isAborted_iff.mp canceled).2
  · cases ended
  · rename_i ticket outcome phaseEq
    have heard : Unaborted outcome := unaborted outcome (by simp [Reply.outcome?])
    exact absurd rfl (unaborted_of_acknowledge phaseEq heard ended)
  · cases ended
  · exact .inl ended

end Window

/-! ## Jobs -/

namespace UploadEngine

variable {engine : UploadEngine}

/-- Whether a cancel stops an attempt for certain, or has stopped it. -/
def stoppable : UploadEngine → Bool
  | .single run => run.stoppable SingleUpload.transfer
  | .windowed window => window.stoppable

@[simp]
theorem control_start (upload : Upload) (capacity attempt : Nat) (seq : UInt8)
    (control : Control) :
    (UploadEngine.start upload capacity attempt seq control).control = control := by
  rw [UploadEngine.start]
  split <;> rfl

@[simp]
theorem stoppable_start (upload : Upload) (capacity attempt : Nat) (seq : UInt8)
    (control : Control) :
    (UploadEngine.start upload capacity attempt seq control).stoppable = true := by
  rw [UploadEngine.start]
  split <;> rfl

theorem need_start (upload : Upload) (capacity attempt : Nat) (seq : UInt8)
    (control : Control) :
    (UploadEngine.start upload capacity attempt seq control).need = .step := by
  rw [UploadEngine.start]
  split <;> rfl

theorem finished_of_signal {signal : Signal} {result : Except Error Unit}
    (needEq : (engine.signal signal).2.need = .finished result) :
    engine.need = .finished result := by
  cases engine with
  | single run =>
      have phaseEq := Stepwise.need_eq_finished_iff.mp needEq
      exact Stepwise.need_eq_finished_iff.mpr phaseEq
  | windowed window =>
      have phaseEq := Window.need_eq_finished_iff.mp needEq
      exact Window.need_eq_finished_iff.mpr phaseEq

theorem stoppable_of_finished {result : Except Error Unit}
    (needEq : engine.need = .finished result) :
    engine.stoppable = true ↔ result = .error .aborted := by
  cases engine with
  | single run => exact Stepwise.stoppable_of_ended (Stepwise.need_eq_finished_iff.mp needEq)
  | windowed window => exact Window.stoppable_of_ended (Window.need_eq_finished_iff.mp needEq)

theorem steered_feed (reply : Reply) :
    engine.control.Steered ((engine.feed reply).result? = some (.ok ()))
      (engine.feed reply).control := by
  cases engine with
  | single run =>
      refine Control.Steered.imp (fun ended => ?_) (Stepwise.steered_feed reply)
      simp only [feed, result?, ended]
  | windowed window =>
      refine Control.Steered.imp (fun ended => ?_) (Window.steered_feed reply)
      simp only [feed, result?, ended]

theorem stoppable_feed (canceled : engine.control.isAborted = true)
    (stoppable : engine.stoppable = true) (reply : Reply) :
    (engine.feed reply).stoppable = true := by
  cases engine with
  | single run => exact Stepwise.stoppable_feed canceled stoppable reply
  | windowed window => exact Window.stoppable_feed canceled stoppable reply

theorem explained_feed {reply : Reply} (unaborted : ∀ outcome ∈ reply.outcome?, Unaborted outcome)
    (ended : (engine.feed reply).need = .finished (.error .aborted)) :
    engine.need = .finished (.error .aborted) ∨ engine.control.canceled = true := by
  cases engine with
  | single run =>
      have explained := Stepwise.explained_feed SingleUpload.abortsNothing unaborted
        (Stepwise.need_eq_finished_iff.mp ended)
      exact explained.imp Stepwise.need_eq_finished_iff.mpr id
  | windowed window =>
      have explained := Window.explained_feed unaborted (Window.need_eq_finished_iff.mp ended)
      exact explained.imp Window.need_eq_finished_iff.mpr id

end UploadEngine

namespace UploadJob

/-- Whether a cancel stops an upload for certain, or has stopped it.  One that is about to start over
looks for a cancel first. -/
def stoppable (job : UploadJob) : Bool :=
  job.retryMtu?.isSome || job.engine.stoppable

theorem retryMtu?_signal (signal : Signal) (job : UploadJob) :
    (machine.signal signal job).2.retryMtu? = job.retryMtu? := by
  simp only [machine, UploadJob.signal, retryMtu?]
  cases job.engine <;> rfl

/-- An upload that starts over keeps its control. -/
theorem steered_feed (reply : Reply) (job : UploadJob) :
    job.control.Steered ((machine.feed reply job).engine.result? = some (.ok ()))
      (machine.feed reply job).control := by
  rcases feed_cases reply job with goesOn | ⟨mtu, retried⟩ | same
  · rw [goesOn]
    exact UploadEngine.steered_feed reply
  · rw [retried, control, control, retry, UploadEngine.control_start]
    exact .kept
  · rw [same]
    exact .kept

theorem cancelable : Cancelable machine close control stoppable where
  signaled signal job := by
    simp only [machine, UploadJob.signal, control]
    cases job.engine <;> exact ⟨rfl, rfl⟩
  stoppable_signal signal job := by
    rw [stoppable, stoppable, retryMtu?_signal]
    simp only [machine, UploadJob.signal]
    cases job.engine <;> rfl
  finished_signal signal job result needEq := by
    have retryEq := retryMtu?_eq_none needEq (by simp)
    rw [need_of_retryMtu? retryEq] at needEq
    rw [retryMtu?_signal] at retryEq
    rw [need_of_retryMtu? retryEq]
    exact UploadEngine.finished_of_signal needEq
  closed job := by
    simp only [close, control]
    cases job.engine <;> rfl
  stoppable_close job := by
    simp only [stoppable, close, retryMtu?]
    cases job.engine <;> rfl
  follows reply job := (steered_feed reply job).follows
  stops reply job canceled stoppable := by
    cases retryEq : job.retryMtu? with
    | none =>
        rw [feed_of_retryMtu? retryEq]
        have running : job.engine.stoppable = true := by
          simpa [UploadJob.stoppable, retryEq] using stoppable
        have stops := UploadEngine.stoppable_feed canceled running reply
        simp [UploadJob.stoppable, stops]
    | some mtu =>
        rcases (of_retryMtu?_eq_some retryEq).2 reply with retried | same
        · rw [retried]
          simp [UploadJob.stoppable, retry]
        · rw [same]
          exact stoppable
  ended job result needEq := by
    have retryEq := retryMtu?_eq_none needEq (by simp)
    rw [need_of_retryMtu? retryEq] at needEq
    rw [stoppable, retryEq]
    exact UploadEngine.stoppable_of_finished needEq
  explained reply job unaborted ended := by
    cases retryEq : job.retryMtu? with
    | none =>
        have later := retryMtu?_eq_none ended (by simp)
        rw [need_of_retryMtu? later, feed_of_retryMtu? retryEq] at ended
        rw [need_of_retryMtu? retryEq]
        exact UploadEngine.explained_feed unaborted ended
    | some mtu =>
        rcases (of_retryMtu?_eq_some retryEq).2 reply with retried | same
        · have later := retryMtu?_eq_none ended (by simp)
          rw [need_of_retryMtu? later, retried, retry, UploadEngine.need_start] at ended
          cases ended
        · rw [same] at ended
          exact .inl ended

end UploadJob

namespace DownloadJob

/-- Whether a cancel stops a download for certain, or has stopped it. -/
def stoppable (job : DownloadJob) : Bool :=
  job.run.stoppable Download.transfer

/-- An unfinished download is not an aborted one. -/
theorem result_eq_aborted_iff {job : DownloadJob} {ended : Except Error Unit} :
    job.result ended = .error .aborted ↔ ended = .error .aborted := by
  cases ended with
  | error failure => simp [result]
  | ok =>
      simp only [result, Download.content, reduceCtorEq, iff_false]
      split
      · split_ifs <;> simp
      · simp

theorem need_eq_aborted_iff {job : DownloadJob} :
    machine.need job = .finished (.error .aborted) ↔ job.run.phase = .ended (.error .aborted) := by
  constructor
  · intro needEq
    obtain ⟨ended, phaseEq, resultEq⟩ := need_eq_finished needEq
    rw [phaseEq, result_eq_aborted_iff.mp resultEq]
  · intro phaseEq
    simp only [machine, Stepwise.need_eq_finished_iff.mpr phaseEq]
    rfl

theorem cancelable : Cancelable machine close control stoppable where
  signaled signal job := ⟨rfl, rfl⟩
  stoppable_signal signal job := rfl
  finished_signal signal job result needEq := by
    obtain ⟨ended, phaseEq, rfl⟩ := need_eq_finished needEq
    have running : job.run.phase = .ended ended := phaseEq
    simp only [machine, Stepwise.need_eq_finished_iff.mpr running]
    rfl
  closed job := rfl
  stoppable_close job := rfl
  follows reply job := (Stepwise.steered_feed reply).follows
  stops reply job canceled stoppable := Stepwise.stoppable_feed canceled stoppable reply
  ended job result needEq := by
    obtain ⟨ended, phaseEq, rfl⟩ := need_eq_finished needEq
    rw [result_eq_aborted_iff]
    exact Stepwise.stoppable_of_ended phaseEq
  explained reply job unaborted ended := by
    rw [need_eq_aborted_iff] at ended ⊢
    exact Stepwise.explained_feed Download.abortsNothing unaborted ended

end DownloadJob

end SmpClient
