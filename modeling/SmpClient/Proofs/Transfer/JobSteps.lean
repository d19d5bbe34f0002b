import SmpClient.Proofs.Transfer.StepwiseSteps
import SmpClient.Proofs.Transfer.WindowSteps
import SmpClient.Transfer.Download
import SmpClient.Transfer.UploadJob

/-!
# The steps of a job

An upload job is its current attempt, except for the one step with which it starts over.  A download
job is its run.
-/

namespace SmpClient

namespace UploadEngine

variable {engine : UploadEngine}

theorem need_of_result? {result : Except Error Unit} (ended : engine.result? = some result) :
    engine.need = .finished result := by
  cases engine with
  | single run =>
      simp only [result?] at ended
      split at ended
      · rename_i phaseEq
        cases ended
        exact Stepwise.need_eq_finished_iff.mpr phaseEq
      · cases ended
  | windowed window =>
      simp only [result?] at ended
      split at ended
      · rename_i phaseEq
        cases ended
        exact Window.need_eq_finished_iff.mpr phaseEq
      · cases ended

theorem feed_of_result? {result : Except Error Unit} (ended : engine.result? = some result)
    (reply : Reply) : engine.feed reply = engine := by
  have needEq := need_of_result? ended
  cases engine with
  | single run =>
      have phaseEq := Stepwise.need_eq_finished_iff.mp needEq
      exact congrArg single (Stepwise.feed_ended phaseEq reply)
  | windowed window =>
      have phaseEq := Window.need_eq_finished_iff.mp needEq
      exact congrArg windowed (Window.feed_ended phaseEq reply)

end UploadEngine

namespace UploadJob

variable {job : UploadJob}

theorem need_of_retryMtu? (retryEq : job.retryMtu? = none) :
    machine.need job = job.engine.need := by
  simp only [machine, need, retryEq]

theorem feed_of_retryMtu? (retryEq : job.retryMtu? = none) (reply : Reply) :
    machine.feed reply job = { job with engine := job.engine.feed reply } := by
  simp only [machine, feed, retryEq]

/-- A job that is about to start over needs nothing, and is not impressed by what comes back. -/
theorem of_retryMtu?_eq_some {mtu : Nat} (retryEq : job.retryMtu? = some mtu) :
    machine.need job = .step ∧
      ∀ reply, machine.feed reply job = job.retry mtu ∨ machine.feed reply job = job := by
  refine ⟨by simp only [machine, need, retryEq], fun reply => ?_⟩
  simp only [machine, feed, retryEq]
  cases reply with
  | ready => exact .inl rfl
  | answer outcome => exact .inr rfl
  | acknowledgement ticket outcome => exact .inr rfl
  | silence => exact .inr rfl
  | connected outcome => exact .inr rfl

/-- A job goes on with its attempt, or is to start over: which it does, or stays as it is. -/
theorem feed_cases (reply : Reply) (job : UploadJob) :
    machine.feed reply job = { job with engine := job.engine.feed reply } ∨
      (∃ mtu, machine.feed reply job = job.retry mtu) ∨ machine.feed reply job = job := by
  cases retryEq : job.retryMtu? with
  | none => exact .inl (feed_of_retryMtu? retryEq reply)
  | some mtu =>
      rcases (of_retryMtu?_eq_some retryEq).2 reply with retried | same
      · exact .inr (.inl ⟨mtu, retried⟩)
      · exact .inr (.inr same)

theorem result?_of_retryMtu? {mtu : Nat} (retryEq : job.retryMtu? = some mtu) :
    ∃ required link, job.engine.result? = some (.error (.insufficientMtu required link)) := by
  rw [retryMtu?] at retryEq
  split at retryEq
  · cases retryEq
  · obtain ⟨result, ended, next⟩ := Option.bind_eq_some_iff.mp retryEq
    rw [MtuRetry.next?.eq_def] at next
    split at next
    · exact ⟨_, _, ended⟩
    · cases next

/-- A job that needs something from the link does not start over. -/
theorem retryMtu?_eq_none {needed : Need Progress (Except Error Unit)}
    (needEq : machine.need job = needed) (needNe : needed ≠ .step) : job.retryMtu? = none := by
  cases retryEq : job.retryMtu? with
  | none => rfl
  | some mtu =>
      rw [(of_retryMtu?_eq_some retryEq).1] at needEq
      exact absurd needEq.symm needNe

end UploadJob

namespace DownloadJob

variable {job : DownloadJob} {packet : Bytes} {kind : ResponseKind} {ticket : Ticket}

theorem need_ne_collect : machine.need job ≠ .collect := by
  simp only [machine]
  cases needEq : job.run.need Download.transfer <;> simp [Need.map]
  exact absurd needEq Stepwise.need_ne_collect

theorem need_ne_post : machine.need job ≠ .post packet kind ticket := by
  simp only [machine]
  cases needEq : job.run.need Download.transfer <;> simp [Need.map]
  exact absurd needEq Stepwise.need_ne_post

theorem sending_of_need (needEq : machine.need job = .exchange packet kind) :
    ∃ offset request, job.run.phase = .sending offset request ∧ request.packet = packet := by
  simp only [machine] at needEq
  cases runEq : job.run.need Download.transfer with
  | exchange sent sentKind =>
      rw [runEq] at needEq
      cases needEq
      exact Stepwise.sending_of_need runEq
  | _ =>
      rw [runEq] at needEq
      cases needEq

theorem need_eq_finished {result : Except Error Bytes}
    (needEq : machine.need job = .finished result) :
    ∃ ended, job.run.phase = .ended ended ∧ job.result ended = result := by
  simp only [machine] at needEq
  cases runEq : job.run.need Download.transfer with
  | finished ended =>
      rw [runEq] at needEq
      exact ⟨ended, Stepwise.need_eq_finished_iff.mp runEq, Need.finished.inj needEq⟩
  | _ =>
      rw [runEq] at needEq
      cases needEq

end DownloadJob

end SmpClient
