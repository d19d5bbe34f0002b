import SmpClient.Proofs.Transfer.Halt

/-!
# Where an upload stops for good

Nothing closes an upload but a cancel, or its complete end.  So a cancel always finds an upload that it
can stop, or one that has nothing more to send.
-/

namespace SmpClient

namespace UploadJob

variable {job : UploadJob}

/-- An upload that was canceled, or is complete. -/
def Stopped (job : UploadJob) : Prop :=
  job.control.isAborted = true ∨ job.engine.result? = some (.ok ())

theorem Stopped.halted (stopped : job.Stopped) : job.Halted := by
  refine stopped.imp_left fun aborted => ?_
  rw [Control.isHalted, aborted, Bool.or_true]

theorem result?_feed {result : Except Error Unit} (ended : job.engine.result? = some result)
    (final : job.retryMtu? = none) (reply : Reply) :
    (machine.feed reply job).engine.result? = some result := by
  rw [feed_of_retryMtu? final, UploadEngine.feed_of_result? ended]
  exact ended

/-- A complete upload does not start over. -/
theorem retryMtu?_of_complete (complete : job.engine.result? = some (.ok ())) :
    job.retryMtu? = none := by
  cases retryEq : job.retryMtu? with
  | none => rfl
  | some mtu =>
      obtain ⟨required, link, ended⟩ := result?_of_retryMtu? retryEq
      cases ended.symm.trans complete

theorem result?_signal (signal : Signal) (job : UploadJob) :
    (machine.signal signal job).2.engine.result? = job.engine.result? := by
  simp only [machine, UploadJob.signal]
  cases job.engine <;> rfl

theorem Stopped.feed (stopped : job.Stopped) (reply : Reply) : (machine.feed reply job).Stopped := by
  rcases stopped with aborted | complete
  · exact .inl ((cancelable.follows reply job).isAborted aborted)
  · exact .inr (result?_feed complete (retryMtu?_of_complete complete) reply)

theorem Stopped.signal (stopped : job.Stopped) (signal : Signal) :
    (machine.signal signal job).2.Stopped := by
  rcases stopped with aborted | complete
  · left
    rw [(cancelable.signaled signal job).2]
    rcases job.control.signal_cases signal with ⟨-, -, abortedNow⟩ | ⟨-, follows⟩
    · exact abortedNow
    · exact follows.isAborted aborted
  · right
    rw [result?_signal]
    exact complete

/-- An upload that is closed by nothing but a cancel or its complete end. -/
def ClosesInTime (job : UploadJob) : Prop :=
  job.control.phase = .closed → job.Stopped

theorem control_start (upload : Upload) (window attempt : Nat) (seq : UInt8) (control : Control) :
    (start upload window attempt seq control).control = control := by
  rw [start]
  split
  · rfl
  · exact UploadEngine.control_start upload _ attempt seq control

theorem closesInTime_start {control : Control} (unclosed : control.phase ≠ .closed) (upload : Upload)
    (window attempt : Nat) (seq : UInt8) : (start upload window attempt seq control).ClosesInTime := by
  intro closed
  rw [control_start] at closed
  exact absurd closed unclosed

theorem ClosesInTime.feed (inTime : job.ClosesInTime) (reply : Reply) :
    (machine.feed reply job).ClosesInTime := by
  intro closed
  rcases (steered_feed reply job).complete_of_closed closed with before | complete
  · exact (inTime before).feed reply
  · exact .inr complete

theorem ClosesInTime.signal (inTime : job.ClosesInTime) (signal : Signal) :
    (machine.signal signal job).2.ClosesInTime := by
  intro closed
  rw [(cancelable.signaled signal job).2] at closed
  by_cases before : job.control.phase = .closed
  · exact (inTime before).signal signal
  · left
    rw [(cancelable.signaled signal job).2]
    generalize job.control = control at closed before ⊢
    obtain ⟨phase, canceled⟩ := control
    cases signal <;> cases phase <;>
      simp_all [Control.signal, Control.pause, Control.resume, Control.cancel, Control.isAborted]

/-- A cancel stops an upload unless it is complete. -/
theorem ClosesInTime.stopped_of_cancel (inTime : job.ClosesInTime) :
    (machine.signal .cancel job).2.Stopped := by
  apply inTime.signal .cancel
  rw [(cancelable.signaled .cancel job).2, Control.signal, Control.cancel]
  split
  · assumption
  · rfl

end UploadJob

end SmpClient
