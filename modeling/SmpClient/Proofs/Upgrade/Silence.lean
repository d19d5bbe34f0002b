import SmpClient.Proofs.Upgrade.Leftover
import SmpClient.Proofs.Upgrade.Reporting

/-!
# What a cancel leaves

A cancel stops the upload that is going on, and keeps a session from taking another task.  What is left
of the task at hand still goes out, and nothing else does.
-/

namespace SmpClient

namespace Session

variable {origin session : Session}

/-- An upload that stops when its session is canceled, and uses the window that it is told to use. -/
structure Leads (session : Session) (job : UploadJob) : Prop where
  inTime : job.ClosesInTime
  stops : session.canceled = true → job.Stopped
  sized : job.Sized (max session.settings.upload.window 1)

def Obeyed (session : Session) : Prop :=
  ∀ job, session.phase = .uploading job → session.Leads job

theorem Obeyed.feed (obeyed : session.Obeyed) (reply : Reply) : (session.feed reply).Obeyed := by
  intro job nextEq
  have settingsEq : (session.feed reply).settings = session.settings :=
    congrArg (fun brief => brief.2.1) (brief_feed session reply)
  have canceledEq := canceled_feed session reply
  rcases uploading_feed nextEq with ⟨before, phaseEq, rfl⟩ | ⟨target, uncanceled, rfl⟩
  · obtain ⟨inTime, stops, sized⟩ := obeyed before phaseEq
    refine ⟨inTime.feed reply, fun canceled => ?_, ?_⟩
    · exact (stops (canceledEq.symm.trans canceled)).feed reply
    · rw [settingsEq]
      exact sized.feed reply
  · refine ⟨?_, fun canceled => ?_, ?_⟩
    · apply UploadJob.closesInTime_start
      split
      · simp [Control.pause]
      · simp
    · cases uncanceled.symm.trans (canceledEq.symm.trans canceled)
    · rw [settingsEq]
      exact UploadJob.sized_start _ _ _ _ _

theorem Obeyed.signal (obeyed : session.Obeyed) (signal : Signal) :
    (session.signal signal).2.Obeyed := by
  intro job nextEq
  have signaled := signaled_signal signal session
  have settingsEq : (session.signal signal).2.settings = session.settings :=
    congrArg (fun brief => brief.2.1) signaled.briefEq
  obtain ⟨before, phaseEq, ⟨rfl, canceledEq⟩ | rfl⟩ := uploading_signal nextEq
  · obtain ⟨inTime, stops, sized⟩ := obeyed job phaseEq
    exact ⟨inTime, fun canceled => stops (canceledEq.symm.trans canceled), settingsEq ▸ sized⟩
  · obtain ⟨inTime, stops, sized⟩ := obeyed before phaseEq
    refine ⟨inTime.signal signal, fun canceled => ?_, settingsEq ▸ sized.signal signal⟩
    rcases signaled.queue with ⟨-, canceledEq⟩ | ⟨rfl, -, -⟩
    · exact (stops (canceledEq.symm.trans canceled)).signal signal
    · exact inTime.stopped_of_cancel

theorem obeyed_after (phaseEq : origin.phase = .starting) (events : List Event) :
    (machine.after events origin).Obeyed := by
  refine Machine.after_invariant Obeyed ?_ (fun reply _ obeyed => obeyed.feed reply)
    (fun signal _ obeyed => obeyed.signal signal) events
  intro job uploading
  cases phaseEq.symm.trans uploading

/-- After a cancel, accepted or not, a session takes no more tasks. -/
theorem closing_of_cancel (obeyed : session.Obeyed)
    (atEnd : session.finished = true → session.phase = .over) :
    (session.signal .cancel).2.Closing := by
  have obeyedNow := obeyed.signal .cancel
  have signaled := signaled_signal .cancel session
  cases finished : session.finished with
  | false =>
      have canceled := canceled_of_cancel finished
      exact ⟨.inl canceled, fun job phaseEq => (obeyedNow job phaseEq).stops canceled⟩
  | true =>
      have ended : (session.signal .cancel).2.phase = .over := by
        rcases signaled.phase with phaseEq | ⟨job, phaseEq, -⟩
        · exact phaseEq.trans (atEnd finished)
        · cases phaseEq.symm.trans (atEnd finished)
      exact ⟨.inr ended, fun job phaseEq => by cases ended.symm.trans phaseEq⟩

/-- What a session that is canceled now still sends. -/
structure Ceases (session : Session) : Prop where
  /-- At most what is left of the task at hand, in order. -/
  rest : ∀ events, machine.handed events (session.signal .cancel).2 <+: session.leftover
  /-- All of it, if the device and the link go along and the task is no upload. -/
  whole : (∀ job, session.phase ≠ .uploading job) →
    ∃ events, machine.handed events (session.signal .cancel).2 = session.leftover
  /-- Nothing of an upload with one request at a time, nor of one that reports its progress. -/
  upload : ∀ job, session.phase = .uploading job →
    (session.settings.upload.window ≤ 1 ∨ ∃ note, machine.need session = .tell note) →
      session.leftover = []

/-- After a cancel, at whatever moment it comes and whether it is accepted or not, a session sends what is
left of the task at hand and nothing else. -/
theorem ceases_of_start {scheme : Scheme} {mtu : Nat} {settings : UpgradeSettings}
    {images : ImageSet} {mode : UpgradeMode} {seq : UInt8}
    (started : start scheme mtu settings images mode seq = .ok origin) (events : List Event) :
    (machine.after events origin).Ceases := by
  have fresh := isFresh_of_start started
  have unfinished : origin.finished = false := by rw [eq_of_start started]
  have obeyed := obeyed_after fresh.phaseEq events
  have atEnd := over_of_finished unfinished events
  generalize machine.after events origin = session at obeyed atEnd
  refine ⟨fun events => ?_, fun other => ?_, fun job phaseEq idle => ?_⟩
  · rw [← leftover_signal .cancel session]
    exact handed_isPrefix_leftover (closing_of_cancel obeyed atEnd) events
  · rw [← leftover_signal .cancel session]
    apply exists_handed_eq_leftover
    intro job nextEq
    obtain ⟨before, phaseEq, -⟩ := uploading_signal nextEq
    exact other before phaseEq
  · simp only [leftover, phaseEq]
    apply UploadJob.filling_eq_nil (obeyed job phaseEq).sized
    refine idle.imp_right fun telling => ?_
    obtain ⟨note, needEq⟩ := telling
    simp only [machine, need, phaseEq] at needEq
    simp only [UploadJob.machine]
    cases jobNeed : job.need with
    | tell progress => exact ⟨progress, rfl⟩
    | _ => simp [jobNeed, Need.map] at needEq

/-- The owner is told that the image is to be tested. -/
def testAnnounced : Session :=
  machine.after (goingOn 5 ++ [answering .readResponse .os 0 8 (.record [("rc", .nat 8)])] ++
    goingOn 1 ++ [listing .readResponse 1 { hash := [7] }] ++ goingOn 3) oneByteStart

theorem ceases_testAnnounced :
    start .ble 65 { disconnectTimeout := 0 } ⟨[oneByteImage]⟩ .testAndConfirm 0 = .ok oneByteStart ∧
      testAnnounced.Ceases ∧ testAnnounced.leftover.length = 1 := by
  have started : start .ble 65 { disconnectTimeout := 0 } ⟨[oneByteImage]⟩ .testAndConfirm 0 =
      .ok oneByteStart := rfl
  exact ⟨started, ceases_of_start started _, by decide +kernel⟩

/-- The session asks the device to test the image although it was canceled before, and for the list of
images although it was canceled while the boot loader was being asked. -/
theorem handed_after_cancel :
    (((machine.need testAnnounced).notes .ready).map SessionNote.name = ["Test"] ∧
      (machine.signal .cancel testAnnounced).1 = true ∧
      (machine.handed (goingOn 2) (machine.signal .cancel testAnnounced).2).filterMap
        (Marking.read? .ble) = [{ hash := [7], confirm := false }]) ∧
    (machine.need (machine.after (goingOn 5) oneByteStart)).packet?.isSome = true ∧
      (machine.signal .cancel (machine.after (goingOn 5) oneByteStart)).1 = true ∧
      (machine.handed (answering .readResponse .os 0 8 (.record [("rc", .nat 8)]) :: goingOn 1)
        (machine.signal .cancel (machine.after (goingOn 5) oneByteStart)).2).length = 1 := by
  decide +kernel

end Session

end SmpClient
