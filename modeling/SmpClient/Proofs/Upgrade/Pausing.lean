import SmpClient.Proofs.Upgrade.Calls
import SmpClient.Proofs.Upgrade.PlanOrder

/-!
# Pauses

A session and the upload that is going on each remember whether they are paused, under different locks.
They agree whenever the session is not locked, whatever its thread and its owner do in whatever order.
-/

namespace SmpClient

namespace Control

/-- Whether a transfer that is not closed is paused just when it is to be. -/
def Obeys (paused : Bool) (control : Control) : Prop :=
  control.phase ≠ .closed → (control.phase = .paused ↔ paused = true)

theorem Obeys.steered {paused : Bool} {before after : Control} {complete : Prop}
    (obeys : before.Obeys paused) (steered : Steered before complete after) : after.Obeys paused := by
  cases steered with
  | kept => exact obeys
  | started startEq =>
      unfold Control.start at startEq
      split at startEq
      · rename_i idle
        cases startEq
        intro unclosed
        simpa [Obeys, idle] using obeys
      · cases startEq
        exact obeys
      · cases startEq
        exact obeys
      · split at startEq <;> cases startEq
  | closed done => exact fun unclosed => absurd rfl unclosed

theorem obeys_pause (control : Control) : (control.signal .pause).2.Obeys true := by
  intro unclosed
  simp only [signal, pause] at unclosed ⊢
  cases phaseEq : control.phase <;> simp [phaseEq] at unclosed ⊢

theorem obeys_resume (control : Control) : (control.signal .resume).2.Obeys false := by
  intro unclosed
  simp only [signal, resume] at unclosed ⊢
  cases phaseEq : control.phase <;> simp [phaseEq] at unclosed ⊢

theorem obeys_cancel (paused : Bool) (control : Control) :
    (control.signal .cancel).2.Obeys paused := by
  intro unclosed
  simp only [signal, cancel] at unclosed
  cases phaseEq : control.phase <;> simp [phaseEq] at unclosed

end Control

/-! ## Uploads that wait -/

theorem UploadEngine.paused_of_wake {engine : UploadEngine} (needEq : engine.need = .wake) :
    engine.control.phase = .paused := by
  cases engine with
  | single run =>
      simp only [need, Stepwise.need] at needEq
      split at needEq
      · cases needEq
      · rename_i phaseEq
        split at needEq
        · rename_i blocked
          simp only [Stepwise.isBlocked, phaseEq, Bool.and_eq_true] at blocked
          exact of_decide_eq_true blocked.2
        · cases needEq
      · cases needEq
      · cases needEq
      · cases needEq
  | windowed window =>
      simp only [need, Window.need] at needEq
      split at needEq
      any_goals cases needEq
      split at needEq
      · rename_i paused
        exact of_decide_eq_true paused
      · cases needEq

theorem UploadJob.paused_of_wake {job : UploadJob} (needEq : machine.need job = .wake) :
    job.control.phase = .paused := by
  rw [need_of_retryMtu? (retryMtu?_eq_none needEq (by simp))] at needEq
  exact UploadEngine.paused_of_wake needEq

/-! ## What a queue keeps -/

namespace TaskQueue

theorem sublist_insert (task : Task) (tasks : List Task) : tasks.Sublist (insert task tasks) := by
  induction tasks with
  | nil => exact List.nil_sublist _
  | cons first rest ih =>
      rw [insert]
      split
      · exact List.sublist_cons_self _ _
      · exact ih.cons_cons first

theorem sublist_pushAll (found : List Task) (queue : TaskQueue) :
    queue.tasks.Sublist (queue.pushAll found).tasks := by
  induction found generalizing queue with
  | nil => exact List.Sublist.refl _
  | cons task found ih => exact (sublist_insert task queue.tasks).trans (ih (queue.push task))

end TaskQueue

namespace Session

variable {origin session : Session}

/-! ## Uploads in step with their session -/

/-- Whether an upload that is going on is paused just when its session is. -/
def InStep (session : Session) : Prop :=
  ∀ job, session.phase = .uploading job → job.control.Obeys session.paused

theorem InStep.feed (inStep : session.InStep) (reply : Reply) : (session.feed reply).InStep := by
  intro job nextEq
  rw [paused_feed]
  rcases uploading_feed nextEq with ⟨before, phaseEq, rfl⟩ | ⟨target, -, rfl⟩
  · exact (inStep before phaseEq).steered (UploadJob.steered_feed reply before)
  · rw [uploadJob, UploadJob.control_start]
    cases paused : session.paused with
    | false => simp [Control.Obeys]
    | true => simp [Control.Obeys, Control.pause]

/-- A call that marks a session and reaches its upload leaves the two in step, as they were or not. -/
theorem inStep_reach {call : Call} (accepts : (session.mark call).1 = true) :
    ((session.mark call).2.signalUpload call.signal).InStep := by
  intro job nextEq
  have pausedEq : ((session.mark call).2.signalUpload call.signal).paused =
      (session.mark call).2.paused := by
    simp only [signalUpload]
    split <;> rfl
  rw [pausedEq]
  simp only [signalUpload] at nextEq
  split at nextEq
  · rename_i before phaseEq
    obtain rfl := Phase.uploading.inj nextEq
    have controlEq : (before.signal call.signal).2.control =
        (before.control.signal call.signal).2 := (UploadJob.cancelable.signaled _ _).2
    rw [controlEq]
    have taken := Marks.taken_of_take accepts
    simp only [mark, withMarks]
    generalize (session.marks.take call).2 = marks at taken ⊢
    cases taken with
    | paused => exact before.control.obeys_pause
    | resumed => exact before.control.obeys_resume
    | canceled => exact before.control.obeys_cancel _
  · rename_i other
    exact absurd nextEq (other job)

theorem InStep.signal (inStep : session.InStep) (signal : Signal) :
    (session.signal signal).2.InStep := by
  have called (call : Call) : (session.signal call.signal).2.InStep := by
    rw [signal_call]
    split
    · rename_i accepts
      exact inStep_reach accepts
    · exact inStep
  cases signal with
  | pause => exact called .pause
  | resume => exact called .resume
  | cancel => exact called .cancel
  | dropped => exact inStep

theorem inStep_after (phaseEq : origin.phase = .starting) (events : List Event) :
    (machine.after events origin).InStep := by
  refine Machine.after_invariant InStep ?_ (fun reply _ inStep => inStep.feed reply)
    (fun signal _ inStep => inStep.signal signal) events
  intro job uploading
  cases phaseEq.symm.trans uploading

theorem InStep.paused_of_wake (inStep : session.InStep) (needEq : machine.need session = .wake) :
    session.paused = true := by
  simp only [machine, need] at needEq
  split at needEq
  any_goals cases needEq
  · split at needEq
    · rename_i paused
      exact (Bool.and_eq_true_iff.mp paused).1
    · cases needEq
  · rename_i job phaseEq
    have waits : UploadJob.machine.need job = .wake := by
      simp only [UploadJob.machine]
      cases jobNeed : job.need with
      | wake => rfl
      | _ => simp [jobNeed, Need.map] at needEq
    have pausedEq := UploadJob.paused_of_wake waits
    exact (inStep job phaseEq (by simp [pausedEq])).mp pausedEq
  · split at needEq <;> cases needEq
  · split at needEq <;> cases needEq

/-! ## Tasks that wait -/

/-- Whether no task was taken from one state of a session to the next.  A session that ends clears its
queue, and so does a cancel. -/
structure Withheld (session next : Session) : Prop where
  taken : next.phase.taken <:+ session.phase.taken
  queue : session.queue.tasks.Sublist next.queue.tasks ∨
    next.queue.tasks = [] ∧ (next.HasFailed ∨ next.canceled = true)

theorem Withheld.of_eq {next : Session} (takenEq : next.phase.taken = session.phase.taken)
    (queueEq : next.queue = session.queue) : session.Withheld next :=
  ⟨takenEq ▸ List.suffix_refl _, .inl (queueEq ▸ List.Sublist.refl _)⟩

theorem withheld_conclude (result : Except Error (List Task)) (session : Session) :
    session.Withheld (session.conclude result) := by
  cases result with
  | ok found =>
      simp only [conclude]
      split
      · exact ⟨List.nil_suffix, .inl (List.Sublist.refl _)⟩
      · exact ⟨List.nil_suffix, .inl (TaskQueue.sublist_pushAll found session.queue)⟩
  | error failure =>
      simp only [conclude]
      split
      · exact ⟨List.nil_suffix, .inl (List.Sublist.refl _)⟩
      · split
        · exact ⟨List.nil_suffix, .inl (List.Sublist.refl _)⟩
        · exact ⟨List.nil_suffix, .inr ⟨rfl, .inl (by simp [HasFailed])⟩⟩

theorem withheld_feed (paused : session.paused = true) (uncanceled : session.canceled = false)
    (reply : Reply) : session.Withheld (session.feed reply) := by
  by_cases choosing : session.phase = .choosing
  · -- The one phase that takes tasks does not go on.
    have same : session.feed reply = session := by
      cases reply <;> simp [feed, choose, choosing, paused, uncanceled]
    rw [same]
    exact .of_eq rfl rfl
  have turn := turn_feed session reply
  generalize nextEq : session.feed reply = next at turn
  generalize session.notices reply = seen at turn
  cases turn with
  | stayed => exact .of_eq rfl rfl
  | took phaseEq | emptied phaseEq => exact absurd phaseEq choosing
  | opened phaseEq => exact .of_eq (by simp [Phase.taken, phaseEq]) rfl
  | entered phaseEq nextPhase =>
      rcases nextPhase with ⟨-, rfl⟩ | ⟨-, rfl⟩
      · exact .of_eq (by simp [Phase.taken, phaseEq]) rfl
      · exact .of_eq (by simp [Phase.taken, phaseEq]) rfl
  | announced phaseEq => exact .of_eq (by simp [Phase.taken, phaseEq]) rfl
  | @began task phaseEq =>
      have serves : (session.perform task).phase.Serves session {} task := serves_perform rfl task
      have queueEq : (session.perform task).queue = session.queue :=
        congrArg (fun frame => frame.2.1) (frame_perform task session)
      refine ⟨?_, .inl (queueEq ▸ List.Sublist.refl _)⟩
      rw [taken_of_serves serves]
      exact List.nil_suffix
  | worked working =>
      obtain ⟨task, serves⟩ := exists_serves working session {}
      have queueEq : (session.feed reply).queue = session.queue :=
        congrArg (fun frame => frame.2.1) (frame_feed_of_working working reply)
      refine ⟨?_, .inl (queueEq ▸ List.Sublist.refl _)⟩
      rw [taken_of_serves (serves_feed rfl working serves reply)]
      exact List.nil_suffix
  | returned phaseEq => exact withheld_conclude _ session
  | concluded phaseEq => exact ⟨List.nil_suffix, .inl (List.Sublist.refl _)⟩
  | reported phaseEq => exact ⟨List.nil_suffix, .inr ⟨rfl, .inl trivial⟩⟩

namespace Shared

variable {shared : Shared}

theorem withheld_step (paused : shared.session.paused = true)
    (uncanceled : shared.session.canceled = false) (act : Act) :
    shared.session.Withheld (shared.step act).session := by
  cases act with
  | reply reply =>
      simp only [step]
      split
      · exact .of_eq rfl rfl
      · exact withheld_feed paused uncanceled reply
  | drop => exact .of_eq rfl rfl
  | call call =>
      rcases step_call call shared with same | ⟨marks, taken, stepEq⟩
      · rw [same]
        exact .of_eq rfl rfl
      · rw [stepEq]
        cases taken with
        | paused | resumed => exact .of_eq rfl rfl
        | canceled => exact ⟨List.suffix_refl _, .inr ⟨rfl, .inr rfl⟩⟩
  | reach =>
      simp only [step]
      split
      · simp only [signalUpload]
        split
        · rename_i job phaseEq
          exact .of_eq (by simp [Phase.taken, phaseEq]) rfl
        · exact .of_eq rfl rfl
      · exact .of_eq rfl rfl

/-- What the owner has asked for last: a pause, or to go on. -/
def lastAsked? (shared : Shared) : Option Call :=
  (shared.accepted.filter (· ≠ .cancel)).getLast?

theorem paused_iff_step (asked : shared.session.paused = true ↔ shared.lastAsked? = some .pause)
    (act : Act) :
    (shared.step act).session.paused = true ↔ (shared.step act).lastAsked? = some .pause := by
  cases act with
  | reply reply =>
      simp only [step]
      split
      · exact asked
      · simp only [paused_feed]
        exact asked
  | drop => exact asked
  | call call =>
      rcases step_call call shared with same | ⟨marks, taken, stepEq⟩
      · rw [same]
        exact asked
      · rw [stepEq]
        cases taken with
        | paused | resumed => simp [lastAsked?, withMarks]
        | canceled => simpa [lastAsked?, withMarks, Session.marks] using asked
  | reach =>
      simp only [step]
      split
      · simp only [signalUpload]
        split <;> exact asked
      · exact asked

theorem paused_iff_after (unpaused : origin.paused = false) (acts : List Act) :
    (after acts origin).session.paused = true ↔ (after acts origin).lastAsked? = some .pause := by
  induction acts using List.reverseRecOn with
  | nil => simp [after, lastAsked?, unpaused]
  | append_singleton acts act ih =>
      rw [after_concat]
      exact paused_iff_step ih act

end Shared

/-- What a shared session makes of pauses. -/
structure Paces (shared : Shared) : Prop where
  /-- Whenever nobody has locked the session, an upload that is not closed is paused just when the
  session is. -/
  inStep : shared.calling = none → shared.session.InStep
  /-- The session waits for its owner only while it is paused. -/
  awake : shared.calling = none → machine.need shared.session = .wake → shared.session.paused = true
  /-- It is paused just when its owner has asked for that last. -/
  asked : shared.session.paused = true ↔ shared.lastAsked? = some .pause
  /-- While it is paused and not canceled, nothing that a thread does takes a task from the queue. -/
  withheld : shared.session.paused = true → shared.session.canceled = false →
    ∀ act, shared.session.Withheld (shared.step act).session

/-- Pauses are kept and resumes are heard in every order in which the thread of a session and its owner
can go on, also between the two halves of a call. -/
theorem paces_of_start {scheme : Scheme} {mtu : Nat} {settings : UpgradeSettings}
    {images : ImageSet} {mode : UpgradeMode} {seq : UInt8}
    (started : start scheme mtu settings images mode seq = .ok origin) (acts : List Act) :
    Paces (Shared.after acts origin) := by
  have fresh := isFresh_of_start started
  have unpaused : origin.paused = false := by rw [eq_of_start started]
  obtain ⟨events, simulates⟩ := exists_simulates acts origin
  have asked := Shared.paused_iff_after unpaused acts
  have inStep : (Shared.after acts origin).calling = none →
      (Shared.after acts origin).session.InStep := by
    intro unlocked
    -- An unlocked session is the one to which every call was made at one moment.
    have inStep := inStep_after fresh.phaseEq events
    generalize Shared.after acts origin = shared, machine.after events origin = session at *
    cases simulates with
    | idle session accepted => exact inStep
    | calling call accepted accepts => cases unlocked
  exact ⟨inStep, fun unlocked needEq => (inStep unlocked).paused_of_wake needEq, asked,
    fun paused uncanceled act => Shared.withheld_step paused uncanceled act⟩

def letting (count : Nat) : List Act :=
  List.replicate count (.reply .ready)

/-- The first attempt at an upload is refused for its length.  The upload starts over between the two
halves of a pause. -/
def pausedBetween : List Act :=
  letting 5 ++ [.reply (.answer (.error (.device 8 none)))] ++ letting 1 ++
    [.reply (.answer do
      Response.decode .ble
        (← Packet.build .ble .readResponse 0 Group.image.number 1 0
          (ImageState.toValue { images := [] })) .generic)] ++
    letting 5 ++ letting 2 ++ [.reply (.answer (.error (.insufficientMtu 65 64))), .call .pause] ++
    letting 1 ++ [.reach] ++ letting 3

theorem paces_pausedBetween :
    start .ble 65 { disconnectTimeout := 0 } ⟨[oneByteImage]⟩ .testAndConfirm 0 = .ok oneByteStart ∧
      Paces (Shared.after pausedBetween oneByteStart) ∧
      (match (Shared.after pausedBetween oneByteStart).session.phase with
        | .uploading job => job.retried && job.control.isPaused
        | _ => false) = true := by
  have started : start .ble 65 { disconnectTimeout := 0 } ⟨[oneByteImage]⟩ .testAndConfirm 0 =
      .ok oneByteStart := rfl
  exact ⟨started, paces_of_start started _, by decide +kernel⟩

end Session

end SmpClient
