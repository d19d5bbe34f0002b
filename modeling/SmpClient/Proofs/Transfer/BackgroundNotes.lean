import SmpClient.Proofs.Machine.Logged
import SmpClient.Proofs.Transfer.Cancellation

/-!
# What a background transfer reports

A background transfer makes exactly one last note.  It says that the transfer was canceled if and only
if a cancel was accepted and reached a point where the transfer could still be stopped.  A cancel that
is accepted later than that is not reported.
-/

namespace SmpClient

/-- Whether a note says how the transfer ended. -/
def BackgroundNote.isLast {α : Type} : BackgroundNote α → Bool
  | .progress _ => false
  | .completed _ | .failed _ | .canceled => true

namespace Background

variable {σ α : Type}

theorem isLast_lastNote (result : Except Error α) : (lastNote result).isLast = true := by
  cases result with
  | ok value => rfl
  | error failure => cases failure <;> rfl

theorem lastNote_eq_canceled_iff {result : Except Error α} :
    lastNote result = .canceled ↔ result = .error .aborted := by
  cases result with
  | ok value => simp [lastNote]
  | error failure => cases failure <;> simp [lastNote]

/-- The log of a background transfer. -/
abbrev Log (σ α : Type) := Logged (Background σ α) (BackgroundNote α)

/-- The last notes that were made. -/
def lastNotes (log : Log σ α) : List (BackgroundNote α) :=
  log.told.filter BackgroundNote.isLast

/-- A background transfer makes one last note when it is over.  The note is that it was canceled if
and only if at some moment a cancel had been accepted and the job was `stoppable`. -/
def ReportsCancels (inner : Machine σ Progress (Except Error α)) (close : σ → σ)
    (stoppable : σ → Bool) (job : σ) : Prop :=
  ∀ (δ χ : Type) (conduct : Conduct δ χ) (device : δ) (schedule : List (Network.Move χ)),
    (∀ choice packet device answer, conduct choice packet device = some answer →
      Unaborted answer.1) →
    let start : Network (Log σ α) δ := { state := { state := .running job }, device }
    let log := fun moves => (start.run (machine inner close).logged conduct moves).state
    ((machine inner close).need (log schedule).state ≠ .finished () ∧
        lastNotes (log schedule) = []) ∨
      ((machine inner close).need (log schedule).state = .finished () ∧
        ∃ note, lastNotes (log schedule) = [note] ∧
          (note = .canceled ↔ ∃ before after, schedule = before ++ after ∧
            .cancel ∈ (log before).accepted ∧ stoppable (log before).state.job = true))

variable {inner : Machine σ Progress (Except Error α)} {close : σ → σ} {control : σ → Control}
  {stoppable : σ → Bool} {log : Log σ α}

/-- While its job goes on a background transfer tells of nothing but progress. -/
theorem filter_notes_running (inner : Machine σ Progress (Except Error α)) (job : σ)
    (reply : Reply) : ((need inner (.running job)).notes reply).filter BackgroundNote.isLast = [] := by
  simp only [need]
  cases inner.need job <;> cases reply <;> rfl

theorem follows_feed (cancelable : Cancelable inner close control stoppable) (reply : Reply)
    (background : Background σ α) :
    (control background.job).Follows (control (feed inner close reply background).job) := by
  cases background with
  | running job =>
      have goesOn := cancelable.follows reply job
      simp only [feed]
      cases inner.need job with
      | finished result =>
          simp only [Background.job, closing.eq_def]
          split
          · rw [cancelable.closed]
            exact .close _
          · exact .refl _
      | _ => exact goesOn
  | reporting job note => cases reply <;> exact .refl _
  | «over» job => exact .refl _

/-- A cancel is in force from the moment that it is accepted, and nothing else is taken for one. -/
structure Minded (control : σ → Control) (log : Log σ α) : Prop where
  inForce : .cancel ∈ log.accepted → (control log.state.job).isAborted = true
  accepted : (control log.state.job).canceled = true → .cancel ∈ log.accepted

theorem Minded.feed (cancelable : Cancelable inner close control stoppable)
    (minded : Minded control log) (reply : Reply) :
    Minded control ((machine inner close).logged.feed reply log) := by
  have follows := follows_feed cancelable reply log.state
  refine ⟨fun member => follows.isAborted (minded.inForce member), fun canceled => ?_⟩
  exact minded.accepted (follows.canceled_eq.symm.trans canceled)

theorem job_signal (inner : Machine σ Progress (Except Error α)) (signal : Signal)
    (background : Background σ α) :
    (Background.signal inner signal background).1 = (inner.signal signal background.job).1 ∧
      (Background.signal inner signal background).2.job =
        (inner.signal signal background.job).2 := by
  cases background <;> exact ⟨rfl, rfl⟩

theorem Minded.signal (cancelable : Cancelable inner close control stoppable)
    (minded : Minded control log) (signal : Signal) :
    Minded control ((machine inner close).logged.signal signal log).2 := by
  obtain ⟨acceptedEq, jobEq⟩ := job_signal inner signal log.state
  obtain ⟨sameAccepted, sameControl⟩ := cancelable.signaled signal log.state.job
  have acceptedAfter : ((machine inner close).logged.signal signal log).2.accepted =
      log.accepted ++ if ((control log.state.job).signal signal).1 then [signal] else [] := by
    rw [← sameAccepted, ← acceptedEq]
    rfl
  have controlAfter : control ((machine inner close).logged.signal signal log).2.state.job =
      ((control log.state.job).signal signal).2 := by
    rw [← sameControl, ← jobEq]
    rfl
  rcases (control log.state.job).signal_cases signal with
    ⟨rfl, accepted, aborted⟩ | ⟨other, follows⟩
  · refine ⟨fun _ => controlAfter ▸ aborted, fun _ => ?_⟩
    rw [acceptedAfter, accepted]
    simp
  · have sameCancels : .cancel ∈ ((machine inner close).logged.signal signal log).2.accepted ↔
        .cancel ∈ log.accepted := by
      rw [acceptedAfter]
      split
      · rename_i accepted
        have noCancel : .cancel ≠ signal := fun isCancel => other ⟨isCancel.symm, accepted⟩
        simp [noCancel]
      · simp
    refine ⟨fun member => ?_, fun canceled => ?_⟩
    · rw [controlAfter]
      exact follows.isAborted (minded.inForce (sameCancels.mp member))
    · rw [controlAfter, follows.canceled_eq] at canceled
      exact sameCancels.mpr (minded.accepted canceled)

/-! ## One last note -/

/-- A note says that a job was canceled if and only if a cancel stopped it. -/
structure Warranted (control : σ → Control) (stoppable : σ → Bool) (job : σ)
    (note : BackgroundNote α) : Prop where
  canceled_iff : note = .canceled ↔ stoppable job = true
  canceled : note = .canceled → (control job).canceled = true

theorem warranted_closing (cancelable : Cancelable inner close control stoppable) {job : σ}
    (explained : inner.need job = .finished (.error .aborted) → (control job).canceled = true)
    {result : Except Error α} (needEq : inner.need job = .finished result) :
    Warranted control stoppable (closing close job (lastNote result)) (lastNote result) := by
  have stoppableEq : stoppable (closing close job (lastNote result)) = stoppable job := by
    rw [closing.eq_def]
    split
    · exact cancelable.stoppable_close job
    · rfl
  have canceledEq : (control (closing close job (lastNote result))).canceled =
      (control job).canceled := by
    rw [closing.eq_def]
    split
    · rw [cancelable.closed]
      rfl
    · rfl
  refine ⟨?_, fun isCanceled => ?_⟩
  · rw [stoppableEq, lastNote_eq_canceled_iff]
    exact (cancelable.ended job result needEq).symm
  · rw [canceledEq]
    rw [lastNote_eq_canceled_iff] at isCanceled
    exact explained (isCanceled ▸ needEq)

theorem Warranted.signal (cancelable : Cancelable inner close control stoppable) {job : σ}
    {note : BackgroundNote α} (warranted : Warranted control stoppable job note)
    (signal : Signal) : Warranted control stoppable (inner.signal signal job).2 note := by
  refine ⟨?_, fun isCanceled => ?_⟩
  · rw [cancelable.stoppable_signal]
    exact warranted.canceled_iff
  · exact cancelable.canceled_signal (warranted.canceled isCanceled) signal

/-- What last notes there are when a background transfer has got so far. -/
def Told (inner : Machine σ Progress (Except Error α)) (control : σ → Control)
    (stoppable : σ → Bool) (notes : List (BackgroundNote α)) : Background σ α → Prop
  | .running job => notes = [] ∧
      (inner.need job = .finished (.error .aborted) → (control job).canceled = true)
  | .reporting job note => notes = [] ∧ note.isLast = true ∧ Warranted control stoppable job note
  | .over job => ∃ note, notes = [note] ∧ Warranted control stoppable job note

theorem Told.feed (cancelable : Cancelable inner close control stoppable)
    (told : Told inner control stoppable (lastNotes log) log.state) {reply : Reply}
    (unaborted : ∀ outcome ∈ reply.outcome?, Unaborted outcome) :
    Told inner control stoppable (lastNotes ((machine inner close).logged.feed reply log))
      ((machine inner close).logged.feed reply log).state := by
  obtain ⟨state, notes, accepted⟩ := log
  cases state with
  | running job =>
      obtain ⟨noneYet, explained⟩ := told
      have stillNone : lastNotes ((machine inner close).logged.feed reply
          ⟨.running job, notes, accepted⟩) = [] := by
        rw [lastNotes] at noneYet ⊢
        simp only [Machine.logged, machine, List.filter_append, filter_notes_running, noneYet,
          List.append_nil]
      rw [stillNone]
      simp only [Machine.logged, machine, Background.feed]
      cases needEq : inner.need job with
      | finished result =>
          exact ⟨rfl, isLast_lastNote result, warranted_closing cancelable explained needEq⟩
      | _ =>
          refine ⟨rfl, fun ended => ?_⟩
          rw [(cancelable.follows reply job).canceled_eq]
          rcases cancelable.explained reply job unaborted ended with before | canceled
          · exact explained before
          · exact canceled
  | reporting job note =>
      obtain ⟨noneYet, isLast, warranted⟩ := told
      rw [lastNotes] at noneYet
      cases reply with
      | ready =>
          refine ⟨note, ?_, warranted⟩
          simp [lastNotes, Machine.logged, machine, need, Need.notes, noneYet, isLast]
      | _ =>
          refine ⟨?_, isLast, warranted⟩
          simpa [lastNotes, Machine.logged, machine, need, Need.notes] using noneYet
  | «over» job =>
      obtain ⟨note, one, warranted⟩ := told
      refine ⟨note, ?_, warranted⟩
      simpa [lastNotes, Machine.logged, machine, need, Need.notes] using one

theorem Told.signal (cancelable : Cancelable inner close control stoppable)
    (told : Told inner control stoppable (lastNotes log) log.state) (signal : Signal) :
    Told inner control stoppable (lastNotes ((machine inner close).logged.signal signal log).2)
      ((machine inner close).logged.signal signal log).2.state := by
  obtain ⟨state, notes, accepted⟩ := log
  cases state with
  | running job =>
      obtain ⟨noneYet, explained⟩ := told
      refine ⟨noneYet, fun ended => ?_⟩
      have canceled := explained (cancelable.finished_signal signal job _ ended)
      exact cancelable.canceled_signal canceled signal
  | reporting job note =>
      obtain ⟨noneYet, isLast, warranted⟩ := told
      exact ⟨noneYet, isLast, warranted.signal cancelable signal⟩
  | «over» job =>
      obtain ⟨note, one, warranted⟩ := told
      exact ⟨note, one, warranted.signal cancelable signal⟩

/-! ## A cancel that stops a job -/

/-- A background transfer that will be reported as canceled, or has been. -/
def Stopping (stoppable : σ → Bool) (notes : List (BackgroundNote α)) : Background σ α → Prop
  | .running job => stoppable job = true
  | .reporting _ note => note = .canceled
  | .over _ => .canceled ∈ notes

theorem Stopping.feed (cancelable : Cancelable inner close control stoppable)
    (inForce : (control log.state.job).isAborted = true)
    (stopping : Stopping stoppable (lastNotes log) log.state) (reply : Reply) :
    Stopping stoppable (lastNotes ((machine inner close).logged.feed reply log))
      ((machine inner close).logged.feed reply log).state := by
  obtain ⟨state, notes, accepted⟩ := log
  cases state with
  | running job =>
      have stops : stoppable job = true := stopping
      simp only [Machine.logged, machine, Background.feed]
      cases needEq : inner.need job with
      | finished result =>
          have aborted := (cancelable.ended job result needEq).mp stops
          exact lastNote_eq_canceled_iff.mpr aborted
      | _ => exact cancelable.stops reply job inForce stops
  | reporting job note =>
      obtain rfl : note = .canceled := stopping
      cases reply with
      | ready =>
          simp [Stopping, lastNotes, Machine.logged, machine, need, Need.notes, Background.feed,
            BackgroundNote.isLast]
      | _ => exact rfl
  | «over» job =>
      have told : .canceled ∈ lastNotes ⟨.over job, notes, accepted⟩ := stopping
      simpa [Stopping, lastNotes, Machine.logged, machine, need, Need.notes, Background.feed]
        using told

theorem Stopping.signal (cancelable : Cancelable inner close control stoppable)
    (stopping : Stopping stoppable (lastNotes log) log.state) (signal : Signal) :
    Stopping stoppable (lastNotes ((machine inner close).logged.signal signal log).2)
      ((machine inner close).logged.signal signal log).2.state := by
  obtain ⟨state, notes, accepted⟩ := log
  cases state with
  | running job => exact (cancelable.stoppable_signal signal job).trans stopping
  | reporting job note => exact stopping
  | «over» job => exact stopping

theorem Told.stopping {notes : List (BackgroundNote α)} {background : Background σ α}
    (told : Told inner control stoppable notes background)
    (stops : stoppable background.job = true) : Stopping stoppable notes background := by
  cases background with
  | running job => exact stops
  | reporting job note => exact told.2.2.canceled_iff.mpr stops
  | «over» job =>
      obtain ⟨note, one, warranted⟩ := told
      obtain rfl := warranted.canceled_iff.mpr stops
      simp [Stopping, one]

/-! ## Whole runs -/

theorem reportsCancels_of_cancelable (cancelable : Cancelable inner close control stoppable)
    {job : σ} (uncanceled : (control job).canceled = false)
    (fresh : inner.need job ≠ .finished (.error .aborted)) :
    ReportsCancels inner close stoppable job := by
  intro δ χ conduct device schedule unaborted start log
  have minded (moves : List (Network.Move χ)) : Minded control (log moves) := by
    refine Network.run_state_invariant (Minded control) ⟨by simp [start], ?_⟩
      (fun reply _ minded => minded.feed cancelable reply)
      (fun signal _ minded => minded.signal cancelable signal) moves
    intro canceled
    exact absurd (canceled.symm.trans uncanceled) (by simp)
  have told (moves : List (Network.Move χ)) :
      Told inner control stoppable (lastNotes (log moves)) (log moves).state := by
    refine Network.run_state_invariant_of_outcomes
      (fun log => Told inner control stoppable (lastNotes log) log.state) ?_ Unaborted
      (by simp [start]) unaborted (fun reply _ heard told => told.feed cancelable heard)
      (fun signal _ told => told.signal cancelable signal) moves
    exact ⟨rfl, fun ended => absurd ended fresh⟩
  -- Once the job can be stopped and a cancel is in force, both stay so for the rest of the run.
  have stopping {before after : List (Network.Move χ)} (scheduleEq : schedule = before ++ after)
      (accepted : .cancel ∈ (log before).accepted)
      (stops : stoppable (log before).state.job = true) :
      Stopping stoppable (lastNotes (log schedule)) (log schedule).state := by
    have continued := Network.run_append (machine inner close).logged conduct before after start
    rw [← scheduleEq] at continued
    simp only [log, continued]
    refine (Network.run_state_invariant
      (fun log => Minded control log ∧ .cancel ∈ log.accepted ∧
        Stopping stoppable (lastNotes log) log.state)
      ⟨minded before, accepted, (told before).stopping stops⟩ ?_ ?_ after).2.2
    · rintro reply log ⟨minded, accepted, stopping⟩
      exact ⟨minded.feed cancelable reply, accepted,
        stopping.feed cancelable (minded.inForce accepted) reply⟩
    · rintro signal log ⟨minded, accepted, stopping⟩
      exact ⟨minded.signal cancelable signal, List.mem_append_left _ accepted,
        stopping.signal cancelable signal⟩
  have here := told schedule
  cases stateEq : (log schedule).state with
  | running job =>
      rw [stateEq] at here
      refine .inl ⟨?_, here.1⟩
      simp only [machine, need]
      cases inner.need job <;> simp [Need.map]
  | reporting job note =>
      rw [stateEq] at here
      exact .inl ⟨by simp [machine, need], here.1⟩
  | «over» job =>
      rw [stateEq] at here
      obtain ⟨note, one, warranted⟩ := here
      refine .inr ⟨rfl, note, one, ?_⟩
      constructor
      · intro isCanceled
        have jobEq : (log schedule).state.job = job := by rw [stateEq, Background.job]
        refine ⟨schedule, [], by simp, (minded schedule).accepted ?_, ?_⟩
        · rw [jobEq]
          exact warranted.canceled isCanceled
        · rw [jobEq]
          exact warranted.canceled_iff.mp isCanceled
      · rintro ⟨before, after, scheduleEq, accepted, stops⟩
        have told := stopping scheduleEq accepted stops
        rw [stateEq] at told
        have member : .canceled ∈ lastNotes (log schedule) := told
        rw [one, List.mem_singleton] at member
        exact member.symm

/-- Uploads in the background, whatever their window, and downloads report a cancel if it was
accepted where they could still be stopped, and only then. -/
theorem reportsCancels (upload : Upload) (window attempt : Nat) (scheme : Scheme) (path : String)
    (seq : UInt8) :
    ReportsCancels UploadJob.machine UploadJob.close UploadJob.stoppable
        (.start upload window attempt seq {}) ∧
      ReportsCancels DownloadJob.machine DownloadJob.close DownloadJob.stoppable
        (.start scheme path seq {}) := by
  constructor
  · have uncanceled : (UploadJob.start upload window attempt seq {}).control.canceled = false := by
      rw [UploadJob.start, UploadJob.control]
      split
      · rfl
      · rw [UploadEngine.control_start]
    have fresh : UploadJob.machine.need (.start upload window attempt seq {}) ≠
        .finished (.error .aborted) := by
      intro ended
      have retryEq := UploadJob.retryMtu?_eq_none ended (by simp)
      rw [UploadJob.need_of_retryMtu? retryEq, UploadJob.start] at ended
      split at ended
      · cases ended
      · rw [UploadEngine.need_start] at ended
        cases ended
    exact reportsCancels_of_cancelable UploadJob.cancelable uncanceled fresh
  · have fresh : DownloadJob.machine.need (.start scheme path seq {}) ≠
        .finished (.error .aborted) := by
      intro ended
      cases ended
    exact reportsCancels_of_cancelable DownloadJob.cancelable rfl fresh

/-- The conduct of a device that acknowledges the request with a sequence number by an offset. -/
def acknowledging : Conduct Unit (UInt8 × Nat) := fun (seq, offset) _ _ =>
  match Storage.acknowledgement seq offset with
  | .ok response => some (.ok response, ())
  | .error _ => none

theorem unaborted_of_acknowledging (choice : UInt8 × Nat) (packet : Bytes) (device : Unit)
    (answer : Except Error Response × Unit)
    (conducted : acknowledging choice packet device = some answer) : Unaborted answer.1 := by
  simp only [acknowledging] at conducted
  split at conducted
  · cases conducted
    exact unaborted_ok _
  · cases conducted

/-- What comes of the upload of three bytes with a window of two and packets of some length. -/
def threeBytesLog (mtu : Nat) (schedule : List (Network.Move (UInt8 × Nat))) :
    Log UploadJob Unit :=
  let start : Network (Log UploadJob Unit) Unit :=
    { state := { state := .running (.start { Storage.threeBytes with mtu } 2 0 0 {}) }
      device := () }
  (start.run (machine UploadJob.machine UploadJob.close).logged acknowledging schedule).state

/-- The upload is canceled when the first of its two chunks is acknowledged. -/
def canceledBetween : List (Network.Move (UInt8 × Nat)) :=
  List.flatten
    [List.replicate 6 .advance, [.process 0 (1, 2), .advance, .collect 0, .signal .cancel],
      List.replicate 4 .advance]

theorem reportsCancels_canceledBetween :
    (.cancel ∈ (threeBytesLog 65 canceledBetween).accepted ∧
      ∀ choice packet device answer, acknowledging choice packet device = some answer →
        Unaborted answer.1) ∧
    let log := threeBytesLog 65
    let need := (machine UploadJob.machine UploadJob.close).need (log canceledBetween).state
    (need ≠ .finished () ∧ lastNotes (log canceledBetween) = []) ∨
      (need = .finished () ∧
        ∃ note, lastNotes (log canceledBetween) = [note] ∧
          (note = .canceled ↔ ∃ before after, canceledBetween = before ++ after ∧
            .cancel ∈ (log before).accepted ∧
              UploadJob.stoppable (log before).state.job = true)) := by
  refine ⟨⟨by decide +kernel, unaborted_of_acknowledging⟩, ?_⟩
  exact (reportsCancels { Storage.threeBytes with mtu := 65 } 2 0 .ble "file" 0).1 Unit
    (UInt8 × Nat) acknowledging () canceledBetween unaborted_of_acknowledging

instance [DecidableEq α] (note : BackgroundNote α) (result : α) :
    Decidable (note = .completed result) :=
  match note with
  | .completed found => decidable_of_iff (found = result) (by simp)
  | .progress _ | .failed _ | .canceled => isFalse (by simp)

/-- The upload is canceled while its only request is being answered. -/
def canceledAtLast : List (Network.Move (UInt8 × Nat)) :=
  List.flatten
    [List.replicate 4 .advance, [.signal .cancel, .process 0 (1, 3), .advance, .collect 0],
      List.replicate 4 .advance]

/-- A cancel that is accepted while the last answer is on its way is not reported. -/
theorem completed_of_canceled :
    .cancel ∈ (threeBytesLog 512 canceledAtLast).accepted ∧
      ∃ note ∈ lastNotes (threeBytesLog 512 canceledAtLast), note = .completed () := by
  decide +kernel

end Background

end SmpClient
