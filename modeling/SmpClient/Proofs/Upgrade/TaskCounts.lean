import SmpClient.Proofs.Upgrade.PlanOrder

/-!
# How many tasks there are

Only a look at the device brings more tasks.  It brings another look no more than a few times, and all
that is to be done only once.  So the number of tasks is bounded by that of the images, whatever the
device says.
-/

namespace SmpClient

open SmpClient.Task (byPriority)

namespace Task

def isValidate : Task → Bool
  | .validate _ => true
  | _ => false

def isUpload : Task → Bool
  | .upload _ => true
  | _ => false

/-- Whether a task marks an image. -/
def isMark : Task → Bool
  | .test _ | .confirm _ | .confirmAfterReset _ => true
  | _ => false

end Task

namespace Verdict

/-- An image is uploaded at most once, and then confirmed, or tested and confirmed after the reset. -/
theorem tasks_sublist (verdict : Verdict) (mode : UpgradeMode) (confirmsOnBoot : Bool)
    (target : TargetImage) :
    (verdict.tasks mode confirmsOnBoot target).Sublist [.upload target, .confirm target] ∨
      (verdict.tasks mode confirmsOnBoot target).Sublist
        [.upload target, .test target, .confirmAfterReset target] := by
  cases verdict with
  | done | blocked | inUse => exact .inl (List.nil_sublist _)
  | running => cases mode <;> simp [tasks]
  | marked permanent => cases permanent <;> cases confirmsOnBoot <;> cases mode <;> simp [tasks]
  | unmarked missing => cases missing <;> cases confirmsOnBoot <;> cases mode <;> simp [tasks]

theorem countP_tasks_le (verdict : Verdict) (mode : UpgradeMode) (confirmsOnBoot : Bool)
    (target : TargetImage) :
    (verdict.tasks mode confirmsOnBoot target).countP Task.isUpload ≤ 1 ∧
      (verdict.tasks mode confirmsOnBoot target).countP Task.isMark ≤ 2 ∧
      (verdict.tasks mode confirmsOnBoot target).length ≤ 3 := by
  rcases tasks_sublist verdict mode confirmsOnBoot target with among | among
  · have uploads := among.countP_le (p := Task.isUpload)
    have marks := among.countP_le (p := Task.isMark)
    exact ⟨uploads, Nat.le_succ_of_le marks, Nat.le_succ_of_le among.length_le⟩
  · have uploads := among.countP_le (p := Task.isUpload)
    have marks := among.countP_le (p := Task.isMark)
    exact ⟨uploads, marks, among.length_le⟩

end Verdict

namespace Plan

variable (plan : Plan)

theorem countP_imageTasks_le {kind : Task → Bool} {bound : Nat}
    (each : ∀ (verdict : Verdict) target,
      (verdict.tasks plan.mode plan.confirmsOnBoot target).countP kind ≤ bound) :
    plan.imageTasks.countP kind ≤ bound * plan.images.length := by
  rw [imageTasks, verdicts]
  induction plan.images with
  | nil => exact Nat.le_refl _
  | cons target rest ih =>
      have first := each (.judge target plan.slots) target
      rw [List.map_cons, List.flatMap_cons, List.countP_append, List.length_cons,
        Nat.mul_succ, Nat.add_comm (bound * _)]
      exact Nat.add_le_add first ih

/-- What a plan asks for that finds no slot blocked. -/
structure Counts (count : Nat) (found : List Task) : Prop where
  validates : found.countP Task.isValidate = 0
  clears : found.count .resetBeforeUpload = 0
  resets : found.count .reset ≤ 1
  erases : found.count .eraseStorage ≤ 1
  uploads : found.countP Task.isUpload ≤ count
  marks : found.countP Task.isMark ≤ 2 * count
  length_le : found.length ≤ 3 * count + 2

theorem counts_nil (count : Nat) : Counts count [] := by
  constructor <;> simp

theorem count_imageTasks {task : Task} (other : task.target? = none) :
    plan.imageTasks.count task = 0 := by
  refine List.count_eq_zero.mpr fun member => ?_
  obtain ⟨target, -, asks⟩ := asks_of_mem_imageTasks member
  cases asks <;> cases other

theorem resetTasks_sublist : plan.resetTasks.Sublist [.eraseStorage, .reset] := by
  rw [resetTasks]
  split
  · split <;> simp
  · exact List.nil_sublist _

theorem countP_tasks_le {kind : Task → Bool} {bound : Nat}
    (each : ∀ (verdict : Verdict) target,
      (verdict.tasks plan.mode plan.confirmsOnBoot target).countP kind ≤ bound) :
    (plan.imageTasks ++ plan.resetTasks).countP kind ≤
      bound * plan.images.length + [Task.eraseStorage, .reset].countP kind := by
  rw [List.countP_append]
  exact Nat.add_le_add (plan.countP_imageTasks_le each) (plan.resetTasks_sublist.countP_le)

theorem counts_tasks : Counts plan.images.length (plan.imageTasks ++ plan.resetTasks) where
  validates := by
    refine List.countP_eq_zero.mpr fun task member => ?_
    cases task with
    | validate attempt => exact absurd rfl ((ne_round_of_mem member).2 attempt)
    | _ => exact Bool.false_ne_true
  clears := List.count_eq_zero.mpr fun member => (ne_round_of_mem member).1 rfl
  resets := by
    rw [List.count_append, count_imageTasks plan rfl, Nat.zero_add]
    exact plan.resetTasks_sublist.count_le _
  erases := by
    rw [List.count_append, count_imageTasks plan rfl, Nat.zero_add]
    exact plan.resetTasks_sublist.count_le _
  uploads := by
    have bound := plan.countP_tasks_le fun verdict target =>
      (verdict.countP_tasks_le plan.mode plan.confirmsOnBoot target).1
    rwa [Nat.one_mul] at bound
  marks := plan.countP_tasks_le fun verdict target =>
    (verdict.countP_tasks_le plan.mode plan.confirmsOnBoot target).2.1
  length_le := by
    rw [← List.countP_true]
    exact plan.countP_tasks_le fun verdict target => by
      rw [List.countP_true]
      exact (verdict.countP_tasks_le plan.mode plan.confirmsOnBoot target).2.2

end Plan

namespace Session

variable {origin session : Session} {events : List Event}

theorem countP_rounds_eq_zero {kind : Task → Bool} (clears : kind .resetBeforeUpload = false)
    (validates : ∀ attempt, kind (.validate attempt) = false) (attempt : Nat) :
    (rounds attempt).countP kind = 0 := by
  refine List.countP_eq_zero.mpr fun task member => ?_
  rcases mem_rounds member with rfl | ⟨round, rfl⟩
  · simp [clears]
  · simp [validates]

theorem count_rounds (attempt : Nat) :
    (rounds attempt).countP Task.isValidate = attempt + 1 ∧
      (rounds attempt).count .resetBeforeUpload = attempt := by
  induction attempt with
  | zero => exact ⟨rfl, rfl⟩
  | succ attempt ih =>
      obtain ⟨validates, clears⟩ := ih
      rw [rounds, List.countP_append, List.count_append, validates, clears]
      exact ⟨rfl, rfl⟩

/-- All tasks of a session begin a sequence of rounds and of what a plan asks for. -/
theorem exists_found_of_course {log : Log} (course : Course origin log session) :
    ∃ attempt found, attempt ≤ maxRevalidations ∧ Plan.Counts origin.images.length found ∧
      log.begun <+: rounds attempt ++ byPriority found := by
  obtain ⟨completed, ahead, between⟩ := course.between
  have kept := between.begun_isPrefix
  cases between.stage with
  | @looking attempt completed attempt_le roundsEq =>
      refine ⟨attempt, [], attempt_le, Plan.counts_nil _, ?_⟩
      rwa [Task.byPriority_nil, List.append_nil, ← roundsEq]
  | @clearing attempt attempt_lt =>
      refine ⟨attempt + 1, [], attempt_lt, Plan.counts_nil _, ?_⟩
      rwa [Task.byPriority_nil, List.append_nil]
  | @executing attempt found performed ahead attempt_le plans returnedEq foundEq resets =>
      obtain ⟨slots, bootloader, -, -, planned⟩ := plans
      refine ⟨attempt, found, attempt_le, ?_, ?_⟩
      · rw [planned]
        exact (origin.plan attempt slots bootloader).counts_tasks
      · rwa [List.append_assoc, foundEq] at kept

/-- How many tasks of each kind have begun, at most, for a number of images. -/
structure Counted (count : Nat) (begun : List Task) : Prop where
  validates : begun.countP Task.isValidate ≤ maxRevalidations + 1
  clears : begun.count .resetBeforeUpload ≤ 3
  resets : begun.count .reset ≤ 1
  erases : begun.count .eraseStorage ≤ 1
  uploads : begun.countP Task.isUpload ≤ count
  marks : begun.countP Task.isMark ≤ 2 * count
  length_le : begun.length ≤ 3 * count + 9

theorem counted_of_course {log : Log} (course : Course origin log session) :
    Counted origin.images.length log.begun := by
  obtain ⟨attempt, found, attempt_le, counts, kept⟩ := exists_found_of_course course
  have three : attempt ≤ 3 := attempt_le
  obtain ⟨validates, clears⟩ := count_rounds attempt
  have bound (kind : Task → Bool) :
      log.begun.countP kind ≤ (rounds attempt).countP kind + found.countP kind := by
    have few := kept.sublist.countP_le (p := kind)
    rwa [List.countP_append, (Task.perm_byPriority found).countP_eq] at few
  have planned (kind : Task → Bool) (clears : kind .resetBeforeUpload = false)
      (validates : ∀ attempt, kind (.validate attempt) = false) :
      log.begun.countP kind ≤ found.countP kind := by
    have few := bound kind
    rwa [countP_rounds_eq_zero clears validates, Nat.zero_add] at few
  refine ⟨?_, ?_, ?_, ?_, ?_, ?_, ?_⟩
  · have few := bound Task.isValidate
    rw [validates, counts.validates] at few
    exact Nat.le_trans few (Nat.succ_le_succ attempt_le)
  · have few : log.begun.count .resetBeforeUpload ≤
        (rounds attempt).count .resetBeforeUpload + found.count .resetBeforeUpload := bound _
    rw [clears, counts.clears] at few
    exact Nat.le_trans few three
  · exact Nat.le_trans (planned (· == .reset) rfl fun _ => rfl) counts.resets
  · exact Nat.le_trans (planned (· == .eraseStorage) rfl fun _ => rfl) counts.erases
  · exact Nat.le_trans (planned Task.isUpload rfl fun _ => rfl) counts.uploads
  · exact Nat.le_trans (planned Task.isMark rfl fun _ => rfl) counts.marks
  · have few := kept.length_le
    rw [List.length_append, length_rounds, (Task.perm_byPriority found).length_eq] at few
    have planned := counts.length_le
    omega

/-! ## The next task -/

/-- Whether a session takes no task because it is paused. -/
def IsHeld (session : Session) : Prop :=
  session.paused = true ∧ session.canceled = false

/-- Whether a session needs no more than some steps of its own to begin a task, or to end. -/
def Proceeds (steps : Nat) (session : Session) : Prop :=
  ∃ count ≤ steps, (machine.after (goingOn count) session).IsOver ∨
    ∃ task, .began task ∈ history (goingOn count) session

theorem proceeds_of_feed {steps : Nat} (later : (session.feed .ready).Proceeds steps) :
    session.Proceeds (steps + 1) := by
  obtain ⟨count, count_le, ends⟩ := later
  refine ⟨count + 1, Nat.succ_le_succ count_le, ?_⟩
  rw [goingOn, List.replicate_succ]
  refine ends.imp id fun begins => ?_
  obtain ⟨task, member⟩ := begins
  refine ⟨task, ?_⟩
  rw [history, Machine.trace_cons]
  exact List.mem_append_right _ member

theorem Proceeds.mono {steps more : Nat} (proceeds : session.Proceeds steps) (steps_le : steps ≤ more) :
    session.Proceeds more := by
  obtain ⟨count, count_le, ends⟩ := proceeds
  exact ⟨count, Nat.le_trans count_le steps_le, ends⟩

theorem proceeds_of_over (phaseEq : session.phase = .over) : session.Proceeds 0 :=
  ⟨0, Nat.le_refl 0, .inl (isOver_iff.mpr phaseEq)⟩

theorem proceeds_of_reporting {note : SessionNote} (phaseEq : session.phase = .reporting note) :
    session.Proceeds 1 := by
  apply proceeds_of_feed
  apply proceeds_of_over
  simp only [feed, phaseEq]

theorem proceeds_of_concluding (phaseEq : session.phase = .concluding) : session.Proceeds 2 := by
  apply proceeds_of_feed
  simp only [feed, phaseEq]
  exact proceeds_of_reporting rfl

theorem proceeds_of_performing {task : Task} (phaseEq : session.phase = .performing task) :
    session.Proceeds 1 := by
  refine ⟨1, Nat.le_refl 1, .inr ⟨task, ?_⟩⟩
  have begins : Happening.began task ∈ session.notices .ready := by
    simp [notices, turns, phaseEq]
  exact List.mem_append_left _ (List.mem_append_left _ begins)

theorem proceeds_of_announcing {before : UpgradeState} {task : Task}
    (phaseEq : session.phase = .announcing before task) : session.Proceeds 2 := by
  apply proceeds_of_feed
  simp only [feed, phaseEq]
  exact proceeds_of_performing rfl

theorem proceeds_of_entering {task : Task} (phaseEq : session.phase = .entering task) :
    session.Proceeds 3 := by
  apply proceeds_of_feed
  simp only [feed, phaseEq, enter]
  split
  · exact (proceeds_of_performing rfl).mono (Nat.le_succ 1)
  · exact proceeds_of_announcing rfl

theorem proceeds_of_choosing (phaseEq : session.phase = .choosing) (unheld : ¬ session.IsHeld) :
    session.Proceeds 4 := by
  apply proceeds_of_feed
  simp only [feed, phaseEq, choose]
  split
  · exact (proceeds_of_concluding rfl).mono (Nat.le_succ 2)
  · rename_i uncanceled
    split
    · rename_i paused
      exact absurd ⟨paused, Bool.not_eq_true _ ▸ uncanceled⟩ unheld
    · split
      · exact proceeds_of_entering rfl
      · exact (proceeds_of_concluding rfl).mono (Nat.le_succ 2)

/-- Between two tasks nothing keeps a session from going on, but a pause. -/
theorem proceeds_of_idle (idle : session.phase.isWorking = false) (unheld : ¬ session.IsHeld) :
    session.Proceeds 5 := by
  cases phaseEq : session.phase with
  | inspecting _ _ | asking _ _ | connecting _ | uploading _ | awaitingDrop | swapping _ =>
      simp [Phase.isWorking, phaseEq] at idle
  | starting =>
      apply proceeds_of_feed
      simp only [feed, phaseEq]
      exact proceeds_of_choosing rfl unheld
  | choosing => exact (proceeds_of_choosing phaseEq unheld).mono (by decide)
  | entering task => exact (proceeds_of_entering phaseEq).mono (by decide)
  | announcing before task => exact (proceeds_of_announcing phaseEq).mono (by decide)
  | performing task => exact (proceeds_of_performing phaseEq).mono (by decide)
  | performed result =>
      apply proceeds_of_feed
      simp only [feed, phaseEq, conclude]
      have chooses {next : Session} (nextEq : next.phase = .choosing)
          (pausedEq : next.paused = session.paused) (canceledEq : next.canceled = session.canceled) :
          next.Proceeds 4 := by
        refine proceeds_of_choosing nextEq ?_
        rwa [IsHeld, pausedEq, canceledEq]
      have reports {next : Session} {note : SessionNote} (nextEq : next.phase = .reporting note) :
          next.Proceeds 4 :=
        (proceeds_of_reporting nextEq).mono (by decide)
      repeat' split
      · exact chooses rfl rfl rfl
      · exact chooses rfl rfl rfl
      · exact reports rfl
      · exact reports rfl
      · exact reports rfl
  | concluding => exact (proceeds_of_concluding phaseEq).mono (by decide)
  | reporting note => exact (proceeds_of_reporting phaseEq).mono (by decide)
  | «over» => exact (proceeds_of_over phaseEq).mono (by decide)

end Session

end SmpClient
