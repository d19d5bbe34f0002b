import SmpClient.Proofs.Upgrade.PlanTasks
import SmpClient.Proofs.Upgrade.SessionSteps

/-!
# The sequence of tasks

An upgrade looks at the device, and while a slot is blocked it reboots the device and looks again.
Then it performs what the last look has found, by priority.  It stops at the first task that fails.
-/

namespace SmpClient

open SmpClient.Task (byPriority)

namespace Session

/-- The tasks up to a look at the device that comes after some rounds of rebooting and looking. -/
def rounds : (attempt : Nat) → List Task
  | 0 => [.validate 0]
  | attempt + 1 => rounds attempt ++ [.resetBeforeUpload, .validate (attempt + 1)]

theorem length_rounds (attempt : Nat) : (rounds attempt).length = 2 * attempt + 1 := by
  induction attempt with
  | zero => rfl
  | succ attempt ih =>
      rw [rounds, List.length_append, ih]
      simp only [List.length_cons, List.length_nil]
      omega

/-- Whether tasks are what a look at the device has found that found no slot blocked. -/
def Plans (origin : Session) (log : Log) (attempt : Nat) (found : List Task) : Prop :=
  ∃ slots bootloader, log.listed = some slots ∧
    let plan := origin.plan attempt slots bootloader
    plan.tasks = .ok found ∧ found = plan.imageTasks ++ plan.resetTasks

/-- What is confirmed after a reset is confirmed after one of the plan. -/
theorem Plans.reset_mem {origin : Session} {log : Log} {attempt : Nat} {found performed rest : List Task}
    {target : TargetImage} (plans : origin.Plans log attempt found)
    (order : performed ++ .confirmAfterReset target :: rest = byPriority found) :
    .reset ∈ performed := by
  have member : .confirmAfterReset target ∈ found := by
    rw [← (Task.perm_byPriority found).mem_iff, ← order]
    simp
  have resets : .reset ∈ found := by
    obtain ⟨slots, bootloader, -, -, foundEq⟩ := plans
    rw [foundEq] at member ⊢
    exact Plan.reset_mem_of_marks (.inr rfl) member
  have urgent : Task.reset.priority < (Task.confirmAfterReset target).priority := by
    simp [Task.priority]
  rw [← List.count_pos_iff, Task.count_of_byPriority order urgent]
  exact List.count_pos_iff.mpr resets

/-- How far an upgrade has come: the tasks that have ended well, and those that are known to follow. -/
inductive Stage (origin : Session) (log : Log) : (completed ahead : List Task) → Prop
  | looking {attempt : Nat} {completed : List Task} (attempt_le : attempt ≤ maxRevalidations)
      (roundsEq : completed ++ [.validate attempt] = rounds attempt) :
      Stage origin log completed [.validate attempt]
  | clearing {attempt : Nat} (attempt_lt : attempt < maxRevalidations) :
      Stage origin log (rounds attempt) [.resetBeforeUpload, .validate (attempt + 1)]
  | executing {attempt : Nat} {found performed ahead : List Task}
      (attempt_le : attempt ≤ maxRevalidations) (plans : origin.Plans log attempt found)
      (returnedEq : log.returned[2 * attempt]? = some (.ok found))
      (foundEq : performed ++ ahead = byPriority found)
      (resets : .reset ∈ performed → log.reset = true) :
      Stage origin log (rounds attempt ++ performed) ahead

variable {origin session : Session} {log : Log} {task : Task} {completed ahead : List Task}

/-- Whether results are those of tasks that have all ended well. -/
def AllWell (results : List (Except Error (List Task))) (tasks : List Task) : Prop :=
  results.length = tasks.length ∧ ∀ result ∈ results, result.toBool = true

theorem AllWell.concat {results : List (Except Error (List Task))} {tasks found : List Task}
    (well : AllWell results tasks) (task : Task) :
    AllWell (results ++ [.ok found]) (tasks ++ [task]) := by
  obtain ⟨lengthEq, ok⟩ := well
  refine ⟨by simp [lengthEq], fun result member => ?_⟩
  rcases List.mem_append.mp member with earlier | last
  · exact ok result earlier
  · rw [List.mem_singleton.mp last]
    rfl

/-- What the log has kept of results stays there. -/
theorem getElem?_of_isPrefix {earlier later : List (Except Error (List Task))} (kept : earlier <+: later)
    {index : Nat} {result : Except Error (List Task)} (found : earlier[index]? = some result) :
    later[index]? = some result := by
  obtain ⟨rest, rfl⟩ := kept
  obtain ⟨bound, -⟩ := List.getElem?_eq_some_iff.mp found
  rw [List.getElem?_append_left bound]
  exact found

namespace Stage

/-- Other entries of the log do not matter to a stage. -/
theorem mono (stage : Stage origin log completed ahead) {later : Log}
    (listedEq : later.listed = log.listed) (reset : log.reset = true → later.reset = true)
    (kept : log.returned <+: later.returned) : Stage origin later completed ahead := by
  cases stage with
  | looking attempt_le roundsEq => exact .looking attempt_le roundsEq
  | clearing attempt_lt => exact .clearing attempt_lt
  | executing attempt_le plans returnedEq foundEq resets =>
      obtain ⟨slots, bootloader, slotsEq, planned⟩ := plans
      exact .executing attempt_le ⟨slots, bootloader, listedEq.trans slotsEq, planned⟩
        (getElem?_of_isPrefix kept returnedEq) foundEq fun member => reset (resets member)

/-- The device is looked at only while nothing is known to follow. -/
theorem looking_of_validate {attempt : Nat}
    (stage : Stage origin log completed (.validate attempt :: ahead)) (other : Log) :
    Stage origin other completed (.validate attempt :: ahead) := by
  generalize tasksEq : .validate attempt :: ahead = tasks at stage ⊢
  cases stage with
  | looking attempt_le roundsEq => exact .looking attempt_le roundsEq
  | clearing attempt_lt => cases tasksEq
  | executing attempt_le plans returnedEq foundEq resets =>
      obtain ⟨slots, bootloader, -, -, rfl⟩ := plans
      have member : .validate attempt ∈ byPriority _ :=
        foundEq ▸ List.mem_append_right _ (tasksEq ▸ List.mem_cons_self)
      have found := (Task.perm_byPriority _).mem_iff.mp member
      exact absurd rfl ((Plan.ne_round_of_mem found).2 attempt)

/-- A look at the device leads to another round, or to all that is to be done. -/
theorem next_of_looking {attempt : Nat} (attempt_le : attempt ≤ maxRevalidations)
    (roundsEq : completed ++ [.validate attempt] = rounds attempt) {found : List Task}
    (finds : origin.Finds log (.validate attempt) found) (well : AllWell log.returned completed) :
    ∃ following, Stage origin (log.add (.returned (.ok found))) (rounds attempt) following ∧
      (TaskQueue.pushAll found {}).tasks = following := by
  obtain ⟨slots, bootloader, listedEq, planned⟩ := finds
  rcases Plan.tasks_cases planned with ⟨attempt_lt, rfl⟩ | foundEq
  · exact ⟨_, .clearing attempt_lt, rfl⟩
  · have index : 2 * attempt = log.returned.length := by
      have lengths := congrArg List.length roundsEq
      rw [List.length_append, length_rounds, ← well.1] at lengths
      simpa using lengths.symm
    have returnedEq : (log.add (.returned (.ok found))).returned[2 * attempt]? = some (.ok found) := by
      simp [Log.add, index]
    have stage : Stage origin (log.add (.returned (.ok found))) (rounds attempt ++ [])
        (byPriority found) :=
      .executing attempt_le ⟨slots, bootloader, listedEq, planned, foundEq⟩ returnedEq rfl
        (by simp)
    rw [List.append_nil] at stage
    exact ⟨_, stage, TaskQueue.tasks_pushAll found⟩

theorem next_of_executing {attempt : Nat} {planned performed found : List Task}
    (attempt_le : attempt ≤ maxRevalidations) (plans : origin.Plans log attempt planned)
    (returnedEq : log.returned[2 * attempt]? = some (.ok planned))
    (plannedEq : performed ++ task :: ahead = byPriority planned)
    (resets : .reset ∈ performed → log.reset = true) (finds : origin.Finds log task found)
    (last : log.begun.getLast? = some task) :
    Stage origin (log.add (.returned (.ok found))) (rounds attempt ++ performed ++ [task]) ahead ∧
      found = [] := by
  have member : task ∈ byPriority planned :=
    plannedEq ▸ List.mem_append_right _ List.mem_cons_self
  have nothing : found = [] := by
    obtain ⟨slots, bootloader, -, -, rfl⟩ := plans
    have inPlan := Plan.ne_round_of_mem ((Task.perm_byPriority _).mem_iff.mp member)
    cases task with
    | validate attempt => exact absurd rfl (inPlan.2 attempt)
    | _ => exact finds
  have resetsNow : .reset ∈ performed ++ [task] → (log.add (.returned (.ok found))).reset = true := by
    intro among
    rcases List.mem_append.mp among with earlier | now
    · simp [Log.add, resets earlier]
    · simp [Log.add, last, List.mem_singleton.mp now, Except.toBool]
  refine ⟨?_, nothing⟩
  rw [List.append_assoc]
  refine .executing attempt_le plans (getElem?_of_isPrefix (List.prefix_append _ _) returnedEq) ?_
    resetsNow
  rw [List.append_assoc, ← plannedEq]
  rfl

/-- A task that ends well brings the upgrade to the tasks that follow it, which are those that the
queue then holds. -/
theorem next (stage : Stage origin log completed (task :: ahead)) {found : List Task}
    (finds : origin.Finds log task found) (begunEq : log.begun = completed ++ [task])
    (well : AllWell log.returned completed) :
    ∃ following, Stage origin (log.add (.returned (.ok found))) (completed ++ [task]) following ∧
      ∀ queue : TaskQueue, queue.tasks = ahead → (queue.pushAll found).tasks = following := by
  generalize tasksEq : task :: ahead = tasks at stage
  cases stage with
  | looking attempt_le roundsEq =>
      obtain ⟨rfl, rfl⟩ := List.cons.inj tasksEq
      obtain ⟨following, stage, followingEq⟩ := next_of_looking attempt_le roundsEq finds well
      refine ⟨following, roundsEq ▸ stage, fun queue empty => ?_⟩
      obtain ⟨tasks⟩ := queue
      subst empty
      exact followingEq
  | clearing attempt_lt =>
      obtain ⟨rfl, rfl⟩ := List.cons.inj tasksEq
      obtain rfl : found = [] := finds
      refine ⟨_, .looking attempt_lt ?_, fun queue queueEq => queueEq⟩
      rw [rounds, List.append_assoc]
      rfl
  | executing attempt_le plans returnedEq plannedEq resets =>
      subst tasksEq
      have last : log.begun.getLast? = some task := by simp [begunEq]
      obtain ⟨stage, rfl⟩ :=
        next_of_executing attempt_le plans returnedEq plannedEq resets finds last
      exact ⟨ahead, stage, fun queue queueEq => queueEq⟩

end Stage

/-! ## Where a session stands -/

/-- A task that was taken and those in the queue are the next ones; a cancel empties the queue. -/
structure Awaits (session : Session) (ahead : List Task) : Prop where
  all : session.canceled = false → session.phase.taken ++ session.queue.tasks = ahead
  canceled : session.canceled = true → session.queue.tasks = [] ∧ session.phase.taken <+: ahead

/-- Whether no task is being performed. -/
def IsResting (session : Session) : Prop :=
  match session.phase with
  | .starting | .choosing | .entering _ | .announcing _ _ | .performing _ => True
  | .concluding => session.canceled = false → session.queue.tasks = []
  | _ => False

/-- Whether the session ends because of a failure. -/
def HasFailed (session : Session) : Prop :=
  match session.phase with
  | .reporting note => note ≠ .completed
  | .over => True
  | _ => False

/-- Whether the session ends because no tasks are left, and says so. -/
def HasConcluded (session : Session) (log : Log) (ahead : List Task) : Prop :=
  match session.phase with
  | .reporting note =>
      log.completed = false ∧ (note = .completed → ahead = []) ∧
        (session.canceled = false → note = .completed)
  | .over => (log.completed = true → ahead = []) ∧ (session.canceled = false → log.completed = true)
  | _ => False

/-- What the log says of a session. -/
inductive Course (origin : Session) (log : Log) (session : Session) : Prop
  | resting {ahead : List Task} (stage : Stage origin log log.begun ahead)
      (well : AllWell log.returned log.begun) (awaits : session.Awaits ahead)
      (rests : session.IsResting) (silent : log.completed = false)
  | working {completed ahead : List Task} {task : Task}
      (stage : Stage origin log completed (task :: ahead)) (begunEq : log.begun = completed ++ [task])
      (well : AllWell log.returned completed) (awaits : session.Awaits ahead)
      (serves : session.phase.Serves origin log task) (silent : log.completed = false)
  | failed {completed ahead : List Task} {task : Task} {results : List (Except Error (List Task))}
      {failure : Error} (stage : Stage origin log completed (task :: ahead))
      (begunEq : log.begun = completed ++ [task]) (returnedEq : log.returned = results ++ [.error failure])
      (well : AllWell results completed) (ends : session.HasFailed) (silent : log.completed = false)
  | concluded {ahead : List Task} (stage : Stage origin log log.begun ahead)
      (well : AllWell log.returned log.begun) (ends : session.HasConcluded log ahead)

theorem taken_of_serves {phase : Phase} (serves : phase.Serves origin log task) : phase.taken = [] := by
  cases phase with
  | entering | announcing | performing => exact serves.elim
  | _ => rfl

/-- A session that has the same tasks to come stands where it stood. -/
theorem Awaits.of_eq {next : Session} (awaits : session.Awaits ahead)
    (takenEq : next.phase.taken = session.phase.taken) (queueEq : next.queue = session.queue)
    (canceledEq : next.canceled = session.canceled) : next.Awaits ahead := by
  obtain ⟨all, canceled⟩ := awaits
  exact ⟨by rwa [takenEq, queueEq, canceledEq], by rwa [takenEq, queueEq, canceledEq]⟩

theorem Awaits.taken_isPrefix (awaits : session.Awaits ahead) : session.phase.taken <+: ahead := by
  cases canceled : session.canceled with
  | false => exact ⟨session.queue.tasks, awaits.all canceled⟩
  | true => exact (awaits.canceled canceled).2

namespace Course

/-- A task that was taken is the next one, and all before it have ended well. -/
theorem of_performing (course : Course origin log session) (phaseEq : session.phase = .performing task) :
    ∃ ahead, Stage origin log log.begun (task :: ahead) ∧ AllWell log.returned log.begun ∧
      session.Awaits (task :: ahead) ∧ log.completed = false := by
  cases course with
  | resting stage well awaits rests silent =>
      obtain ⟨rest, aheadEq⟩ := awaits.taken_isPrefix
      rw [phaseEq] at aheadEq
      subst aheadEq
      exact ⟨rest, stage, well, awaits, silent⟩
  | working stage begunEq well awaits serves silent =>
      rw [phaseEq] at serves
      exact serves.elim
  | failed stage begunEq returnedEq well ends silent => simp [HasFailed, phaseEq] at ends
  | concluded stage well ends => simp [HasConcluded, phaseEq] at ends

/-- A task that is on its way, or has just ended, is the one that has begun last. -/
theorem of_working (course : Course origin log session)
    (busy : session.phase.isWorking = true ∨ ∃ result, session.phase = .performed result) :
    ∃ completed ahead task, Stage origin log completed (task :: ahead) ∧
      log.begun = completed ++ [task] ∧ AllWell log.returned completed ∧ session.Awaits ahead ∧
      session.phase.Serves origin log task ∧ log.completed = false := by
  cases course with
  | resting stage well awaits rests silent =>
      cases phaseEq : session.phase <;> simp [IsResting, Phase.isWorking, phaseEq] at rests busy
  | working stage begunEq well awaits serves silent =>
      exact ⟨_, _, _, stage, begunEq, well, awaits, serves, silent⟩
  | failed stage begunEq returnedEq well ends silent =>
      cases phaseEq : session.phase <;> simp [HasFailed, Phase.isWorking, phaseEq] at ends busy
  | concluded stage well ends =>
      cases phaseEq : session.phase <;> simp [HasConcluded, Phase.isWorking, phaseEq] at ends busy

/-- A task that was taken begins. -/
theorem began (course : Course origin log session) (briefEq : session.brief = origin.brief)
    (phaseEq : session.phase = .performing task) :
    Course origin (log.add (.began task)) (session.perform task) := by
  obtain ⟨rest, stage, well, awaits, silent⟩ := course.of_performing phaseEq
  have serves : (session.perform task).phase.Serves origin (log.add (.began task)) task :=
    serves_perform briefEq task
  have frameEq := frame_perform task session
  simp only [frame, Prod.mk.injEq] at frameEq
  obtain ⟨-, queueEq, canceledEq⟩ := frameEq
  refine .working (stage.mono rfl id (List.prefix_refl _)) rfl well ⟨?_, ?_⟩ serves silent
  · rw [canceledEq, queueEq, taken_of_serves serves]
    intro uncanceled
    have whole := awaits.all uncanceled
    rw [phaseEq] at whole
    exact List.append_cancel_left whole
  · rw [canceledEq, queueEq, taken_of_serves serves]
    exact fun canceled => ⟨(awaits.canceled canceled).1, List.nil_prefix⟩

/-- A task that is on its way stays so or ends. -/
theorem worked (course : Course origin log session) (briefEq : session.brief = origin.brief)
    (busy : session.phase.isWorking = true) (reply : Reply) :
    Course origin (log.addAll (session.notices reply)) (session.feed reply) := by
  obtain ⟨completed, ahead, task, stage, begunEq, well, awaits, serves, silent⟩ :=
    course.of_working (.inl busy)
  have servesNow := serves_feed briefEq busy serves reply
  have frameEq := frame_feed_of_working busy reply
  simp only [frame, Prod.mk.injEq] at frameEq
  obtain ⟨-, queueEq, canceledEq⟩ := frameEq
  have takenEq : (session.feed reply).phase.taken = session.phase.taken :=
    (taken_of_serves servesNow).trans (taken_of_serves serves).symm
  have awaitsNow := awaits.of_eq takenEq queueEq canceledEq
  rcases addAll_notices_of_working busy reply log with
    logEq | ⟨attempt, mode, packet, slots, phaseEq, logEq⟩
  · rw [logEq] at servesNow ⊢
    exact .working stage begunEq well awaitsNow servesNow silent
  · rw [logEq] at servesNow ⊢
    rw [phaseEq] at serves
    obtain rfl : task = .validate attempt := serves
    exact .working (stage.looking_of_validate _) begunEq well awaitsNow servesNow silent

/-- A task ends, and its session goes on to the next one or gives up. -/
theorem returned (course : Course origin log session) {result : Except Error (List Task)}
    (phaseEq : session.phase = .performed result) :
    Course origin (log.add (.returned result)) (session.conclude result) := by
  obtain ⟨completed, ahead, task, stage, begunEq, well, awaits, serves, silent⟩ :=
    course.of_working (.inr ⟨result, phaseEq⟩)
  cases result with
  | error failure =>
      have stage' : Stage origin (log.add (.returned (.error failure))) completed (task :: ahead) :=
        stage.mono rfl (fun kept => by simp [Log.add, kept]) (List.prefix_append _ _)
      have failed : (session.conclude (.error failure)).HasFailed := by
        simp only [conclude]
        split
        · simp [HasFailed]
        · split <;> simp [HasFailed]
      exact .failed stage' begunEq rfl well failed silent
  | ok found =>
      rw [phaseEq] at serves
      obtain ⟨following, stage, queued⟩ := stage.next (serves found rfl) begunEq well
      rw [← begunEq] at stage
      have well : AllWell (log.add (.returned (.ok found))).returned log.begun := by
        rw [begunEq]
        exact well.concat task
      refine .resting stage well ?_ ?_ silent
      · simp only [conclude]
        split
        · rename_i canceled
          exact ⟨fun uncanceled => absurd (canceled.symm.trans uncanceled) (by simp),
            fun _ => ⟨(awaits.canceled canceled).1, List.nil_prefix⟩⟩
        · rename_i uncanceled
          have whole := awaits.all (Bool.not_eq_true _ ▸ uncanceled)
          rw [phaseEq] at whole
          exact ⟨fun _ => queued session.queue whole, fun canceled => absurd canceled uncanceled⟩
      · simp only [conclude]
        split <;> trivial

/-- A session that performs no task takes the next one, or ends. -/
theorem rested {next : Session} (rests : session.IsResting) (course : Course origin log session)
    (changed : ∀ ahead, session.Awaits ahead → next.Awaits ahead) (restsNow : next.IsResting) :
    Course origin log next := by
  cases course with
  | resting stage well awaits _ silent =>
      exact .resting stage well (changed _ awaits) restsNow silent
  | working stage begunEq well awaits serves silent =>
      cases phaseEq : session.phase <;> rw [phaseEq] at serves <;>
        simp [IsResting, phaseEq, Phase.Serves] at rests serves
  | failed stage begunEq returnedEq well ends silent =>
      cases phaseEq : session.phase <;> simp [IsResting, HasFailed, phaseEq] at rests ends
  | concluded stage well ends =>
      cases phaseEq : session.phase <;> simp [IsResting, HasConcluded, phaseEq] at rests ends

theorem concluding (course : Course origin log session) (phaseEq : session.phase = .concluding) :
    Course origin log { session with phase := .reporting session.outcome } := by
  cases course with
  | @resting ahead stage well awaits rests silent =>
      have nothing : session.canceled = false → ahead = [] := by
        intro uncanceled
        have whole := awaits.all uncanceled
        simp only [IsResting, phaseEq] at rests
        rw [phaseEq, rests uncanceled] at whole
        exact whole.symm
      refine .concluded stage well ⟨silent, fun completes => ?_, fun uncanceled => ?_⟩
      · apply nothing
        by_contra canceled
        simp [outcome, canceled] at completes
      · simp only at uncanceled
        simp [outcome, uncanceled]
  | working stage begunEq well awaits serves silent =>
      rw [phaseEq] at serves
      exact serves.elim
  | failed stage begunEq returnedEq well ends silent => simp [HasFailed, phaseEq] at ends
  | concluded stage well ends => simp [HasConcluded, phaseEq] at ends

theorem add_told_of_ne {note : SessionNote} (other : note ≠ .completed) (log : Log) :
    log.add (.told note) = log := by
  cases note with
  | completed => exact absurd rfl other
  | _ => rfl

theorem reported (course : Course origin log session) {note : SessionNote}
    (phaseEq : session.phase = .reporting note) :
    Course origin (log.add (.told note))
      { session with finished := true, queue := session.queue.clear, phase := .over } := by
  cases course with
  | failed stage begunEq returnedEq well ends silent =>
      simp only [HasFailed, phaseEq] at ends
      rw [add_told_of_ne ends]
      exact .failed stage begunEq returnedEq well trivial silent
  | @concluded ahead stage well ends =>
      simp only [HasConcluded, phaseEq] at ends
      obtain ⟨silent, nothing, completes⟩ := ends
      by_cases completed : note = .completed
      · subst completed
        have stage' : Stage origin (log.add (.told .completed)) log.begun ahead :=
          stage.mono rfl id (List.prefix_refl _)
        exact .concluded stage' well ⟨fun _ => nothing rfl, fun _ => rfl⟩
      · rw [add_told_of_ne completed]
        exact .concluded stage well
          ⟨by simp [silent], fun uncanceled => absurd (completes uncanceled) completed⟩
  | resting stage well awaits rests silent => simp [IsResting, phaseEq] at rests
  | working stage begunEq well awaits serves silent =>
      rw [phaseEq] at serves
      exact serves.elim

theorem feed (course : Course origin log session) (briefEq : session.brief = origin.brief)
    (reply : Reply) : Course origin (log.addAll (session.notices reply)) (session.feed reply) := by
  have turn := turn_feed session reply
  generalize session.notices reply = seen, session.feed reply = next at turn
  cases turn with
  | stayed => exact course
  | opened phaseEq =>
      refine course.rested (by simp [IsResting, phaseEq]) (fun ahead awaits => ?_) trivial
      exact awaits.of_eq (by rw [phaseEq]; rfl) rfl rfl
  | took phaseEq tasksEq =>
      refine course.rested (by simp [IsResting, phaseEq]) (fun ahead awaits => ⟨?_, ?_⟩) trivial
      · intro uncanceled
        have whole := awaits.all uncanceled
        rwa [phaseEq, tasksEq] at whole
      · intro canceled
        have empty := (awaits.canceled canceled).1
        cases tasksEq.symm.trans empty
  | emptied phaseEq ends =>
      refine course.rested (by simp [IsResting, phaseEq]) (fun ahead awaits => ?_) ends
      exact awaits.of_eq (by rw [phaseEq]; rfl) rfl rfl
  | entered phaseEq nextEq =>
      rcases nextEq with ⟨-, rfl⟩ | ⟨-, rfl⟩
      · refine course.rested (by simp [IsResting, phaseEq]) (fun ahead awaits => ?_) trivial
        exact awaits.of_eq (by rw [phaseEq]; rfl) rfl rfl
      · refine course.rested (by simp [IsResting, phaseEq]) (fun ahead awaits => ?_) trivial
        exact awaits.of_eq (by rw [phaseEq]; rfl) rfl rfl
  | announced phaseEq =>
      refine course.rested (by simp [IsResting, phaseEq]) (fun ahead awaits => ?_) trivial
      exact awaits.of_eq (by rw [phaseEq]; rfl) rfl rfl
  | began phaseEq => exact course.began briefEq phaseEq
  | worked busy => exact course.worked briefEq busy reply
  | returned phaseEq => exact course.returned phaseEq
  | concluded phaseEq => exact course.concluding phaseEq
  | reported phaseEq => exact course.reported phaseEq

/-- A signal reaches no more than the upload that is going on; a cancel also empties the queue. -/
theorem signaled (course : Course origin log session) {signal : Signal} {next : Session}
    (signaled : Signaled signal session next) : Course origin log next := by
  have awaitsNow {ahead : List Task} (awaits : session.Awaits ahead)
      (takenEq : next.phase.taken = session.phase.taken) : next.Awaits ahead := by
    rcases signaled.queue with ⟨queueEq, canceledEq⟩ | ⟨-, queueEq, canceledEq⟩
    · exact awaits.of_eq takenEq queueEq canceledEq
    · refine ⟨fun uncanceled => absurd (canceledEq.symm.trans uncanceled) (by simp), fun _ => ?_⟩
      rw [queueEq, takenEq]
      exact ⟨rfl, awaits.taken_isPrefix⟩
  have uncanceledBefore (uncanceled : next.canceled = false) :
      session.canceled = false ∧ next.queue = session.queue := by
    rcases signaled.queue with ⟨queueEq, canceledEq⟩ | ⟨-, -, canceledEq⟩
    · exact ⟨canceledEq.symm.trans uncanceled, queueEq⟩
    · exact absurd (canceledEq.symm.trans uncanceled) (by simp)
  rcases signaled.phase with phaseEq | ⟨job, phaseEq, nextEq⟩
  · cases course with
    | resting stage well awaits rests silent =>
        refine .resting stage well (awaitsNow awaits (congrArg _ phaseEq)) ?_ silent
        simp only [IsResting, phaseEq] at rests ⊢
        split <;> simp_all
    | working stage begunEq well awaits serves silent =>
        exact .working stage begunEq well (awaitsNow awaits (congrArg _ phaseEq)) (phaseEq ▸ serves)
          silent
    | failed stage begunEq returnedEq well ends silent =>
        refine .failed stage begunEq returnedEq well ?_ silent
        rwa [HasFailed, phaseEq]
    | concluded stage well ends =>
        refine .concluded stage well ?_
        simp only [HasConcluded, phaseEq] at ends ⊢
        split <;> simp_all
  · cases course with
    | resting stage well awaits rests silent => simp [IsResting, phaseEq] at rests
    | working stage begunEq well awaits serves silent =>
        refine .working stage begunEq well (awaitsNow awaits (by rw [phaseEq, nextEq]; rfl)) ?_ silent
        rw [phaseEq] at serves
        rw [nextEq]
        exact serves
    | failed stage begunEq returnedEq well ends silent => simp [HasFailed, phaseEq] at ends
    | concluded stage well ends => simp [HasConcluded, phaseEq] at ends

end Course

/-! ## All events -/

variable {events : List Event}

/-- A session that has just been accepted looks at the device first. -/
structure IsFresh (session : Session) : Prop where
  phaseEq : session.phase = .starting
  queueEq : session.queue.tasks = [.validate 0]
  uncanceled : session.canceled = false

theorem eq_of_start {scheme : Scheme} {mtu : Nat} {settings : UpgradeSettings}
    {images : ImageSet} {mode : UpgradeMode} {seq : UInt8}
    (started : start scheme mtu settings images mode seq = .ok session) :
    session = { scheme, mtu, settings, images := images.images, mode, seq, queue := ⟨[.validate 0]⟩ } := by
  simp only [start, bind, Except.bind] at started
  split at started
  · cases started
  · exact (Except.ok.inj started).symm

theorem isFresh_of_start {scheme : Scheme} {mtu : Nat} {settings : UpgradeSettings}
    {images : ImageSet} {mode : UpgradeMode} {seq : UInt8}
    (started : start scheme mtu settings images mode seq = .ok session) : session.IsFresh := by
  obtain rfl := eq_of_start started
  exact ⟨rfl, rfl, rfl⟩

theorem brief_of_start {scheme : Scheme} {mtu : Nat} {settings : UpgradeSettings}
    {images : ImageSet} {mode : UpgradeMode} {seq : UInt8}
    (started : start scheme mtu settings images mode seq = .ok session) :
    session.brief = (scheme, settings, images.images, mode) := by
  obtain rfl := eq_of_start started
  rfl

theorem IsFresh.course (fresh : session.IsFresh) : Course session {} session := by
  obtain ⟨phaseEq, queueEq, uncanceled⟩ := fresh
  refine .resting (.looking (Nat.zero_le _) rfl) ⟨rfl, by simp⟩ ⟨fun _ => ?_, fun canceled => ?_⟩ ?_ rfl
  · rw [phaseEq, queueEq]
    rfl
  · exact absurd (canceled.symm.trans uncanceled) (by simp)
  · simp [IsResting, phaseEq]

theorem course_after (fresh : origin.IsFresh) (events : List Event) :
    Course origin (Log.of (history events origin)) (machine.after events origin) ∧
      (machine.after events origin).brief = origin.brief := by
  refine Machine.trace_invariant
    (fun seen state => Course origin (Log.of seen) state ∧ state.brief = origin.brief)
    ⟨fresh.course, rfl⟩ ?_ events
  rintro seen event state ⟨course, briefEq⟩
  rw [Log.of_append]
  cases event with
  | reply reply =>
      rw [Log.addAll_happenings]
      exact ⟨course.feed briefEq reply, (brief_feed state reply).trans briefEq⟩
  | signal signal =>
      have signaled := signaled_signal signal state
      exact ⟨course.signaled signaled, signaled.briefEq.trans briefEq⟩

/-- A session is canceled by a cancel only. -/
theorem uncanceled_after (fresh : origin.IsFresh) (uncanceled : .signal .cancel ∉ events) :
    (machine.after events origin).canceled = false := by
  induction events using List.reverseRecOn with
  | nil => exact fresh.uncanceled
  | append_singleton events event ih =>
      simp only [List.mem_append, List.mem_singleton, not_or] at uncanceled
      have before := ih uncanceled.1
      rw [Machine.after_concat]
      cases event with
      | reply reply => exact (canceled_feed _ reply).trans before
      | signal signal =>
          rcases (signaled_signal signal (machine.after events origin)).queue with
            ⟨-, canceledEq⟩ | ⟨rfl, -⟩
          · exact canceledEq.trans before
          · exact absurd rfl uncanceled.2

end Session

end SmpClient
