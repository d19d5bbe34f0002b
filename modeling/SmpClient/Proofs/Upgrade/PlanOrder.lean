import SmpClient.Proofs.Upgrade.Moments
import SmpClient.Proofs.Upgrade.TaskSequence

/-!
# Upgrades keep to their plan

Whatever the device does, an upgrade that is not canceled performs tasks in one order only, and goes on
only as long as they end well.  It is said to be complete if and only if all of them did.
-/

namespace SmpClient

open SmpClient.Task (byPriority)

namespace Session

variable {origin session : Session} {log : Log} {events : List Event}

/-! ## Plans -/

/-- Whether a session has ended. -/
def IsOver (session : Session) : Prop :=
  machine.need session = .finished ()

theorem isOver_iff : session.IsOver ↔ session.phase = .over := by
  cases phaseEq : session.phase with
  | uploading job =>
      simp only [IsOver, machine, need, phaseEq]
      cases job.need <;> simp [Need.map]
  | choosing | awaitingDrop | swapping _ =>
      simp only [IsOver, machine, need, phaseEq]
      split <;> simp
  | _ => simp [IsOver, machine, need, phaseEq]

/-- Where a stage lies in the whole sequence of tasks. -/
theorem Stage.sequence {completed ahead : List Task} (stage : Stage origin log completed ahead) :
    ∃ attempt found, attempt ≤ maxRevalidations ∧
      completed ++ ahead = rounds attempt ++ byPriority found ∧
      (completed.length ≤ 2 * attempt ∨
        origin.Plans log attempt found ∧ log.returned[2 * attempt]? = some (.ok found)) := by
  cases stage with
  | @looking attempt completed attempt_le roundsEq =>
      have lengths := congrArg List.length roundsEq
      rw [List.length_append, length_rounds, List.length_singleton] at lengths
      exact ⟨attempt, [], attempt_le, by simp [roundsEq], .inl (by omega)⟩
  | @clearing attempt attempt_lt =>
      refine ⟨attempt + 1, [], attempt_lt, by simp [rounds], .inl ?_⟩
      rw [length_rounds]
      omega
  | @executing attempt found performed ahead attempt_le plans returnedEq foundEq resets =>
      exact ⟨attempt, found, attempt_le, by rw [List.append_assoc, foundEq],
        .inr ⟨plans, returnedEq⟩⟩

theorem mem_rounds {attempt : Nat} {task : Task} (member : task ∈ rounds attempt) :
    task = .resetBeforeUpload ∨ ∃ round, task = .validate round := by
  induction attempt with
  | zero => exact .inr ⟨0, List.mem_singleton.mp member⟩
  | succ attempt ih =>
      rcases List.mem_append.mp member with earlier | last
      · exact ih earlier
      · simp only [List.mem_cons, List.not_mem_nil, or_false] at last
        rcases last with rfl | rfl
        · exact .inl rfl
        · exact .inr ⟨_, rfl⟩

/-- Whether a session needs no more than to go on to say that it is complete. -/
def IsAtEnd (session : Session) (log : Log) : Prop :=
  match session.phase with
  | .starting | .choosing => session.queue.tasks = []
  | .concluding => True
  | .reporting note => note = .completed
  | .over => log.completed = true
  | _ => False

/-- Where a session stands between the tasks that have ended well and those that are known to follow. -/
structure Between (origin : Session) (log : Log) (session : Session) (completed ahead : List Task) :
    Prop where
  stage : Stage origin log completed ahead
  begun_isPrefix : log.begun <+: completed ++ ahead
  begun_le : log.begun.length ≤ completed.length + 1
  found_lt : ∀ index found, log.returned[index]? = some (.ok found) → index < completed.length
  concluded : log.completed = true →
    session.phase = .over ∧ log.begun = completed ++ ahead ∧ AllWell log.returned log.begun
  atEnd : session.canceled = false → log.begun = completed ++ ahead →
    AllWell log.returned log.begun → session.IsAtEnd log
  failed : ∀ failure, log.returned.getLast? = some (.error failure) → session.HasFailed

theorem AllWell.lt_of_getElem? {results : List (Except Error (List Task))} {tasks : List Task}
    (well : AllWell results tasks) {index : Nat} {result : Except Error (List Task)}
    (found : results[index]? = some result) : index < tasks.length := by
  obtain ⟨bound, -⟩ := List.getElem?_eq_some_iff.mp found
  exact well.1 ▸ bound

theorem AllWell.getLast?_ne {results : List (Except Error (List Task))} {tasks : List Task}
    (well : AllWell results tasks) (failure : Error) : results.getLast? ≠ some (.error failure) := by
  intro last
  cases well.2 _ (List.mem_of_getLast? last)

theorem Course.between (course : Course origin log session) :
    ∃ completed ahead, Between origin log session completed ahead := by
  cases course with
  | @resting ahead stage well awaits rests silent =>
      refine ⟨log.begun, ahead, ⟨stage, List.prefix_append _ _, Nat.le_succ _, ?_, ?_, ?_, ?_⟩⟩
      · exact fun index found foundEq => well.lt_of_getElem? foundEq
      · simp [silent]
      · intro uncanceled whole _
        have nothing : ahead = [] := List.self_eq_append_right.mp whole
        have known := awaits.all uncanceled
        rw [nothing, List.append_eq_nil_iff] at known
        obtain ⟨taken, empty⟩ := known
        cases phaseEq : session.phase with
        | starting | choosing => simpa [IsAtEnd, phaseEq] using empty
        | concluding => simp [IsAtEnd, phaseEq]
        | entering _ | announcing _ _ | performing _ => simp [Phase.taken, phaseEq] at taken
        | _ => simp [IsResting, phaseEq] at rests
      · exact fun failure last => absurd last (well.getLast?_ne failure)
  | @working completed ahead task stage begunEq well awaits serves silent =>
      have unfinished : log.returned.length ≠ log.begun.length := by simp [well.1, begunEq]
      refine ⟨completed, task :: ahead, ⟨stage, ?_, by simp [begunEq], ?_, ?_, ?_, ?_⟩⟩
      · rw [begunEq]
        exact ⟨ahead, by simp⟩
      · exact fun index found foundEq => well.lt_of_getElem? foundEq
      · simp [silent]
      · exact fun _ _ all => absurd all.1 unfinished
      · exact fun failure last => absurd last (well.getLast?_ne failure)
  | @failed completed ahead task results failure stage begunEq returnedEq well ends silent =>
      have bad : ¬ AllWell log.returned log.begun := by
        intro all
        exact all.getLast?_ne failure (by simp [returnedEq])
      refine ⟨completed, task :: ahead, ⟨stage, ?_, by simp [begunEq], ?_, ?_, ?_, ?_⟩⟩
      · rw [begunEq]
        exact ⟨ahead, by simp⟩
      · intro index found foundEq
        rw [returnedEq, List.getElem?_append] at foundEq
        split at foundEq
        · rename_i bound
          exact well.1 ▸ bound
        · rw [List.getElem?_singleton] at foundEq
          split at foundEq <;> cases foundEq
      · simp [silent]
      · exact fun _ _ all => absurd all bad
      · exact fun _ _ => ends
  | @concluded ahead stage well ends =>
      refine ⟨log.begun, ahead, ⟨stage, List.prefix_append _ _, Nat.le_succ _, ?_, ?_, ?_, ?_⟩⟩
      · exact fun index found foundEq => well.lt_of_getElem? foundEq
      · intro said
        cases phaseEq : session.phase <;> simp [HasConcluded, phaseEq, said] at ends
        exact ⟨rfl, by simp [ends], well⟩
      · intro uncanceled _ _
        cases phaseEq : session.phase <;> simp [HasConcluded, phaseEq, uncanceled] at ends
        · simp [IsAtEnd, phaseEq, ends.2.2]
        · simp [IsAtEnd, phaseEq, ends.2]
      · exact fun failure last => absurd last (well.getLast?_ne failure)

/-! ## The end -/

theorem says_of_reporting (phaseEq : session.phase = .reporting .completed) (events : List Event) :
    .told .completed ∈ history (.reply .ready :: events) session := by
  rw [history, Machine.trace_cons]
  refine List.mem_append_left _ ?_
  simp [happenings, notices, machine, need, Need.notes, phaseEq]

theorem says_of_concluding (uncanceled : session.canceled = false)
    (phaseEq : session.phase = .concluding) (events : List Event) :
    .told .completed ∈ history (.reply .ready :: .reply .ready :: events) session := by
  rw [history, Machine.trace_cons]
  refine List.mem_append_right _ (says_of_reporting ?_ events)
  simp [Machine.take, machine, feed, phaseEq, outcome, uncanceled]

theorem says_of_choosing (uncanceled : session.canceled = false) (unpaused : session.paused = false)
    (empty : session.queue.tasks = []) (phaseEq : session.phase = .choosing) (events : List Event) :
    .told .completed ∈
      history (.reply .ready :: .reply .ready :: .reply .ready :: events) session := by
  have chosen : machine.take session (.reply .ready) = { session with phase := .concluding } := by
    simp [Machine.take, machine, feed, choose, phaseEq, uncanceled, unpaused, TaskQueue.pop, empty]
  rw [history, Machine.trace_cons, chosen]
  refine List.mem_append_right _ (says_of_concluding ?_ rfl events)
  exact uncanceled

/-- A session in which nothing is left to do. -/
theorem says_of_isAtEnd (uncanceled : session.canceled = false) (unpaused : session.paused = false)
    (atEnd : session.IsAtEnd log) :
    (log.addAll (history (List.replicate 4 (.reply .ready)) session)).completed = true := by
  refine Log.completed_addAll ?_
  cases phaseEq : session.phase with
  | starting =>
      simp only [IsAtEnd, phaseEq] at atEnd
      right
      have opened : machine.take session (.reply .ready) = { session with phase := .choosing } := by
        simp [Machine.take, machine, feed, phaseEq]
      rw [List.replicate_succ, history, Machine.trace_cons, opened]
      refine List.mem_append_right _ (says_of_choosing ?_ ?_ ?_ rfl [])
      · exact uncanceled
      · exact unpaused
      · exact atEnd
  | choosing =>
      simp only [IsAtEnd, phaseEq] at atEnd
      exact .inr (says_of_choosing uncanceled unpaused atEnd phaseEq _)
  | concluding => exact .inr (says_of_concluding uncanceled phaseEq _)
  | reporting note =>
      simp only [IsAtEnd, phaseEq] at atEnd
      exact .inr (says_of_reporting (atEnd ▸ phaseEq) _)
  | «over» =>
      simp only [IsAtEnd, phaseEq] at atEnd
      exact .inl atEnd
  | _ => simp [IsAtEnd, phaseEq] at atEnd

/-- What lets a session end that has nothing left to do. -/
def lettingOn : List Event :=
  .signal .resume :: List.replicate 4 (.reply .ready)

theorem says_of_lettingOn (uncanceled : session.canceled = false) (atEnd : session.IsAtEnd log) :
    (log.addAll (history lettingOn session)).completed = true := by
  have signaled := signaled_signal .resume session
  have canceledEq : (session.signal .resume).2.canceled = session.canceled := by
    rcases signaled.queue with ⟨-, same⟩ | ⟨other, -⟩
    · exact same
    · cases other
  have queueEq : (session.signal .resume).2.queue = session.queue := by
    rcases signaled.queue with ⟨same, -⟩ | ⟨other, -⟩
    · exact same
    · cases other
  have unpaused : (session.signal .resume).2.paused = false := by
    simp only [Session.signal]
    split
    · simp only [signalUpload]
      split <;> rfl
    · rename_i already
      exact Bool.not_eq_true _ ▸ already
  have atEnd' : (session.signal .resume).2.IsAtEnd log := by
    rcases signaled.phase with phaseEq | ⟨job, phaseEq, -⟩
    · rwa [IsAtEnd, phaseEq, queueEq]
    · simp [IsAtEnd, phaseEq] at atEnd
  exact says_of_isAtEnd (canceledEq.trans uncanceled) unpaused atEnd'

theorem HasFailed.isOver_feed (failed : session.HasFailed) : (session.feed .ready).IsOver := by
  rw [isOver_iff]
  cases phaseEq : session.phase <;> simp [HasFailed, phaseEq] at failed
  · simp [feed, phaseEq]
  · simp [feed, phaseEq]

/-! ## The order of what happened -/

theorem well_of_began (fresh : origin.IsFresh) {before after : List Happening} {task : Task}
    (split : history events origin = before ++ .began task :: after) :
    AllWell (Log.of before).returned (Log.of before).begun := by
  obtain ⟨first, reply, rfl, member⟩ := exists_of_history_eq_append (fun packet => by simp)
    (fun session reply member => (performing_of_mem_notices member).2) split
  obtain ⟨phaseEq, -⟩ := performing_of_mem_notices member
  obtain ⟨ahead, stage, well, -⟩ := (course_after fresh first).1.of_performing phaseEq
  exact well

theorem length_of_returned (fresh : origin.IsFresh) {before after : List Happening}
    {result : Except Error (List Task)}
    (split : history events origin = before ++ .returned result :: after) :
    (Log.of before).begun.length = (Log.of before).returned.length + 1 := by
  obtain ⟨first, reply, rfl, member⟩ := exists_of_history_eq_append (fun packet => by simp)
    (fun session reply member => (performed_of_mem_notices member).2) split
  obtain ⟨phaseEq, -⟩ := performed_of_mem_notices member
  obtain ⟨completed, ahead, task, stage, begunEq, well, -⟩ :=
    (course_after fresh first).1.of_working (.inr ⟨result, phaseEq⟩)
  rw [begunEq, List.length_append, List.length_singleton, well.1]

theorem begun_isPrefix_of_began {before after : List Happening} {task : Task}
    (split : history events origin = before ++ .began task :: after) :
    (Log.of before).begun ++ [task] <+: (Log.of (history events origin)).begun := by
  rw [split, Log.of_append]
  exact ((Log.of before).add (.began task)).begun_isPrefix_addAll after

/-- What is begun after the last look at the device comes in the order of the plan. -/
theorem exists_rest_of_begun {attempt : Nat} {found begun : List Task} {task : Task}
    (kept : begun ++ [task] <+: rounds attempt ++ byPriority found) (late : 2 * attempt < begun.length) :
    ∃ rest, begun.drop (2 * attempt + 1) ++ task :: rest = byPriority found := by
  obtain ⟨rest, whole⟩ := kept
  have lengthEq := length_rounds attempt
  have looked : rounds attempt <+: begun := by
    refine List.prefix_of_prefix_length_le (List.prefix_append _ (byPriority found)) ?_ (by omega)
    exact ⟨[task] ++ rest, by rw [← whole, List.append_assoc]⟩
  obtain ⟨performed, rfl⟩ := looked
  refine ⟨rest, ?_⟩
  rw [← lengthEq, List.drop_left]
  simpa using whole

theorem late_of_confirmAfterReset {attempt : Nat} {found begun : List Task} {target : TargetImage}
    (kept : begun ++ [.confirmAfterReset target] <+: rounds attempt ++ byPriority found) :
    2 * attempt < begun.length := by
  by_contra early
  have lengthEq := length_rounds attempt
  have within : begun ++ [.confirmAfterReset target] <+: rounds attempt := by
    refine List.prefix_of_prefix_length_le kept (List.prefix_append _ _) ?_
    rw [List.length_append, List.length_singleton]
    omega
  have member : .confirmAfterReset target ∈ rounds attempt :=
    within.subset (List.mem_append_right _ (List.mem_singleton.mpr rfl))
  rcases mem_rounds member with other | ⟨round, other⟩ <;> cases other

/-! ## The plan -/

/-- Whether a session has kept to its plan: it looks at the device, reboots it and looks again some
times, and then performs what the last look has found. -/
structure KeepsToPlan (origin : Session) (events : List Event) (attempt : Nat) (found : List Task) :
    Prop where
  attempt_le : attempt ≤ maxRevalidations
  begun_isPrefix :
    (Log.of (history events origin)).begun <+: rounds attempt ++ byPriority found
  /-- What the last look has found is the plan for the images that the device lists then. -/
  planned : ∀ tasks, (Log.of (history events origin)).returned[2 * attempt]? = some (.ok tasks) →
    tasks = found ∧ origin.Plans (Log.of (history events origin)) attempt found
  /-- No task begins before all earlier ones have ended well. -/
  began : ∀ before task after, history events origin = before ++ .began task :: after →
    AllWell (Log.of before).returned (Log.of before).begun
  /-- Only the task that was begun last can end. -/
  returned : ∀ before result after, history events origin = before ++ .returned result :: after →
    (Log.of before).begun.length = (Log.of before).returned.length + 1
  /-- After the last look, no task begins before all that are more urgent. -/
  urgent : ∀ before task after, history events origin = before ++ .began task :: after →
    2 * attempt < (Log.of before).begun.length → ∀ other, other.priority < task.priority →
    ((Log.of before).begun.drop (2 * attempt + 1)).count other = found.count other
  afterReset : ∀ before target after,
    history events origin = before ++ .began (.confirmAfterReset target) :: after →
    .reset ∈ (Log.of before).begun.drop (2 * attempt + 1)
  /-- The upgrade is said to be complete if and only if the whole plan was performed. -/
  completed : (Log.of (history events origin)).completed = true ↔
    (machine.after events origin).IsOver ∧
      (Log.of (history events origin)).begun = rounds attempt ++ byPriority found ∧
      AllWell (Log.of (history events origin)).returned (Log.of (history events origin)).begun
  /-- Nothing keeps a session that has performed the whole plan from saying so, but a pause. -/
  completes : (Log.of (history events origin)).begun = rounds attempt ++ byPriority found →
    AllWell (Log.of (history events origin)).returned (Log.of (history events origin)).begun →
    (Log.of (history (events ++ lettingOn) origin)).completed = true
  /-- A session in which a task has failed does nothing but say so. -/
  stops : ∀ failure, (Log.of (history events origin)).returned.getLast? = some (.error failure) →
    (machine.after (events ++ [.reply .ready]) origin).IsOver

/-- An upgrade that is not canceled keeps to its plan. -/
theorem keepsToPlan_of_start {scheme : Scheme} {mtu : Nat} {settings : UpgradeSettings}
    {images : ImageSet} {mode : UpgradeMode} {seq : UInt8}
    (started : start scheme mtu settings images mode seq = .ok origin)
    (uncanceled : .signal .cancel ∉ events) :
    ∃ attempt found, KeepsToPlan origin events attempt found := by
  have fresh := isFresh_of_start started
  have stays := uncanceled_after fresh uncanceled
  obtain ⟨completed, ahead, between⟩ := (course_after fresh events).1.between
  obtain ⟨attempt, found, attempt_le, whole, last⟩ := between.stage.sequence
  have kept : (Log.of (history events origin)).begun <+: rounds attempt ++ byPriority found :=
    whole ▸ between.begun_isPrefix
  refine ⟨attempt, found, ⟨attempt_le, kept, ?_, ?_, ?_, ?_, ?_, ?_, ?_, ?_⟩⟩
  · intro tasks returnedEq
    have bound := between.found_lt _ tasks returnedEq
    rcases last with early | ⟨plans, foundEq⟩
    · omega
    · rw [foundEq] at returnedEq
      exact ⟨(Except.ok.inj (Option.some.inj returnedEq)).symm, plans⟩
  · exact fun before task after split => well_of_began fresh split
  · exact fun before result after split => length_of_returned fresh split
  · intro before task after split late other urgent
    obtain ⟨rest, order⟩ := exists_rest_of_begun ((begun_isPrefix_of_began split).trans kept) late
    exact Task.count_of_byPriority order urgent
  · intro before target after split
    have begins := begun_isPrefix_of_began split
    have late := late_of_confirmAfterReset (begins.trans kept)
    have plans : origin.Plans (Log.of (history events origin)) attempt found := by
      rcases last with early | ⟨plans, -⟩
      · have longer := begins.length_le
        rw [List.length_append, List.length_singleton] at longer
        have bound := between.begun_le
        omega
      · exact plans
    obtain ⟨rest, order⟩ := exists_rest_of_begun (begins.trans kept) late
    exact plans.reset_mem order
  · constructor
    · intro said
      obtain ⟨phaseEq, begunEq, well⟩ := between.concluded said
      exact ⟨isOver_iff.mpr phaseEq, begunEq.trans whole, well⟩
    · rintro ⟨ended, begunEq, well⟩
      have atEnd := between.atEnd stays (begunEq.trans whole.symm) well
      simpa [IsAtEnd, isOver_iff.mp ended] using atEnd
  · intro begunEq well
    have atEnd := between.atEnd stays (begunEq.trans whole.symm) well
    rw [history, Machine.trace_append, Log.of_append]
    exact says_of_lettingOn stays atEnd
  · intro failure lastEq
    rw [Machine.after_concat]
    exact (between.failed failure lastEq).isOver_feed

def goingOn (count : Nat) : List Event :=
  List.replicate count (.reply .ready)

/-- An answer that the link has brought from the device. -/
def answering (op : Op) (group : Group) (seq id : UInt8) (payload : Cbor.Value) : Event :=
  .reply (.answer do
    Response.decode .ble (← Packet.build .ble op 0 group.number seq id payload) .generic)

/-- An answer that lists one slot. -/
def listing (op : Op) (seq : UInt8) (slot : ImageSlot) : Event :=
  answering op .image seq 0 (ImageState.toValue { images := [{ slot with slot := 1 }] })

def oneByteImage : TargetImage :=
  { index := 0, slot := 1, data := [1], hash := [7] }

def oneByteStart : Session :=
  { scheme := .ble, mtu := 65, settings := { disconnectTimeout := 0 }, images := [oneByteImage],
    mode := .testAndConfirm, seq := 0, queue := ⟨[.validate 0]⟩ }

/-- The slot waits for a reboot at first, and holds the image after it. -/
def blockedOnce : List Event :=
  goingOn 5 ++ [answering .readResponse .os 0 8 (.record [("rc", .nat 8)])] ++
    goingOn 1 ++ [listing .readResponse 1 { hash := [9], pending := true }] ++
    goingOn 5 ++ [answering .writeResponse .os 2 5 (.record [])] ++
    goingOn 7 ++ [answering .readResponse .os 3 8 (.record [("rc", .nat 8)])] ++
    goingOn 1 ++ [listing .readResponse 4 { hash := [7] }] ++
    goingOn 5 ++ [listing .writeResponse 5 { hash := [7], pending := true }] ++
    goingOn 5 ++ [answering .writeResponse .os 6 5 (.record [])] ++
    goingOn 7 ++ [.reply (.connected (.ok ())),
      listing .writeResponse 7 { hash := [7], confirmed := true }] ++
    goingOn 4

theorem keepsToPlan_blockedOnce :
    (start .ble 65 { disconnectTimeout := 0 } ⟨[oneByteImage]⟩ .testAndConfirm 0 =
        .ok oneByteStart ∧ .signal .cancel ∉ blockedOnce) ∧
      (∃ attempt found, KeepsToPlan oneByteStart blockedOnce attempt found) ∧
      (Log.of (history blockedOnce oneByteStart)).begun =
        [.validate 0, .resetBeforeUpload, .validate 1, .test oneByteImage, .reset,
          .confirmAfterReset oneByteImage] ∧
      (Log.of (history blockedOnce oneByteStart)).completed = true := by
  have started : start .ble 65 { disconnectTimeout := 0 } ⟨[oneByteImage]⟩ .testAndConfirm 0 =
      .ok oneByteStart := rfl
  have uncanceled : .signal .cancel ∉ blockedOnce := by
    simp [blockedOnce, goingOn, answering, listing]
  exact ⟨⟨started, uncanceled⟩, keepsToPlan_of_start started uncanceled, by decide +kernel,
    by decide +kernel⟩

end Session

end SmpClient
