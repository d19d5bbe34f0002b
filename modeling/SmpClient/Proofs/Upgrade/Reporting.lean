import SmpClient.Proofs.Upgrade.PlanOrder

/-!
# What an upgrade reports

The owner of a session is told of each change of its state, and once of its outcome.  Nothing happens
after that.  An upgrade that ends early names the state of the task that has begun last, and one that is
canceled while a task is being performed says so whatever becomes of the task.
-/

namespace SmpClient

/-- Whether a note tells how a session has ended. -/
def SessionNote.isOutcome : SessionNote → Bool
  | .completed | .failed _ _ | .canceled _ => true
  | .started | .state _ _ | .progress _ => false

/-- The state in which a session has ended early. -/
def SessionNote.state? : SessionNote → Option UpgradeState
  | .failed last _ | .canceled last => some last
  | _ => none

namespace Session

/-- Changes of state, each from where the one before has led. -/
inductive Chained : UpgradeState → List (UpgradeState × UpgradeState) → UpgradeState → Prop
  | nil (state : UpgradeState) : Chained state [] state
  | cons {before after last : UpgradeState} {rest : List (UpgradeState × UpgradeState)}
      (differs : before ≠ after) (chained : Chained after rest last) :
      Chained before ((before, after) :: rest) last

theorem Chained.concat {first last : UpgradeState} {changes : List (UpgradeState × UpgradeState)}
    (chained : Chained first changes last) {next : UpgradeState} (differs : last ≠ next) :
    Chained first (changes ++ [(last, next)]) next := by
  induction chained with
  | nil state => exact .cons differs (.nil next)
  | cons changed chained ih => exact .cons changed (ih differs)

def Happening.change? : Happening → Option (UpgradeState × UpgradeState)
  | .told (.state before after) => some (before, after)
  | _ => none

def Happening.outcome? : Happening → Option SessionNote
  | .told note => if note.isOutcome then some note else none
  | _ => none

/-- The changes of state that the owner was told of. -/
def changes (history : List Happening) : List (UpgradeState × UpgradeState) :=
  history.filterMap Happening.change?

/-- What the owner was told of how the session has ended. -/
def outcomes (history : List Happening) : List SessionNote :=
  history.filterMap Happening.outcome?

@[simp]
theorem changes_append (first second : List Happening) :
    changes (first ++ second) = changes first ++ changes second :=
  List.filterMap_append

@[simp]
theorem outcomes_append (first second : List Happening) :
    outcomes (first ++ second) = outcomes first ++ outcomes second :=
  List.filterMap_append

@[simp]
theorem changes_sent (packets : List Bytes) : changes (packets.map .sent) = [] := by
  simp [changes, Happening.change?]

@[simp]
theorem outcomes_sent (packets : List Bytes) : outcomes (packets.map .sent) = [] := by
  simp [outcomes, Happening.outcome?]

/-- The state of the task that has begun last. -/
def Log.state (log : Log) : UpgradeState :=
  (log.begun.getLast?.map Task.state).getD .none

theorem Log.state_began (log : Log) (task : Task) : (log.add (.began task)).state = task.state := by
  simp [Log.state, Log.add]

variable {origin session : Session} {events : List Event} {seen : List Happening}

/-! ## Tasks on their way -/

/-- While a task is on its way the owner is told of the progress of an upload only. -/
theorem eq_progress_of_working (working : session.phase.isWorking = true) {reply : Reply}
    {note : SessionNote} (told : .told note ∈ session.notices reply) :
    ∃ progress, note = .progress progress := by
  have noted : note ∈ (machine.need session).notes reply := by
    rcases List.mem_append.mp told with noted | turned
    · obtain ⟨other, member, same⟩ := List.mem_map.mp noted
      cases same
      exact member
    · simp only [turns] at turned
      repeat' split at turned
      all_goals simp at turned
  cases phaseEq : session.phase with
  | uploading job =>
      simp only [machine, need, phaseEq] at noted
      cases needEq : job.need <;> simp only [needEq, Need.map] at noted
      all_goals cases reply <;> simp [Need.notes] at noted
      exact ⟨_, noted⟩
  | inspecting _ _ | asking _ _ | connecting _ | awaitingDrop | swapping _ =>
      simp only [machine, need, phaseEq] at noted
      repeat' split at noted
      all_goals simp [Need.notes] at noted
  | _ => simp [Phase.isWorking, phaseEq] at working

/-- A task that is on its way changes neither the state nor the outcome that is reported. -/
theorem unreported_of_working (working : session.phase.isWorking = true) (reply : Reply) :
    changes (session.notices reply) = [] ∧ outcomes (session.notices reply) = [] := by
  constructor
  · refine List.filterMap_eq_nil_iff.mpr fun happening member => ?_
    cases happening with
    | told note =>
        obtain ⟨progress, rfl⟩ := eq_progress_of_working working member
        rfl
    | _ => rfl
  · refine List.filterMap_eq_nil_iff.mpr fun happening member => ?_
    cases happening with
    | told note =>
        obtain ⟨progress, rfl⟩ := eq_progress_of_working working member
        rfl
    | _ => rfl

theorem begun_of_working (working : session.phase.isWorking = true) (reply : Reply) (log : Log) :
    (log.addAll (session.notices reply)).begun = log.begun := by
  rcases addAll_notices_of_working working reply log with same | ⟨_, _, _, slots, -, listed⟩
  · rw [same]
  · rw [listed]

/-! ## The account that the owner is given -/

/-- The state that the owner was told of last. -/
def announced (session : Session) : UpgradeState :=
  match session.phase with
  | .announcing before _ => before
  | _ => session.state

/-- Whether the state of a session is that of the task that was taken last, or else of the one that has
begun last, whose state is given. -/
def StandsAt (session : Session) (state : UpgradeState) : Prop :=
  match session.phase with
  | .announcing before task => before ≠ task.state ∧ session.state = task.state
  | .performing task => session.state = task.state
  | .reporting note =>
      session.state = state ∧ note.isOutcome = true ∧ ∀ named ∈ note.state?, named = state
  | _ => session.state = state

/-- Whether history ends with the only outcome, which names the state of the task that has begun last. -/
def HasEnded (seen : List Happening) : Prop :=
  ∃ earlier note, seen = earlier ++ [.told note] ∧ outcomes earlier = [] ∧ note.isOutcome = true ∧
    ∀ named ∈ note.state?, named = (Log.of earlier).state

/-- What the owner was told agrees with where the session stands. -/
structure Reported (seen : List Happening) (session : Session) : Prop where
  chained : Chained .none (changes seen) session.announced
  stands : session.StandsAt (Log.of seen).state
  silent : session.phase ≠ .over → outcomes seen = []
  ended : session.phase = .over → HasEnded seen

theorem standsAt_of_isBusy {state : UpgradeState} (busy : session.phase.isBusy = true) :
    session.StandsAt state ↔ session.state = state := by
  cases phaseEq : session.phase <;> simp [StandsAt, Phase.isBusy, Phase.isWorking, phaseEq] at busy ⊢

theorem announced_of_isBusy (busy : session.phase.isBusy = true) : session.announced = session.state := by
  cases phaseEq : session.phase <;> simp [announced, Phase.isBusy, Phase.isWorking, phaseEq] at busy ⊢

theorem ne_over_of_isBusy {phase : Phase} (busy : phase.isBusy = true) : phase ≠ .over := by
  rintro rfl
  cases busy

namespace Reported

/-- A step of which the owner learns neither a change nor an outcome. -/
theorem quietly (reported : Reported seen session) {noticed : List Happening} {next : Session}
    (unchanged : changes noticed = []) (unended : outcomes noticed = [])
    (announcedEq : next.announced = session.announced)
    (stands : next.StandsAt (Log.of (seen ++ noticed)).state) (going : session.phase ≠ .over)
    (goesOn : next.phase ≠ .over) : Reported (seen ++ noticed) next where
  chained := by
    rw [changes_append, unchanged, List.append_nil, announcedEq]
    exact reported.chained
  stands := stands
  silent _ := by rw [outcomes_append, unended, List.append_nil, reported.silent going]
  ended atEnd := absurd atEnd goesOn

theorem began (reported : Reported seen session) {task : Task}
    (phaseEq : session.phase = .performing task) :
    Reported (seen ++ [.began task]) (session.perform task) := by
  have busy := isBusy_perform task session
  have stateEq : (session.perform task).state = session.state :=
    (congrArg Session.state (steady_perform task session) :)
  have stands := reported.stands
  simp only [StandsAt, phaseEq] at stands
  refine reported.quietly rfl rfl ?_ ?_ (by simp [phaseEq]) (ne_over_of_isBusy busy)
  · rw [announced_of_isBusy busy, stateEq, announced, phaseEq]
  · rw [standsAt_of_isBusy busy, stateEq, Log.of_append, Log.addAll_cons, Log.addAll_nil,
      Log.state_began, stands]

theorem worked (reported : Reported seen session) (working : session.phase.isWorking = true)
    (reply : Reply) : Reported (seen ++ session.notices reply) (session.feed reply) := by
  have busy := Phase.isBusy_of_isWorking working
  have busyNow := isBusy_feed working reply
  have stateEq : (session.feed reply).state = session.state :=
    (congrArg Session.state (steady_feed_of_working working reply) :)
  obtain ⟨unchanged, unended⟩ := unreported_of_working working reply
  refine reported.quietly unchanged unended ?_ ?_ (ne_over_of_isBusy busy) (ne_over_of_isBusy busyNow)
  · rw [announced_of_isBusy busy, announced_of_isBusy busyNow, stateEq]
  · rw [standsAt_of_isBusy busyNow, stateEq, Log.of_append, Log.state, begun_of_working working]
    exact (standsAt_of_isBusy busy).mp reported.stands

theorem returned (reported : Reported seen session) {result : Except Error (List Task)}
    (phaseEq : session.phase = .performed result) :
    Reported (seen ++ [.returned result]) (session.conclude result) := by
  have stands : session.state = (Log.of (seen ++ [.returned result])).state := by
    have before := reported.stands
    simp only [StandsAt, phaseEq] at before
    rw [Log.of_append]
    exact before
  have announcedEq : session.announced = session.state := by rw [announced, phaseEq]
  refine reported.quietly rfl rfl ?_ ?_ (by simp [phaseEq]) ?_
  · rw [announcedEq]
    simp only [conclude]
    repeat' split
    all_goals rfl
  · simp only [conclude]
    repeat' split
    all_goals simp [StandsAt, SessionNote.isOutcome, SessionNote.state?, stands]
  · simp only [conclude]
    repeat' split
    all_goals simp

theorem concluded (reported : Reported seen session) (phaseEq : session.phase = .concluding) :
    Reported (seen ++ []) { session with phase := .reporting session.outcome } := by
  have stands := reported.stands
  simp only [StandsAt, phaseEq] at stands
  refine reported.quietly rfl rfl ?_ ?_ (by simp [phaseEq]) (by simp)
  · simp [announced, phaseEq]
  · rw [List.append_nil]
    by_cases canceled : session.canceled = true
    · simp [StandsAt, outcome, canceled, SessionNote.isOutcome, SessionNote.state?, stands]
    · simp [StandsAt, outcome, canceled, SessionNote.isOutcome, SessionNote.state?, stands]

theorem reporting (reported : Reported seen session) {note : SessionNote}
    (phaseEq : session.phase = .reporting note) :
    Reported (seen ++ [.told note])
      { session with finished := true, queue := session.queue.clear, phase := .over } := by
  have stands := reported.stands
  simp only [StandsAt, phaseEq] at stands
  obtain ⟨stateEq, isOutcome, named⟩ := stands
  have silent := reported.silent (by simp [phaseEq])
  have unchanged : changes [.told note] = [] := by
    cases note <;> first | rfl | cases isOutcome
  refine ⟨?_, ?_, fun going => absurd rfl going, fun _ => ⟨seen, note, rfl, silent, isOutcome, named⟩⟩
  · have chained := reported.chained
    rw [announced, phaseEq] at chained
    rw [changes_append, unchanged, List.append_nil]
    exact chained
  · rw [Log.of_append]
    cases note <;> exact stateEq

/-- A change of state is announced. -/
theorem announcing (reported : Reported seen session) {before : UpgradeState} {task : Task}
    (phaseEq : session.phase = .announcing before task) :
    Reported (seen ++ [.told (.state before task.state)]) { session with phase := .performing task } := by
  have stands := reported.stands
  simp only [StandsAt, phaseEq] at stands
  obtain ⟨differs, stateEq⟩ := stands
  refine ⟨?_, stateEq, fun _ => ?_, fun atEnd => by cases atEnd⟩
  · have chained := reported.chained
    rw [announced, phaseEq] at chained
    rw [changes_append]
    have extended := chained.concat differs
    rwa [← stateEq] at extended ⊢
  · rw [outcomes_append, reported.silent (by simp [phaseEq])]
    rfl

theorem feed (reported : Reported seen session) (reply : Reply) :
    Reported (seen ++ session.notices reply) (session.feed reply) := by
  have turn := turn_feed session reply
  generalize session.notices reply = noticed, session.feed reply = next at turn ⊢
  have stands := reported.stands
  cases turn with
  | stayed => rwa [List.append_nil]
  | opened phaseEq =>
      simp only [StandsAt, phaseEq] at stands
      refine reported.quietly rfl rfl ?_ ?_ (by simp [phaseEq]) (by simp)
      · simp [announced, phaseEq]
      · rw [Log.of_append]
        exact stands
  | took phaseEq _ | emptied phaseEq _ =>
      simp only [StandsAt, phaseEq] at stands
      refine reported.quietly rfl rfl ?_ ?_ (by simp [phaseEq]) (by simp)
      · simp [announced, phaseEq]
      · rw [List.append_nil]
        exact stands
  | entered phaseEq nextEq =>
      rcases nextEq with ⟨same, rfl⟩ | ⟨differs, rfl⟩
      · refine reported.quietly rfl rfl ?_ rfl (by simp [phaseEq]) (by simp)
        simp [announced, phaseEq, same]
      · refine reported.quietly rfl rfl ?_ ⟨differs, rfl⟩ (by simp [phaseEq]) (by simp)
        simp [announced, phaseEq]
  | announced phaseEq => exact reported.announcing phaseEq
  | began phaseEq => exact reported.began phaseEq
  | worked working => exact reported.worked working reply
  | returned phaseEq => exact reported.returned phaseEq
  | concluded phaseEq => exact reported.concluded phaseEq
  | reported phaseEq => exact reported.reporting phaseEq

/-- Of requests the owner learns nothing. -/
theorem sent (reported : Reported seen session) {packets : List Bytes}
    (ends : session.phase = .over → packets = []) :
    Reported (seen ++ packets.map .sent) session where
  chained := by
    rw [changes_append, changes_sent, List.append_nil]
    exact reported.chained
  stands := by
    rw [Log.of_append, Log.addAll_sent]
    exact reported.stands
  silent going := by rw [outcomes_append, outcomes_sent, List.append_nil, reported.silent going]
  ended atEnd := by
    rw [ends atEnd, List.map_nil, List.append_nil]
    exact reported.ended atEnd

theorem signal (reported : Reported seen session) (signal : Signal) :
    Reported seen (session.signal signal).2 := by
  have stateEq := (outside_signal signal session).1
  have stands := reported.stands
  have chained := reported.chained
  rcases (signaled_signal signal session).phase with phaseEq | ⟨job, phaseEq, nextEq⟩
  · refine ⟨?_, ?_, fun going => reported.silent (phaseEq ▸ going), fun atEnd => reported.ended (phaseEq ▸ atEnd)⟩
    · rwa [announced, phaseEq, stateEq]
    · rwa [StandsAt, phaseEq, stateEq]
  · refine ⟨?_, ?_, fun _ => reported.silent (by simp [phaseEq]), fun atEnd => ?_⟩
    · rw [announced, phaseEq] at chained
      rw [announced, nextEq, stateEq]
      exact chained
    · rw [StandsAt, phaseEq] at stands
      rw [StandsAt, nextEq, stateEq]
      exact stands
    · cases nextEq.symm.trans atEnd

end Reported

/-- A session that is over sends nothing. -/
theorem hands_of_over {reply : Reply} (atEnd : (session.feed reply).phase = .over) :
    machine.hands session (.reply reply) = [] := by
  rcases machine.hands_reply reply session with none | ⟨packet, -, needs⟩
  · exact none
  · simp [machine, need, atEnd, Need.packet?] at needs

theorem reported_after (phaseEq : origin.phase = .starting) (stateEq : origin.state = .none)
    (events : List Event) : Reported (history events origin) (machine.after events origin) := by
  have initially : Reported [] origin := by
    refine ⟨?_, ?_, fun _ => rfl, fun atEnd => by cases phaseEq.symm.trans atEnd⟩
    · rw [announced, phaseEq, stateEq]
      exact .nil .none
    · rw [StandsAt, phaseEq, stateEq]
      rfl
  refine Machine.trace_invariant Reported initially ?_ events
  rintro seen event state reported
  cases event with
  | reply reply =>
      rw [happenings, ← List.append_assoc]
      exact (reported.feed reply).sent fun atEnd => hands_of_over atEnd
  | signal signal =>
      rw [happenings, List.append_nil]
      exact reported.signal signal

/-! ## Cancels -/

/-- Whether a session that was canceled at a task can only say that it was canceled there. -/
def EndsAt (session : Session) (task : Task) : Prop :=
  match session.phase with
  | .starting => False
  | .entering next => next = task
  | .announcing _ next | .performing next => next = task ∧ session.state = task.state
  | .reporting note => note = .canceled task.state
  | .over => True
  | _ => session.state = task.state

/-- A session that was canceled while a task was at hand, the last one that begins. -/
structure Doomed (task : Task) (begun : List Task) (seen : List Happening) (session : Session) :
    Prop where
  canceled : session.canceled = true
  empty : session.queue.tasks = []
  begunEq : (Log.of seen).begun ++ session.phase.taken = begun
  ends : session.EndsAt task
  named : ∀ note ∈ outcomes seen, note = .canceled task.state

theorem endsAt_of_isBusy {task : Task} (busy : session.phase.isBusy = true) :
    session.EndsAt task ↔ session.state = task.state := by
  cases phaseEq : session.phase <;> simp [EndsAt, Phase.isBusy, Phase.isWorking, phaseEq] at busy ⊢

theorem taken_of_isBusy {phase : Phase} (busy : phase.isBusy = true) : phase.taken = [] := by
  cases phase <;> first | rfl | cases busy

namespace Doomed

variable {task : Task} {begun : List Task}

theorem quietly (doomed : Doomed task begun seen session) {noticed : List Happening} {next : Session}
    (unended : outcomes noticed = []) (canceledEq : next.canceled = session.canceled)
    (queueEq : next.queue = session.queue)
    (begunEq : (Log.of (seen ++ noticed)).begun ++ next.phase.taken =
      (Log.of seen).begun ++ session.phase.taken)
    (ends : next.EndsAt task) : Doomed task begun (seen ++ noticed) next where
  canceled := canceledEq.trans doomed.canceled
  empty := queueEq ▸ doomed.empty
  begunEq := begunEq.trans doomed.begunEq
  ends := ends
  named note member := by
    rw [outcomes_append, unended, List.append_nil] at member
    exact doomed.named note member

theorem began (doomed : Doomed task begun seen session) {next : Task}
    (phaseEq : session.phase = .performing next) :
    Doomed task begun (seen ++ [.began next]) (session.perform next) := by
  have busy := isBusy_perform next session
  have steadyEq := steady_perform next session
  have ends := doomed.ends
  simp only [EndsAt, phaseEq] at ends
  refine doomed.quietly rfl (congrArg Session.canceled steadyEq :) (congrArg Session.queue steadyEq :) ?_ ?_
  · rw [taken_of_isBusy busy, phaseEq]
    simp [Log.of_append, Log.add, Phase.taken]
  · rw [endsAt_of_isBusy busy]
    exact (congrArg Session.state steadyEq).trans ends.2

theorem worked (doomed : Doomed task begun seen session) (working : session.phase.isWorking = true)
    (reply : Reply) : Doomed task begun (seen ++ session.notices reply) (session.feed reply) := by
  have busy := Phase.isBusy_of_isWorking working
  have busyNow := isBusy_feed working reply
  have steadyEq := steady_feed_of_working working reply
  refine doomed.quietly (unreported_of_working working reply).2 (congrArg Session.canceled steadyEq :)
    (congrArg Session.queue steadyEq :) ?_ ?_
  · rw [Log.of_append, begun_of_working working, taken_of_isBusy busy, taken_of_isBusy busyNow]
  · rw [endsAt_of_isBusy busyNow]
    exact (congrArg Session.state steadyEq).trans ((endsAt_of_isBusy busy).mp doomed.ends)

/-- Whatever becomes of the task, its session goes on to say that it was canceled. -/
theorem returned (doomed : Doomed task begun seen session) {result : Except Error (List Task)}
    (phaseEq : session.phase = .performed result) :
    Doomed task begun (seen ++ [.returned result]) (session.conclude result) := by
  have ends := doomed.ends
  simp only [EndsAt, phaseEq] at ends
  have canceled := doomed.canceled
  cases result with
  | ok found =>
      simp only [conclude, canceled, if_true]
      refine doomed.quietly rfl canceled.symm rfl ?_ ends
      simp [phaseEq, Phase.taken, Log.of_append, Log.add]
  | error failure =>
      simp only [conclude, canceled, if_true]
      refine doomed.quietly rfl canceled.symm rfl ?_ ?_
      · simp [phaseEq, Phase.taken, Log.of_append, Log.add]
      · simp [EndsAt, ends]

theorem reported (doomed : Doomed task begun seen session) {note : SessionNote}
    (phaseEq : session.phase = .reporting note) :
    Doomed task begun (seen ++ [.told note])
      { session with finished := true, queue := session.queue.clear, phase := .over } := by
  have ends := doomed.ends
  simp only [EndsAt, phaseEq] at ends
  subst ends
  refine ⟨doomed.canceled, rfl, ?_, trivial, fun other member => ?_⟩
  · have begunEq := doomed.begunEq
    rw [phaseEq] at begunEq
    rw [Log.of_append]
    exact begunEq
  · rw [outcomes_append, List.mem_append] at member
    rcases member with earlier | last
    · exact doomed.named other earlier
    · exact List.mem_singleton.mp last

theorem feed (doomed : Doomed task begun seen session) (reply : Reply) :
    Doomed task begun (seen ++ session.notices reply) (session.feed reply) := by
  have turn := turn_feed session reply
  generalize session.notices reply = noticed, session.feed reply = next at turn ⊢
  have ends := doomed.ends
  cases turn with
  | stayed => rwa [List.append_nil]
  | opened phaseEq => simp [EndsAt, phaseEq] at ends
  | took phaseEq tasksEq uncanceled => cases doomed.canceled.symm.trans uncanceled
  | emptied phaseEq _ =>
      simp only [EndsAt, phaseEq] at ends
      refine doomed.quietly rfl rfl rfl ?_ ends
      simp [phaseEq, Phase.taken]
  | entered phaseEq nextEq =>
      simp only [EndsAt, phaseEq] at ends
      subst ends
      rcases nextEq with ⟨-, rfl⟩ | ⟨-, rfl⟩
      · refine doomed.quietly rfl rfl rfl ?_ ⟨rfl, rfl⟩
        simp [phaseEq, Phase.taken]
      · refine doomed.quietly rfl rfl rfl ?_ ⟨rfl, rfl⟩
        simp [phaseEq, Phase.taken]
  | announced phaseEq =>
      simp only [EndsAt, phaseEq] at ends
      refine doomed.quietly rfl rfl rfl ?_ ends
      simp [phaseEq, Phase.taken, Log.of_append, Log.add]
  | began phaseEq => exact doomed.began phaseEq
  | worked working => exact doomed.worked working reply
  | returned phaseEq => exact doomed.returned phaseEq
  | concluded phaseEq =>
      simp only [EndsAt, phaseEq] at ends
      refine doomed.quietly rfl rfl rfl ?_ ?_
      · simp [phaseEq, Phase.taken]
      · simp [EndsAt, outcome, doomed.canceled, ends]
  | reported phaseEq => exact doomed.reported phaseEq

theorem sent (doomed : Doomed task begun seen session) (packets : List Bytes) :
    Doomed task begun (seen ++ packets.map .sent) session where
  canceled := doomed.canceled
  empty := doomed.empty
  begunEq := by
    rw [Log.of_append, Log.addAll_sent]
    exact doomed.begunEq
  ends := doomed.ends
  named note member := by
    rw [outcomes_append, outcomes_sent, List.append_nil] at member
    exact doomed.named note member

theorem signal (doomed : Doomed task begun seen session) (signal : Signal) :
    Doomed task begun seen (session.signal signal).2 := by
  have signaled := signaled_signal signal session
  have stateEq := (outside_signal signal session).1
  have begunEq := doomed.begunEq
  have ends := doomed.ends
  obtain ⟨canceled, empty⟩ : (session.signal signal).2.canceled = true ∧
      (session.signal signal).2.queue.tasks = [] := by
    rcases signaled.queue with ⟨queueEq, canceledEq⟩ | ⟨-, queueEq, canceledEq⟩
    · exact ⟨canceledEq.trans doomed.canceled, queueEq ▸ doomed.empty⟩
    · exact ⟨canceledEq, queueEq ▸ rfl⟩
  rcases signaled.phase with phaseEq | ⟨job, phaseEq, nextEq⟩
  · refine ⟨canceled, empty, phaseEq ▸ begunEq, ?_, doomed.named⟩
    rwa [EndsAt, phaseEq, stateEq]
  · rw [phaseEq] at begunEq
    rw [EndsAt, phaseEq] at ends
    refine ⟨canceled, empty, nextEq ▸ begunEq, ?_, doomed.named⟩
    rw [EndsAt, nextEq, stateEq]
    exact ends

end Doomed

/-- Whether a task was taken and has not returned. -/
def IsAt (session : Session) (log : Log) (task : Task) : Prop :=
  session.phase.taken = [task] ∨
    log.begun.getLast? = some task ∧ log.returned.length < log.begun.length

/-- A task that has begun and has not returned is on its way. -/
theorem isBusy_of_unreturned {log : Log} (course : Course origin log session)
    (unreturned : log.returned.length < log.begun.length) : session.phase.isBusy = true := by
  cases course with
  | resting stage well => exact absurd well.1 (Nat.ne_of_lt unreturned)
  | working stage begunEq well awaits serves => exact isBusy_of_serves serves
  | failed stage begunEq returnedEq well =>
      rw [begunEq, returnedEq, List.length_append, List.length_append, well.1] at unreturned
      exact absurd unreturned (Nat.lt_irrefl _)
  | concluded stage well => exact absurd well.1 (Nat.ne_of_lt unreturned)

theorem ne_over_of_isAt {log : Log} (course : Course origin log session) {task : Task}
    (isAt : session.IsAt log task) : session.phase ≠ .over := by
  rcases isAt with taken | ⟨-, unreturned⟩
  · intro atEnd
    simp [Phase.taken, atEnd] at taken
  · exact ne_over_of_isBusy (isBusy_of_unreturned course unreturned)

theorem endsAt_of_isAt (reported : Reported seen session)
    (course : Course origin (Log.of seen) session) {task : Task}
    (isAt : session.IsAt (Log.of seen) task) : session.EndsAt task := by
  have stands := reported.stands
  rcases isAt with taken | ⟨last, unreturned⟩
  · cases phaseEq : session.phase with
    | entering next =>
        rw [phaseEq] at taken
        rw [EndsAt, phaseEq]
        exact List.singleton_inj.mp taken
    | announcing before next | performing next =>
        rw [phaseEq] at taken
        rw [StandsAt, phaseEq] at stands
        rw [EndsAt, phaseEq]
        obtain rfl := List.singleton_inj.mp taken
        first | exact ⟨rfl, stands⟩ | exact ⟨rfl, stands.2⟩
    | _ => simp [Phase.taken, phaseEq] at taken
  · have busy := isBusy_of_unreturned course unreturned
    rw [endsAt_of_isBusy busy, (standsAt_of_isBusy busy).mp stands, Log.state, last]
    rfl

/-- The queue of a session that was canceled at a task is empty. -/
theorem empty_of_isAt {log : Log} (course : Course origin log session)
    (canceled : session.canceled = true) {task : Task} (isAt : session.IsAt log task) :
    session.queue.tasks = [] := by
  have held : session.phase.taken = [task] ∨ session.phase.isBusy = true :=
    isAt.imp_right fun begun => isBusy_of_unreturned course begun.2
  cases course with
  | resting stage well awaits rests => exact (awaits.canceled canceled).1
  | working stage begunEq well awaits serves => exact (awaits.canceled canceled).1
  | failed stage begunEq returnedEq well ends =>
      cases phaseEq : session.phase <;>
        simp [HasFailed, Phase.taken, Phase.isBusy, Phase.isWorking, phaseEq] at ends held
  | concluded stage well ends =>
      cases phaseEq : session.phase <;>
        simp [HasConcluded, Phase.taken, Phase.isBusy, Phase.isWorking, phaseEq] at ends held

theorem canceled_of_cancel (unfinished : session.finished = false) :
    (session.signal .cancel).2.canceled = true := by
  simp only [Session.signal]
  split
  · rename_i refused
    simpa [unfinished] using refused
  · simp only [signalUpload]
    split <;> rfl

/-- A cancel at a task dooms the session, whether it is the first one or not. -/
theorem doomed_of_cancel (reported : Reported seen session)
    (course : Course origin (Log.of seen) session)
    (atEnd : session.finished = true → session.phase = .over) {task : Task}
    (isAt : session.IsAt (Log.of seen) task) :
    Doomed task ((Log.of seen).begun ++ session.phase.taken) seen (session.signal .cancel).2 := by
  have going := ne_over_of_isAt course isAt
  have ends := endsAt_of_isAt reported course isAt
  have signaled := signaled_signal .cancel session
  have stateEq := (outside_signal .cancel session).1
  have unfinished : session.finished = false := by
    by_contra finished
    exact going (atEnd (Bool.not_eq_false _ ▸ finished))
  have canceled := canceled_of_cancel unfinished
  have empty : (session.signal .cancel).2.queue.tasks = [] := by
    rcases signaled.queue with ⟨queueEq, canceledEq⟩ | ⟨-, queueEq, -⟩
    · rw [queueEq]
      exact empty_of_isAt course (canceledEq.symm.trans canceled) isAt
    · rw [queueEq]
      rfl
  have unnamed : ∀ note ∈ outcomes seen, note = .canceled task.state := by
    rw [reported.silent going]
    exact fun note member => absurd member List.not_mem_nil
  rcases signaled.phase with phaseEq | ⟨job, phaseEq, nextEq⟩
  · refine ⟨canceled, empty, by rw [phaseEq], ?_, unnamed⟩
    rwa [EndsAt, phaseEq, stateEq]
  · refine ⟨canceled, empty, by rw [phaseEq, nextEq]; rfl, ?_, unnamed⟩
    rw [EndsAt, phaseEq] at ends
    rw [EndsAt, nextEq, stateEq]
    exact ends

theorem doomed_after {task : Task} {begun : List Task} (doomed : Doomed task begun seen session)
    (events : List Event) :
    Doomed task begun (seen ++ history events session) (machine.after events session) := by
  refine Machine.trace_invariant (fun later state => Doomed task begun (seen ++ later) state)
    (by rwa [List.append_nil]) ?_ events
  rintro later event state doomed
  rw [← List.append_assoc]
  cases event with
  | reply reply =>
      rw [happenings, ← List.append_assoc]
      exact (doomed.feed reply).sent _
  | signal signal =>
      rw [happenings, List.append_nil]
      exact doomed.signal signal

/-- A session whose task has returned after a cancel needs nothing more to end. -/
theorem Doomed.isOver {task : Task} {begun : List Task} (doomed : Doomed task begun seen session)
    {result : Except Error (List Task)} (phaseEq : session.phase = .performed result) :
    (machine.after (goingOn 4) session).IsOver := by
  rw [isOver_iff]
  cases result with
  | ok found =>
      simp [goingOn, List.replicate, Machine.after, Machine.take, machine, Session.feed, phaseEq, conclude,
        choose, doomed.canceled]
  | error failure =>
      simp [goingOn, List.replicate, Machine.after, Machine.take, machine, Session.feed, phaseEq, conclude,
        doomed.canceled]

/-! ## All reports -/

/-- Whether what a session reports is in order. -/
structure Reports (origin : Session) (events : List Event) : Prop where
  /-- The changes of state form a chain. -/
  chained : ∃ last, Chained .none (changes (history events origin)) last
  /-- The outcome is told once when the session is over, and never before. -/
  once : (machine.after events origin).IsOver ∧ (∃ note, outcomes (history events origin) = [note]) ∨
    ¬ (machine.after events origin).IsOver ∧ outcomes (history events origin) = []
  /-- Nothing happens after the outcome, which names the state of the task that has begun last. -/
  last : ∀ before note after, history events origin = before ++ .told note :: after →
    note.isOutcome = true → after = [] ∧ ∀ state ∈ note.state?, state = (Log.of before).state
  /-- A session that is canceled while a task is at hand performs no other one, ends when the task has
  returned, and says that it was canceled in the state of the task. -/
  canceled : ∀ first later task, events = first ++ .signal .cancel :: later →
    (machine.after first origin).IsAt (Log.of (history first origin)) task →
    (Log.of (history events origin)).begun <+:
        (Log.of (history first origin)).begun ++ (machine.after first origin).phase.taken ∧
      (∀ note ∈ outcomes (history events origin), note = .canceled task.state) ∧
      ∀ result, (machine.after events origin).phase = .performed result →
        (machine.after (events ++ goingOn 4) origin).IsOver

/-- What an upgrade reports is in order, whatever the device, the link and the owner do. -/
theorem reports_of_start {scheme : Scheme} {mtu : Nat} {settings : UpgradeSettings}
    {images : ImageSet} {mode : UpgradeMode} {seq : UInt8}
    (started : start scheme mtu settings images mode seq = .ok origin) (events : List Event) :
    Reports origin events := by
  have fresh := isFresh_of_start started
  have stateEq : origin.state = .none := by rw [eq_of_start started]
  have unfinished : origin.finished = false := by rw [eq_of_start started]
  have reported := reported_after fresh.phaseEq stateEq events
  refine ⟨⟨_, reported.chained⟩, ?_, ?_, ?_⟩
  · rw [isOver_iff]
    by_cases atEnd : (machine.after events origin).phase = .over
    · obtain ⟨earlier, note, seenEq, silent, isOutcome, -⟩ := reported.ended atEnd
      refine .inl ⟨atEnd, note, ?_⟩
      rw [seenEq, outcomes_append, silent]
      simp [outcomes, Happening.outcome?, isOutcome]
    · exact .inr ⟨atEnd, reported.silent atEnd⟩
  · intro before note after split isOutcome
    have told : note ∈ outcomes (history events origin) := by
      rw [split]
      simp [outcomes, Happening.outcome?, isOutcome]
    by_cases atEnd : (machine.after events origin).phase = .over
    · obtain ⟨earlier, final, seenEq, silent, -, named⟩ := reported.ended atEnd
      rw [split] at seenEq
      rcases List.eq_nil_or_concat after with rfl | ⟨more, other, rfl⟩
      · obtain ⟨rfl, same⟩ := List.append_inj' seenEq rfl
        cases same
        exact ⟨rfl, named⟩
      · -- The note would be one of those before the outcome.
        rw [List.concat_eq_append, ← List.cons_append, ← List.append_assoc] at seenEq
        rw [← (List.append_inj' seenEq rfl).1] at silent
        simp [outcomes, Happening.outcome?, isOutcome] at silent
    · rw [reported.silent atEnd] at told
      cases told
  · rintro first later task rfl isAt
    have historyEq : history (first ++ .signal .cancel :: later) origin = history first origin ++
        history later ((machine.after first origin).signal .cancel).2 := by
      rw [history, Machine.trace_append, Machine.trace_cons]
      rfl
    have afterEq : machine.after (first ++ .signal .cancel :: later) origin =
        machine.after later ((machine.after first origin).signal .cancel).2 := by
      simp [Machine.after, Machine.take, machine]
    have doomed := doomed_after (doomed_of_cancel (reported_after fresh.phaseEq stateEq first)
      (course_after fresh first).1 (over_of_finished unfinished first) isAt) later
    rw [← historyEq, ← afterEq] at doomed
    refine ⟨?_, doomed.named, fun result phaseEq => ?_⟩
    · rw [← doomed.begunEq]
      exact List.prefix_append _ _
    · rw [Machine.after, List.foldl_append]
      exact doomed.isOver phaseEq

/-- The upgrade is canceled while the device is asked to test the image. -/
def canceledInTest : List Event :=
  goingOn 5 ++ [answering .readResponse .os 0 8 (.record [("rc", .nat 8)])] ++
    goingOn 1 ++ [listing .readResponse 1 { hash := [7] }] ++ goingOn 5 ++ [.signal .cancel] ++
    [listing .writeResponse 2 { hash := [7], pending := true }] ++ goingOn 4

theorem reports_canceledInTest :
    start .ble 65 { disconnectTimeout := 0 } ⟨[oneByteImage]⟩ .testAndConfirm 0 = .ok oneByteStart ∧
      Reports oneByteStart canceledInTest ∧
      (Log.of (history canceledInTest oneByteStart)).begun = [.validate 0, .test oneByteImage] ∧
      changes (history canceledInTest oneByteStart) = [(.none, .validate), (.validate, .test)] ∧
      (outcomes (history canceledInTest oneByteStart)).map SessionNote.name = ["canceled"] := by
  have started : start .ble 65 { disconnectTimeout := 0 } ⟨[oneByteImage]⟩ .testAndConfirm 0 =
      .ok oneByteStart := rfl
  exact ⟨started, reports_of_start started canceledInTest, by decide +kernel, by decide +kernel,
    by decide +kernel⟩

end Session

end SmpClient
