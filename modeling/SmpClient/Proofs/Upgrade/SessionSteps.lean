import Mathlib.Tactic.SplitIfs
import SmpClient.Proofs.Upgrade.History

/-!
# The steps of a session

A session goes through its tasks one at a time.  It takes one, performs it with the help of the device,
and queues the tasks that it has found.
-/

namespace SmpClient

namespace Session

/-- The task that was taken and has not begun. -/
def Phase.taken : Phase → List Task
  | .entering task | .announcing _ task | .performing task => [task]
  | _ => []

/-- Whether a task is on its way. -/
def Phase.isWorking : Phase → Bool
  | .inspecting _ _ | .asking _ _ | .connecting _ | .uploading _ | .awaitingDrop | .swapping _ => true
  | _ => false

/-- What a reply can do to a session, and what is seen of it. -/
inductive Turn (session : Session) (reply : Reply) : List Happening → Session → Prop
  | stayed : Turn session reply [] session
  | opened (phaseEq : session.phase = .starting) :
      Turn session reply [.told .started] { session with phase := .choosing }
  | took {task : Task} {rest : List Task} (phaseEq : session.phase = .choosing)
      (tasksEq : session.queue.tasks = task :: rest) (uncanceled : session.canceled = false) :
      Turn session reply [] { session with queue := ⟨rest⟩, phase := .entering task }
  | emptied (phaseEq : session.phase = .choosing)
      (ends : session.canceled = false → session.queue.tasks = []) :
      Turn session reply [] { session with phase := .concluding }
  | entered {task : Task} {next : Phase} (phaseEq : session.phase = .entering task)
      (nextEq : session.state = task.state ∧ next = .performing task ∨
        session.state ≠ task.state ∧ next = .announcing session.state task) :
      Turn session reply [] { session with state := task.state, phase := next }
  | announced {before : UpgradeState} {task : Task}
      (phaseEq : session.phase = .announcing before task) :
      Turn session reply [.told (.state before task.state)] { session with phase := .performing task }
  | began {task : Task} (phaseEq : session.phase = .performing task) :
      Turn session reply [.began task] (session.perform task)
  | worked (working : session.phase.isWorking = true) :
      Turn session reply (session.notices reply) (session.feed reply)
  | returned {result : Except Error (List Task)} (phaseEq : session.phase = .performed result) :
      Turn session reply [.returned result] (session.conclude result)
  | concluded (phaseEq : session.phase = .concluding) :
      Turn session reply [] { session with phase := .reporting session.outcome }
  | reported {note : SessionNote} (phaseEq : session.phase = .reporting note) :
      Turn session reply [.told note]
        { session with finished := true, queue := session.queue.clear, phase := .over }

theorem turn_choose (session : Session) (reply : Reply) (phaseEq : session.phase = .choosing) :
    Turn session reply [] session.choose := by
  rw [choose]
  split
  · rename_i canceled
    exact .emptied phaseEq (by simp [canceled])
  · rename_i uncanceled
    split
    · exact .stayed
    · cases tasksEq : session.queue.tasks with
      | nil =>
          simp only [TaskQueue.pop, tasksEq]
          exact .emptied phaseEq fun _ => tasksEq
      | cons task rest =>
          simp only [TaskQueue.pop, tasksEq]
          exact .took phaseEq tasksEq (Bool.not_eq_true _ ▸ uncanceled)

/-- While no task is on its way a session only ever waits to go on. -/
theorem stays_of_ne_ready {session : Session} (idle : session.phase.isWorking = false) {reply : Reply}
    (other : reply ≠ .ready) : session.notices reply = [] ∧ session.feed reply = session := by
  cases phaseEq : session.phase with
  | inspecting _ _ | asking _ _ | connecting _ | uploading _ | awaitingDrop | swapping _ =>
      simp [Phase.isWorking, phaseEq] at idle
  | choosing =>
      simp only [notices, machine, need, feed, turns, phaseEq]
      cases reply with
      | ready => exact absurd rfl other
      | _ =>
          split
          · exact ⟨rfl, rfl⟩
          · exact ⟨rfl, rfl⟩
  | _ =>
      simp only [notices, machine, need, feed, turns, phaseEq]
      cases reply with
      | ready => exact absurd rfl other
      | _ => exact ⟨rfl, by trivial⟩

theorem turn_feed (session : Session) (reply : Reply) :
    Turn session reply (session.notices reply) (session.feed reply) := by
  by_cases working : session.phase.isWorking = true
  · exact .worked working
  by_cases ready : reply = .ready
  · subst ready
    cases phaseEq : session.phase with
    | inspecting _ _ | asking _ _ | connecting _ | uploading _ | awaitingDrop | swapping _ =>
        simp [Phase.isWorking, phaseEq] at working
    | choosing =>
        have quiet : session.notices .ready = [] := by
          simp only [notices, machine, need, turns, phaseEq]
          split <;> rfl
        simp only [quiet, feed, phaseEq]
        exact turn_choose session _ phaseEq
    | starting =>
        simp only [notices, machine, need, feed, turns, phaseEq]
        exact .opened phaseEq
    | entering task =>
        simp only [notices, machine, need, feed, turns, phaseEq, enter]
        split
        · rename_i same
          exact .entered phaseEq (.inl ⟨same, rfl⟩)
        · rename_i differs
          exact .entered phaseEq (.inr ⟨differs, rfl⟩)
    | announcing before task =>
        simp only [notices, machine, need, feed, turns, phaseEq]
        exact .announced phaseEq
    | performing task =>
        simp only [notices, machine, need, feed, turns, phaseEq]
        exact .began phaseEq
    | performed result =>
        simp only [notices, machine, need, feed, turns, phaseEq]
        exact .returned phaseEq
    | concluding =>
        simp only [notices, machine, need, feed, turns, phaseEq]
        exact .concluded phaseEq
    | reporting note =>
        simp only [notices, machine, need, feed, turns, phaseEq]
        exact .reported phaseEq
    | «over» =>
        simp only [notices, machine, need, feed, turns, phaseEq]
        exact .stayed
  · obtain ⟨quiet, same⟩ := stays_of_ne_ready (Bool.not_eq_true _ ▸ working) ready
    rw [quiet, same]
    exact .stayed

/-! ## What a task leaves as it is -/

/-- A session without what a task changes that is on its way: the phase, and what numbers requests and
waits for the link to go down. -/
def steady (session : Session) : Session :=
  { session with seq := 0, nextAttempt := 0, dropped := false, phase := .starting }

theorem steady_answer (question : Question) (packet : Bytes) (outcome : Except Error Response)
    (session : Session) : (session.answer question packet outcome).steady = session.steady := by
  cases question <;> simp only [answer, afterReset] <;> repeat' split
  all_goals rfl

theorem steady_ask (question : Question) (session : Session) :
    (session.ask question).steady = session.steady := by
  simp only [ask]
  split
  · rfl
  · exact steady_answer question [] _ _

theorem steady_perform (task : Task) (session : Session) :
    (session.perform task).steady = session.steady := by
  cases task with
  | upload target =>
      simp only [perform]
      split <;> rfl
  | confirmAfterReset target => rfl
  | _ => exact steady_ask _ _

theorem steady_feed_of_working {session : Session} (working : session.phase.isWorking = true)
    (reply : Reply) : (session.feed reply).steady = session.steady := by
  cases phaseEq : session.phase with
  | inspecting attempt mode =>
      cases reply <;> simp only [feed, phaseEq]
      exact steady_ask _ _
  | asking question packet =>
      cases reply <;> simp only [feed, phaseEq]
      exact steady_answer _ _ _ _
  | connecting target =>
      cases reply <;> simp only [feed, phaseEq]
      rename_i outcome
      cases outcome with
      | error failure => rfl
      | ok connected => exact steady_ask _ _
  | uploading job =>
      simp only [feed, phaseEq]
      split <;> rfl
  | awaitingDrop =>
      cases reply <;> simp only [feed, phaseEq, afterDrop] <;> repeat' split
      all_goals rfl
  | swapping milliseconds =>
      cases reply <;> simp only [feed, phaseEq]
      rfl
  | _ => simp [Phase.isWorking, phaseEq] at working

/-- What later tasks depend on. -/
def frame (session : Session) :
    (Scheme × UpgradeSettings × List TargetImage × UpgradeMode) × TaskQueue × Bool :=
  (session.brief, session.queue, session.canceled)

theorem frame_perform (task : Task) (session : Session) :
    (session.perform task).frame = session.frame :=
  (congrArg frame (steady_perform task session) :)

theorem frame_feed_of_working {session : Session} (working : session.phase.isWorking = true)
    (reply : Reply) : (session.feed reply).frame = session.frame :=
  (congrArg frame (steady_feed_of_working working reply) :)

/-- After a task a session chooses the next one or reports its end.  All else that may change is the
queue. -/
theorem conclude_cases (result : Except Error (List Task)) (session : Session) :
    ∃ queue phase, session.conclude result = { session with queue, phase } ∧
      (phase = .choosing ∨ ∃ note, phase = .reporting note) := by
  simp only [conclude]
  repeat' split
  · exact ⟨_, _, rfl, .inl rfl⟩
  · exact ⟨_, _, rfl, .inl rfl⟩
  · exact ⟨_, _, rfl, .inr ⟨_, rfl⟩⟩
  · exact ⟨_, _, rfl, .inr ⟨_, rfl⟩⟩
  · exact ⟨_, _, rfl, .inr ⟨_, rfl⟩⟩

/-- What the owner of a session has told it, before it started and since. -/
def orders (session : Session) :
    (Scheme × UpgradeSettings × List TargetImage × UpgradeMode) × Bool × Bool :=
  (session.brief, session.paused, session.canceled)

/-- No reply changes what a session was told. -/
theorem orders_feed (session : Session) (reply : Reply) :
    (session.feed reply).orders = session.orders := by
  have turn := turn_feed session reply
  generalize session.notices reply = seen, session.feed reply = next at turn
  cases turn with
  | began phaseEq => exact (congrArg orders (steady_perform _ session) :)
  | worked working => exact (congrArg orders (steady_feed_of_working working reply) :)
  | returned phaseEq =>
      obtain ⟨queue, phase, nextEq, -⟩ := conclude_cases _ session
      rw [nextEq]
      rfl
  | _ => rfl

theorem brief_feed (session : Session) (reply : Reply) :
    (session.feed reply).brief = session.brief :=
  congrArg Prod.fst (orders_feed session reply)

theorem paused_feed (session : Session) (reply : Reply) :
    (session.feed reply).paused = session.paused :=
  congrArg (fun orders => orders.2.1) (orders_feed session reply)

theorem canceled_feed (session : Session) (reply : Reply) :
    (session.feed reply).canceled = session.canceled :=
  congrArg (fun orders => orders.2.2) (orders_feed session reply)

/-! ## Signals -/

/-- What a signal does to a session. -/
structure Signaled (signal : Signal) (session next : Session) : Prop where
  briefEq : next.brief = session.brief
  phase : next.phase = session.phase ∨
    ∃ job, session.phase = .uploading job ∧ next.phase = .uploading (job.signal signal).2
  queue : next.queue = session.queue ∧ next.canceled = session.canceled ∨
    signal = .cancel ∧ next.queue = session.queue.clear ∧ next.canceled = true

theorem frame_signalUpload (signal : Signal) (session : Session) :
    (session.signalUpload signal).frame = session.frame := by
  simp only [signalUpload]
  split <;> rfl

theorem phase_signalUpload (signal : Signal) (session : Session) :
    (session.signalUpload signal).phase = session.phase ∨
      ∃ job, session.phase = .uploading job ∧
        (session.signalUpload signal).phase = .uploading (job.signal signal).2 := by
  simp only [signalUpload]
  split
  · rename_i job phaseEq
    exact .inr ⟨job, phaseEq, rfl⟩
  · exact .inl rfl

theorem signaled_signal (signal : Signal) (session : Session) :
    Signaled signal session (session.signal signal).2 := by
  have unchanged : Signaled signal session session := ⟨rfl, .inl rfl, .inl ⟨rfl, rfl⟩⟩
  have passedOn (changed : Session) (phaseEq : changed.phase = session.phase)
      (briefEq : changed.brief = session.brief)
      (queue : changed.queue = session.queue ∧ changed.canceled = session.canceled ∨
        signal = .cancel ∧ changed.queue = session.queue.clear ∧ changed.canceled = true) :
      Signaled signal session (changed.signalUpload signal) := by
    have frameEq := frame_signalUpload signal changed
    simp only [frame, Prod.mk.injEq] at frameEq
    obtain ⟨briefEq', queueEq, canceledEq⟩ := frameEq
    refine ⟨briefEq'.trans briefEq, ?_, ?_⟩
    · rw [← phaseEq]
      exact phase_signalUpload signal changed
    · rw [queueEq, canceledEq]
      exact queue
  cases signal with
  | pause =>
      simp only [Session.signal]
      split
      · exact unchanged
      · exact passedOn _ rfl rfl (.inl ⟨rfl, rfl⟩)
  | resume =>
      simp only [Session.signal]
      split
      · exact passedOn _ rfl rfl (.inl ⟨rfl, rfl⟩)
      · exact unchanged
  | cancel =>
      simp only [Session.signal]
      split
      · exact unchanged
      · exact passedOn _ rfl rfl (.inr ⟨rfl, rfl, rfl⟩)
  | dropped => exact ⟨rfl, .inl rfl, .inl ⟨rfl, rfl⟩⟩

/-- No signal changes the state that the owner sees, the number of the next request, or whether the session
has ended. -/
theorem outside_signal (signal : Signal) (session : Session) :
    (session.signal signal).2.state = session.state ∧ (session.signal signal).2.seq = session.seq ∧
      (session.signal signal).2.finished = session.finished := by
  cases signal with
  | dropped => exact ⟨rfl, rfl, rfl⟩
  | _ =>
      simp only [Session.signal, signalUpload]
      repeat' split
      all_goals exact ⟨rfl, rfl, rfl⟩

/-! ## A task on its way -/

/-- Whether a request is made for a task. -/
def Question.Serves (task : Task) : Question → Prop
  | .bootloader attempt | .slots attempt _ => task = .validate attempt
  | .erase => task = .eraseStorage
  | .test target => task = .test target
  | .confirm target => task = .confirm target ∨ task = .confirmAfterReset target
  | .reset => task = .reset ∨ task = .resetBeforeUpload

/-- Whether tasks are what a task finds.  Only a look at the device finds any. -/
def Finds (session : Session) (log : Log) (task : Task) (found : List Task) : Prop :=
  match task with
  | .validate attempt =>
      ∃ slots bootloader, log.listed = some slots ∧
        (session.plan attempt slots bootloader).tasks = .ok found
  | _ => found = []

/-- Whether a task is on its way, or has just ended. -/
def Phase.Serves (origin : Session) (log : Log) (task : Task) : Phase → Prop
  | .inspecting attempt _ => task = .validate attempt
  | .asking question _ => question.Serves task
  | .connecting target => task = .confirmAfterReset target
  | .uploading _ => ∃ target, task = .upload target
  | .awaitingDrop | .swapping _ => task = .reset ∨ task = .resetBeforeUpload
  | .performed result => ∀ found, result = .ok found → origin.Finds log task found
  | _ => False

theorem erased_eq_ok {answer : Except Error Unit} {found : List Task}
    (ended : erased answer = .ok found) : found = [] := by
  rw [erased.eq_def] at ended
  split at ended
  · exact (Except.ok.inj ended).symm
  · split at ended
    · exact (Except.ok.inj ended).symm
    · cases ended
  · cases ended

theorem tested_eq_ok {target : TargetImage} {answer : Except Error ImageState} {found : List Task}
    (ended : tested target answer = .ok found) : found = [] := by
  cases answer with
  | error failure => cases ended
  | ok slots =>
      simp only [tested, bind, Except.bind] at ended
      split at ended
      · split at ended
        · exact (Except.ok.inj ended).symm
        · cases ended
      · cases ended

theorem confirmed_eq_ok {target : TargetImage} {answer : Except Error ImageState}
    {found : List Task} (ended : confirmed target answer = .ok found) : found = [] := by
  cases answer with
  | error failure => cases ended
  | ok slots =>
      simp only [confirmed, bind, Except.bind] at ended
      split at ended
      · split at ended
        · exact (Except.ok.inj ended).symm
        · cases ended
      · exact (Except.ok.inj ended).symm

variable {origin session : Session} {log : Log} {task : Task}

theorem finds_planned (briefEq : session.brief = origin.brief) {attempt : Nat}
    {mode : Option BootloaderMode} {answer : Except Error ImageState}
    (listed : ∀ slots, answer = .ok slots → log.listed = some slots) {found : List Task}
    (ended : session.planned attempt mode answer = .ok found) :
    origin.Finds log (.validate attempt) found := by
  cases answer with
  | error failure => cases ended
  | ok slots =>
      refine ⟨slots, mode, listed slots rfl, ?_⟩
      rw [← ended]
      simp only [brief, Prod.mk.injEq] at briefEq
      obtain ⟨-, settingsEq, imagesEq, modeEq⟩ := briefEq
      simp only [planned, plan, settingsEq, imagesEq, modeEq]
      rfl

theorem serves_answer (briefEq : session.brief = origin.brief) {question : Question}
    (serves : question.Serves task) {packet : Bytes} {outcome : Except Error Response}
    (listed : ∀ attempt mode slots, question = .slots attempt mode →
      Command.images.conclude session.scheme packet outcome = .ok slots → log.listed = some slots) :
    (session.answer question packet outcome).phase.Serves origin log task := by
  cases question with
  | bootloader attempt =>
      simp only [answer]
      split
      · exact serves
      · intro found ended
        cases ended
  | slots attempt mode =>
      intro found ended
      obtain rfl : task = .validate attempt := serves
      exact finds_planned briefEq (fun slots answerEq => listed attempt mode slots rfl answerEq) ended
  | erase =>
      intro found ended
      obtain rfl : task = .eraseStorage := serves
      exact erased_eq_ok ended
  | test target =>
      intro found ended
      obtain rfl : task = .test target := serves
      exact tested_eq_ok ended
  | confirm target =>
      intro found ended
      rcases serves with rfl | rfl <;> exact confirmed_eq_ok ended
  | reset =>
      simp only [answer, afterReset]
      split
      · exact serves
      · split
        · exact serves
        · intro found ended
          cases ended

theorem serves_ask (briefEq : session.brief = origin.brief) {question : Question}
    (serves : question.Serves task) : (session.ask question).phase.Serves origin log task := by
  simp only [ask]
  split
  · exact serves
  · have briefEq' : ({ session with seq := session.seq + 1 } : Session).brief = origin.brief :=
      briefEq
    refine serves_answer briefEq' serves fun attempt mode slots _ concluded => ?_
    cases concluded

theorem serves_perform (briefEq : session.brief = origin.brief) (task : Task) :
    (session.perform task).phase.Serves origin log task := by
  cases task with
  | validate attempt => exact serves_ask briefEq rfl
  | upload target =>
      simp only [perform]
      split
      · intro found ended
        cases ended
      · exact ⟨target, rfl⟩
  | eraseStorage => exact serves_ask briefEq rfl
  | test target => exact serves_ask briefEq rfl
  | confirm target => exact serves_ask briefEq (.inl rfl)
  | confirmAfterReset target => rfl
  | reset =>
      have briefEq' : ({ session with dropped := false } : Session).brief = origin.brief := briefEq
      exact serves_ask briefEq' (.inl rfl)
  | resetBeforeUpload =>
      have briefEq' : ({ session with dropped := false } : Session).brief = origin.brief := briefEq
      exact serves_ask briefEq' (.inr rfl)

/-- Only the list of images leaves something in the log while a task is on its way. -/
theorem addAll_notices_of_working (working : session.phase.isWorking = true) (reply : Reply)
    (log : Log) :
    log.addAll (session.notices reply) = log ∨
      ∃ attempt mode packet slots, session.phase = .asking (.slots attempt mode) packet ∧
        log.addAll (session.notices reply) = { log with listed := some slots, reset := false } := by
  cases phaseEq : session.phase with
  | asking question packet =>
      cases reply with
      | answer outcome =>
          cases question with
          | slots attempt mode =>
              cases concluded : Command.images.conclude session.scheme packet outcome with
              | error failure =>
                  left
                  simp [notices, machine, need, Need.notes, turns, phaseEq, concluded]
              | ok slots =>
                  right
                  refine ⟨attempt, mode, packet, slots, rfl, ?_⟩
                  simp [notices, machine, need, Need.notes, turns, phaseEq, concluded, Log.add]
          | _ => exact .inl (by simp [notices, machine, need, Need.notes, turns, phaseEq])
      | _ => exact .inl (by simp [notices, machine, need, Need.notes, turns, phaseEq])
  | uploading job =>
      left
      have progress (note : SessionNote) (told : (machine.need session).notes reply = [note]) :
          note ≠ .completed := by
        rintro rfl
        simp only [machine, need, phaseEq] at told
        split at told
        · simp [Need.notes] at told
        · cases jobNeed : job.need <;> simp [jobNeed, Need.map, Need.notes] at told
          cases reply <;> simp at told
      cases needEq : machine.need session with
      | tell note =>
          cases reply with
          | ready =>
              have silent := progress note (by simp [needEq, Need.notes])
              cases note <;> simp_all [notices, Need.notes, turns, Log.add]
          | _ => simp [notices, needEq, Need.notes, turns, phaseEq]
      | _ => simp [notices, needEq, Need.notes, turns, phaseEq]
  | inspecting _ _ | connecting _ | awaitingDrop | swapping _ =>
      left
      simp only [notices, machine, need, turns, phaseEq]
      cases reply <;> repeat' split
      all_goals rfl
  | _ => simp [Phase.isWorking, phaseEq] at working

theorem serves_of_working {phase : Phase} (working : phase.isWorking = true)
    (serves : phase.Serves origin log task) (other : Log) : phase.Serves origin other task := by
  cases phase with
  | performed result => simp [Phase.isWorking] at working
  | _ => exact serves

theorem serves_feed (briefEq : session.brief = origin.brief)
    (working : session.phase.isWorking = true) (serves : session.phase.Serves origin log task)
    (reply : Reply) :
    (session.feed reply).phase.Serves origin (log.addAll (session.notices reply)) task := by
  have unchanged : session.phase.Serves origin (log.addAll (session.notices reply)) task :=
    serves_of_working working serves _
  cases phaseEq : session.phase with
  | inspecting attempt mode =>
      rw [phaseEq] at serves unchanged
      cases reply with
      | ready =>
          simp only [feed, phaseEq]
          exact serves_ask briefEq serves
      | _ => simpa only [feed, phaseEq] using unchanged
  | asking question packet =>
      rw [phaseEq] at serves unchanged
      cases reply with
      | answer outcome =>
          simp only [feed, phaseEq]
          refine serves_answer briefEq serves ?_
          rintro attempt mode slots rfl concluded
          simp [notices, machine, need, Need.notes, turns, phaseEq, concluded, Log.add]
      | _ => simpa only [feed, phaseEq] using unchanged
  | connecting target =>
      rw [phaseEq] at serves unchanged
      cases reply with
      | connected outcome =>
          simp only [feed, phaseEq]
          cases outcome with
          | error failure =>
              intro found ended
              cases ended
          | ok connected => exact serves_ask briefEq (.inr serves)
      | _ => simpa only [feed, phaseEq] using unchanged
  | uploading job =>
      rw [phaseEq] at serves
      obtain ⟨target, rfl⟩ := serves
      simp only [feed, phaseEq]
      split
      · rename_i result needEq
        intro found ended
        cases result with
        | error failure => cases ended
        | ok finished => exact (Except.ok.inj ended).symm
      · exact ⟨target, rfl⟩
  | awaitingDrop =>
      rw [phaseEq] at serves unchanged
      have resets (timedOut : Bool) : (session.afterDrop timedOut).phase.Serves origin
          (log.addAll (session.notices reply)) task := by
        simp only [afterDrop]
        split_ifs
        · intro found ended
          cases ended
        · exact serves
        · exact serves
        · exact serves
        · simpa only [phaseEq] using unchanged
      cases reply with
      | ready => simpa only [feed, phaseEq] using resets false
      | silence => simpa only [feed, phaseEq] using resets true
      | _ => simpa only [feed, phaseEq] using unchanged
  | swapping milliseconds =>
      rw [phaseEq] at serves unchanged
      cases reply with
      | ready =>
          simp only [feed, phaseEq]
          intro found ended
          split at ended
          · cases ended
          · rcases serves with rfl | rfl <;> exact (Except.ok.inj ended).symm
      | _ => simpa only [feed, phaseEq] using unchanged
  | _ => simp [Phase.isWorking, phaseEq] at working

/-! ## Busy phases -/

/-- Whether a task is on its way, or has just ended. -/
def Phase.isBusy : Phase → Bool
  | .performed _ => true
  | phase => phase.isWorking

theorem Phase.isBusy_of_isWorking {phase : Phase} (working : phase.isWorking = true) :
    phase.isBusy = true := by
  cases phase <;> first | rfl | exact working

theorem isBusy_of_serves {phase : Phase} (serves : phase.Serves origin log task) :
    phase.isBusy = true := by
  cases phase <;> first | rfl | exact serves.elim

theorem exists_serves {phase : Phase} (working : phase.isWorking = true) (origin : Session) (log : Log) :
    ∃ task, phase.Serves origin log task := by
  cases phase with
  | inspecting attempt mode => exact ⟨.validate attempt, rfl⟩
  | asking question packet =>
      cases question with
      | bootloader attempt | slots attempt mode => exact ⟨.validate attempt, rfl⟩
      | erase => exact ⟨.eraseStorage, rfl⟩
      | test target => exact ⟨.test target, rfl⟩
      | confirm target => exact ⟨.confirm target, .inl rfl⟩
      | reset => exact ⟨.reset, .inl rfl⟩
  | connecting target => exact ⟨.confirmAfterReset target, rfl⟩
  | uploading job => exact ⟨.upload default, default, rfl⟩
  | awaitingDrop | swapping milliseconds => exact ⟨.reset, .inl rfl⟩
  | _ => cases working

theorem isBusy_perform (task : Task) (session : Session) :
    (session.perform task).phase.isBusy = true := by
  have serves : (session.perform task).phase.Serves session {} task := serves_perform rfl task
  exact isBusy_of_serves serves

/-- A task that is on its way stays so until it ends. -/
theorem isBusy_feed (working : session.phase.isWorking = true) (reply : Reply) :
    (session.feed reply).phase.isBusy = true := by
  obtain ⟨task, serves⟩ := exists_serves working session {}
  exact isBusy_of_serves (serves_feed rfl working serves reply)

/-! ## The end -/

theorem over_of_finished_feed (atEnd : session.finished = true → session.phase = .over) (reply : Reply) :
    (session.feed reply).finished = true → (session.feed reply).phase = .over := by
  have turn := turn_feed session reply
  generalize session.notices reply = seen, session.feed reply = next at turn ⊢
  intro finished
  cases turn with
  | stayed => exact atEnd finished
  | reported phaseEq => rfl
  | worked working =>
      have finished : session.finished = true :=
        (congrArg Session.finished (steady_feed_of_working working reply) :).symm.trans finished
      rw [atEnd finished] at working
      cases working
  | began phaseEq =>
      have finished : session.finished = true :=
        (congrArg Session.finished (steady_perform _ session) :).symm.trans finished
      cases phaseEq.symm.trans (atEnd finished)
  | returned phaseEq =>
      obtain ⟨queue, phase, nextEq, -⟩ := conclude_cases _ session
      rw [nextEq] at finished
      cases phaseEq.symm.trans (atEnd finished)
  | opened phaseEq | took phaseEq _ | emptied phaseEq _ | entered phaseEq _ | announced phaseEq
  | concluded phaseEq => cases phaseEq.symm.trans (atEnd finished)

/-- A session has ended if it says so. -/
theorem over_of_finished {origin : Session} (unfinished : origin.finished = false)
    (events : List Event) :
    (machine.after events origin).finished = true → (machine.after events origin).phase = .over := by
  refine Machine.after_invariant (fun (state : Session) => state.finished = true → state.phase = .over)
    (fun finished => by cases unfinished.symm.trans finished)
    (fun reply state atEnd => over_of_finished_feed atEnd reply) ?_ events
  intro signal state atEnd finished
  have ended := atEnd ((outside_signal signal state).2.2.symm.trans finished)
  rcases (signaled_signal signal state).phase with phaseEq | ⟨job, phaseEq, -⟩
  · exact phaseEq.trans ended
  · cases phaseEq.symm.trans ended

end Session

end SmpClient
