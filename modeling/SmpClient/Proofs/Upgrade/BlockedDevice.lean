import SmpClient.Proofs.Upgrade.Leftover
import SmpClient.Proofs.Upgrade.Reporting
import SmpClient.Proofs.Upgrade.TaskCounts

/-!
# A device with a blocked slot

A device may answer every request and still list a blocked slot each time.  Then the session reboots it
and looks again until its rounds are used up, and fails for that reason and for no other.
-/

namespace SmpClient

namespace Session

variable {origin session : Session} {log : Log} {seen : List Happening}

/-! ## What the device does -/

/-- Whether the device lists a slot as blocked that the session needs. -/
def IsBlockedBy (session : Session) (slots : ImageState) : Prop :=
  ∃ target ∈ session.images, Verdict.judge target slots = .blocked

instance (session : Session) (slots : ImageState) : Decidable (session.IsBlockedBy slots) :=
  inferInstanceAs (Decidable (∃ target ∈ session.images, _))

/-- Whether what came back for a request is no error, and shows a blocked slot if it shows any. -/
def isServed (session : Session) (packet : Bytes) (outcome : Except Error Response) :
    Question → Bool
  | .bootloader _ =>
      ((Command.bootloaderInfo (some "mode")).conclude session.scheme packet outcome).isOk
  | .slots _ _ =>
      match Command.images.conclude session.scheme packet outcome with
      | .ok slots => session.IsBlockedBy slots
      | .error _ => false
  | .erase => (Command.eraseStorage.conclude session.scheme packet outcome).isOk
  | .test target => ((Command.testImage target.hash).conclude session.scheme packet outcome).isOk
  | .confirm target =>
      ((Command.confirmImage (some target.hash)).conclude session.scheme packet outcome).isOk
  | .reset => ((Command.reset false).conclude session.scheme packet outcome).isOk

/-- Whether an event is no cancel, and serves the session if it answers a request. -/
def isServedAt (session : Session) (event : Event) : Bool :=
  match session.phase, event with
  | _, .signal signal => signal ≠ .cancel
  | .asking question packet, .reply (.answer outcome) => session.isServed packet outcome question
  | _, .reply _ => true

/-- Whether a device serves a session throughout, and lists a blocked slot each time. -/
def isServedThroughout : List Event → Session → Bool
  | [], _ => true
  | event :: events, session =>
      session.isServedAt event && isServedThroughout events (machine.take session event)

theorem isServedThroughout_concat (events : List Event) (event : Event) (session : Session) :
    isServedThroughout (events ++ [event]) session =
      (isServedThroughout events session && (machine.after events session).isServedAt event) := by
  induction events generalizing session with
  | nil => simp [isServedThroughout, Machine.after]
  | cons first events ih =>
      rw [List.cons_append, isServedThroughout, ih, isServedThroughout, Machine.after_cons,
        Bool.and_assoc]

/-- The replies that bring a session on.  It stays where it is when it is woken and still paused, or
learns of the link that it is still up. -/
def heeded (session : Session) : Event → List Reply
  | .reply reply =>
      match machine.need session, reply with
      | .wake, _ => []
      | .awaitDrop _, .ready => []
      | need, reply => if need.isMetBy reply then [reply] else []
  | .signal _ => []

theorem length_heeded_le (session : Session) (event : Event) :
    (session.heeded event).length ≤ 1 := by
  unfold heeded
  repeat' split
  all_goals simp

theorem heeded_eq_nil {reply : Reply} (unmet : (machine.need session).isMetBy reply = false) :
    session.heeded (.reply reply) = [] := by
  simp only [heeded]
  split
  · rfl
  · rfl
  · rw [unmet]
    rfl

/-! ## What the session does -/

/-- A slot that was blocked at the last look leaves nothing to do but to look, or to reboot first. -/
theorem Stage.rounds_of_blocked {completed ahead : List Task} (stage : Stage origin log completed ahead)
    (blocked : ∀ slots, log.listed = some slots → origin.IsBlockedBy slots) :
    (∃ attempt ≤ maxRevalidations, ahead = [.validate attempt] ∧
        completed ++ [.validate attempt] = rounds attempt) ∨
      ∃ attempt < maxRevalidations, ahead = [.resetBeforeUpload, .validate (attempt + 1)] ∧
        completed = rounds attempt := by
  cases stage with
  | @looking attempt completed attempt_le roundsEq => exact .inl ⟨attempt, attempt_le, rfl, roundsEq⟩
  | @clearing attempt attempt_lt => exact .inr ⟨attempt, attempt_lt, rfl, rfl⟩
  | @executing attempt found performed ahead attempt_le plans returnedEq foundEq resets =>
      obtain ⟨slots, bootloader, listedEq, planned, plannedEq⟩ := plans
      have held : (origin.plan attempt slots bootloader).tasks = _ :=
        Plan.tasks_of_blocked _ (blocked slots listedEq)
      rw [planned] at held
      split at held
      · cases held
      · have member : Task.resetBeforeUpload ∈ found := by
          rw [Except.ok.inj held]
          exact List.mem_cons_self
        rw [plannedEq] at member
        exact absurd rfl (Plan.ne_round_of_mem member).1

/-- The error of an upgrade whose rounds are used up. -/
def exhausted : Error :=
  .revalidationLimit maxRevalidations

/-- Whether a session that is about to end has used up its rounds, and says so. -/
def Phase.EndsExhausted (seen : List Happening) : Phase → Prop
  | .performed (.error failure) =>
      failure = exhausted ∧ (Log.of seen).begun = rounds maxRevalidations
  | .reporting note =>
      note = .failed .validate exhausted ∧ (Log.of seen).begun = rounds maxRevalidations
  | .over =>
      outcomes seen = [.failed .validate exhausted] ∧ (Log.of seen).begun = rounds maxRevalidations
  | .concluding => False
  | _ => True

/-- A session whose device has listed a blocked slot each time. -/
structure Besieged (origin : Session) (seen : List Happening) (session : Session) : Prop where
  uncanceled : session.canceled = false
  blocked : ∀ slots, (Log.of seen).listed = some slots → origin.IsBlockedBy slots
  ends : session.phase.EndsExhausted seen

/-- The steps since a task has made its first request.  A session starts as if a task had just ended. -/
def Phase.rank : Phase → Nat
  | .asking (.slots _ _) _ | .swapping _ => 2
  | .asking _ _ | .connecting _ | .uploading _ => 0
  | .inspecting _ _ | .awaitingDrop => 1
  | .starting | .performed _ => 3
  | .choosing | .reporting _ => 4
  | .entering _ | .concluding | .over => 5
  | .announcing _ _ => 6
  | .performing _ => 7

/-- How far a session has come: eight steps for each task that has begun, and those since. -/
def standing (seen : List Happening) (session : Session) : Nat :=
  8 * (Log.of seen).begun.length + session.phase.rank

/-- What a reply does to a besieged session. -/
structure Holds (origin : Session) (seen : List Happening) (session : Session) (reply : Reply) :
    Prop where
  besieged : Besieged origin (seen ++ session.notices reply) (session.feed reply)
  standing_le : standing seen session + (session.heeded (.reply reply)).length ≤
    standing (seen ++ session.notices reply) (session.feed reply)

namespace Besieged

variable {reply : Reply}

/-- A reply that changes nothing. -/
theorem unmoved (besieged : Besieged origin seen session) (same : session.feed reply = session)
    (quiet : session.notices reply = []) (unheeded : session.heeded (.reply reply) = []) :
    Holds origin seen session reply := by
  refine ⟨?_, ?_⟩
  · rwa [same, quiet, List.append_nil]
  · rw [same, quiet, unheeded, List.append_nil]
    exact Nat.le_refl _

/-- A reply that brings a session on. -/
theorem moved (besieged : Besieged origin seen session) {noticed : List Happening} {phase : Phase}
    (noticesEq : session.notices reply = noticed) (nextEq : (session.feed reply).phase = phase)
    (blocked : ∀ slots, (Log.of (seen ++ noticed)).listed = some slots → origin.IsBlockedBy slots)
    (ends : phase.EndsExhausted (seen ++ noticed))
    (further : standing seen session < 8 * (Log.of (seen ++ noticed)).begun.length + phase.rank) :
    Holds origin seen session reply := by
  subst noticesEq nextEq
  refine ⟨⟨?_, blocked, ends⟩, ?_⟩
  · exact (canceled_feed session reply).trans besieged.uncanceled
  · exact Nat.le_trans (Nat.add_le_add_left (length_heeded_le _ _) _) further

/-- A step of which nothing is kept. -/
theorem moved_quietly (besieged : Besieged origin seen session) {phase : Phase}
    (noticesEq : session.notices reply = []) (nextEq : (session.feed reply).phase = phase)
    (ends : phase.EndsExhausted seen) (further : session.phase.rank < phase.rank) :
    Holds origin seen session reply := by
  refine besieged.moved noticesEq nextEq ?_ ?_ ?_
  · rw [List.append_nil]
    exact besieged.blocked
  · rwa [List.append_nil]
  · rw [List.append_nil]
    exact Nat.add_lt_add_left further _

/-- A look at the device that finds a blocked slot leads to another round, or is the last one. -/
theorem looked (besieged : Besieged origin seen session) (briefEq : session.brief = origin.brief)
    {attempt : Nat} {mode : Option BootloaderMode} {packet : Bytes}
    (phaseEq : session.phase = .asking (.slots attempt mode) packet) {completed ahead : List Task}
    (begunEq : (Log.of seen).begun = completed ++ [.validate attempt])
    (stage : Stage origin (Log.of seen) completed (.validate attempt :: ahead))
    {outcome : Except Error Response} {slots : ImageState}
    (concluded : Command.images.conclude session.scheme packet outcome = .ok slots)
    (blocked : session.IsBlockedBy slots) : Holds origin seen session (.answer outcome) := by
  have imagesEq : session.images = origin.images := congrArg (fun brief => brief.2.2.1) briefEq
  have noticesEq : session.notices (.answer outcome) = [.listed slots] := by
    simp [notices, machine, need, Need.notes, turns, phaseEq, concluded]
  have logEq : Log.of (seen ++ [.listed slots]) =
      { Log.of seen with listed := some slots, reset := false } := Log.of_append _ _
  have nextEq : (session.feed (.answer outcome)).phase =
      .performed (session.plan attempt slots mode).tasks := by
    simp only [feed, phaseEq, answer, concluded]
    rfl
  rw [(session.plan attempt slots mode).tasks_of_blocked blocked] at nextEq
  refine besieged.moved noticesEq nextEq ?_ ?_ ?_
  · rw [logEq]
    rintro listed ⟨⟩
    rw [IsBlockedBy, ← imagesEq]
    exact blocked
  · split
    · rename_i last
      rcases stage.rounds_of_blocked besieged.blocked with
        ⟨round, round_le, same, roundsEq⟩ | ⟨round, -, same, -⟩
      · cases same
        obtain rfl : attempt = maxRevalidations := Nat.le_antisymm round_le last
        refine ⟨rfl, ?_⟩
        rw [logEq, ← roundsEq]
        exact begunEq
      · cases same
    · trivial
  · rw [logEq]
    simp [standing, phaseEq, Phase.rank]

theorem answered (besieged : Besieged origin seen session) (briefEq : session.brief = origin.brief)
    {question : Question} {packet : Bytes} (phaseEq : session.phase = .asking question packet)
    {completed ahead : List Task} {task : Task} (serves : question.Serves task)
    (begunEq : (Log.of seen).begun = completed ++ [task])
    (stage : Stage origin (Log.of seen) completed (task :: ahead)) {outcome : Except Error Response}
    (served : session.isServed packet outcome question = true) :
    Holds origin seen session (.answer outcome) := by
  cases question with
  | bootloader attempt =>
      cases concluded : (Command.bootloaderInfo (some "mode")).conclude session.scheme packet outcome with
      | error failure => simp [isServed, concluded, Except.isOk, Except.toBool] at served
      | ok info =>
          have nextEq : (session.feed (.answer outcome)).phase =
              .inspecting attempt (info.mode.bind BootloaderMode.ofNumber?) := by
            simp only [feed, phaseEq, answer, concluded, bootloaderMode]
          refine besieged.moved_quietly ?_ nextEq trivial ?_
          · simp [notices, machine, need, Need.notes, turns, phaseEq]
          · simp [phaseEq, Phase.rank]
  | slots attempt mode =>
      obtain rfl : task = .validate attempt := serves
      simp only [isServed] at served
      split at served
      · rename_i slots concluded
        exact besieged.looked briefEq phaseEq begunEq stage concluded (of_decide_eq_true served)
      · cases served
  | erase | test target | confirm target =>
      rcases stage.rounds_of_blocked besieged.blocked with ⟨round, -, same, -⟩ | ⟨round, -, same, -⟩
      · cases same
        simp [Question.Serves] at serves
      · cases same
        simp [Question.Serves] at serves
  | reset =>
      cases concluded : (Command.reset false).conclude session.scheme packet outcome with
      | error failure => simp [isServed, concluded, Except.isOk, Except.toBool] at served
      | ok done =>
          have nextEq : (session.feed (.answer outcome)).phase = .awaitingDrop := by
            simp only [feed, phaseEq, answer, concluded, afterReset]
          refine besieged.moved_quietly ?_ nextEq trivial ?_
          · simp [notices, machine, need, Need.notes, turns, phaseEq]
          · simp [phaseEq, Phase.rank]

/-- The wait for the link to go down ends, or goes on as it was. -/
theorem waited (besieged : Besieged origin seen session) (phaseEq : session.phase = .awaitingDrop)
    (reply : Reply) : Holds origin seen session reply := by
  have quiet : session.notices reply = [] := by
    simp only [notices, machine, need, turns, phaseEq]
    split <;> cases reply <;> rfl
  have drops (swaps : ∃ rest, (session.feed reply).phase = .swapping rest) :
      Holds origin seen session reply := by
    obtain ⟨rest, nextEq⟩ := swaps
    refine besieged.moved_quietly quiet nextEq trivial ?_
    simp [phaseEq, Phase.rank]
  cases reply with
  | ready =>
      by_cases settled : session.isDropSettled = true
      · apply drops
        simp only [isDropSettled, besieged.uncanceled, Bool.false_or, Bool.or_eq_true, beq_iff_eq]
          at settled
        simp only [feed, phaseEq, afterDrop, besieged.uncanceled, Bool.false_eq_true, if_false]
        rcases settled with unwanted | dropped
        · exact ⟨_, by rw [if_pos unwanted]⟩
        · rw [if_pos dropped]
          split <;> exact ⟨_, rfl⟩
      · apply besieged.unmoved _ quiet
        · simp only [heeded, machine, need, phaseEq, settled]
          rfl
        · simp only [isDropSettled, besieged.uncanceled, Bool.false_or, Bool.or_eq_true, beq_iff_eq,
            not_or] at settled
          simp only [feed, phaseEq, afterDrop, besieged.uncanceled, Bool.false_eq_true, if_false]
          rw [if_neg settled.1, if_neg settled.2]
  | silence =>
      apply drops
      simp only [feed, phaseEq, afterDrop, besieged.uncanceled, Bool.false_eq_true, if_false, if_true]
      repeat' split
      all_goals exact ⟨_, rfl⟩
  | _ =>
      apply besieged.unmoved _ quiet
      · apply heeded_eq_nil
        simp only [machine, need, phaseEq]
        split <;> rfl
      · simp only [feed, phaseEq]

theorem worked (besieged : Besieged origin seen session) (briefEq : session.brief = origin.brief)
    (course : Course origin (Log.of seen) session) (working : session.phase.isWorking = true)
    (served : session.isServedAt (.reply reply) = true) : Holds origin seen session reply := by
  obtain ⟨completed, ahead, task, stage, begunEq, -, -, serves, -⟩ := course.of_working (.inl working)
  have tasks := stage.rounds_of_blocked besieged.blocked
  cases phaseEq : session.phase with
  | inspecting attempt mode =>
      cases reply with
      | ready =>
          obtain ⟨packet, -, asked⟩ := exists_ask (.slots attempt mode) session
          have nextEq : (session.feed .ready).phase = .asking (.slots attempt mode) packet := by
            simp only [feed, phaseEq, asked]
          refine besieged.moved_quietly ?_ nextEq trivial ?_
          · simp [notices, machine, need, Need.notes, turns, phaseEq]
          · simp [phaseEq, Phase.rank]
      | _ =>
          apply besieged.unmoved
          · simp only [feed, phaseEq]
          · simp [notices, machine, need, Need.notes, turns, phaseEq]
          · simp [heeded, machine, need, phaseEq, Need.isMetBy]
  | asking question packet =>
      cases reply with
      | answer outcome =>
          rw [phaseEq] at serves
          simp only [isServedAt, phaseEq] at served
          exact besieged.answered briefEq phaseEq serves begunEq stage served
      | _ =>
          apply besieged.unmoved
          · simp only [feed, phaseEq]
          · simp [notices, machine, need, Need.notes, turns, phaseEq]
          · simp [heeded, machine, need, phaseEq, Need.isMetBy]
  | connecting target =>
      rw [phaseEq] at serves
      obtain rfl : task = .confirmAfterReset target := serves
      rcases tasks with ⟨round, -, same, -⟩ | ⟨round, -, same, -⟩ <;> cases same
  | uploading job =>
      rw [phaseEq] at serves
      obtain ⟨target, rfl⟩ := serves
      rcases tasks with ⟨round, -, same, -⟩ | ⟨round, -, same, -⟩ <;> cases same
  | awaitingDrop => exact besieged.waited phaseEq reply
  | swapping milliseconds =>
      cases reply with
      | ready =>
          have nextEq : (session.feed .ready).phase = .performed (.ok []) := by
            simp [feed, phaseEq, finish, besieged.uncanceled]
          refine besieged.moved_quietly ?_ nextEq trivial ?_
          · simp only [notices, machine, need, turns, phaseEq]
            split <;> rfl
          · simp [phaseEq, Phase.rank]
      | _ =>
          apply besieged.unmoved
          · simp only [feed, phaseEq]
          · simp only [notices, machine, need, turns, phaseEq]
            split <;> rfl
          · apply heeded_eq_nil
            simp only [machine, need, phaseEq]
            split <;> rfl
  | _ => simp [Phase.isWorking, phaseEq] at working

/-- A reply that leaves an idle session where it is was not heeded. -/
theorem heeded_of_same (idle : session.phase.isWorking = false)
    (same : (session.feed reply).phase = session.phase) : session.heeded (.reply reply) = [] := by
  by_cases ready : reply = .ready
  · subst ready
    cases phaseEq : session.phase with
    | inspecting _ _ | asking _ _ | connecting _ | uploading _ | awaitingDrop | swapping _ =>
        simp [Phase.isWorking, phaseEq] at idle
    | choosing =>
        rw [phaseEq] at same
        simp only [feed, phaseEq, choose] at same
        split at same
        · cases same
        · rename_i uncanceled
          split at same
          · rename_i paused
            simp [heeded, machine, need, phaseEq, uncanceled, paused]
          · split at same <;> cases same
    | entering task =>
        rw [phaseEq] at same
        simp only [feed, phaseEq, enter] at same
        split at same <;> cases same
    | performing task =>
        rw [phaseEq] at same
        simp only [feed, phaseEq] at same
        have busy := isBusy_perform task session
        rw [same] at busy
        cases busy
    | performed result =>
        rw [phaseEq] at same
        obtain ⟨queue, phase, nextEq, concluded⟩ := conclude_cases result session
        simp only [feed, phaseEq, nextEq] at same
        rcases concluded with rfl | ⟨note, rfl⟩ <;> cases same
    | «over» =>
        apply heeded_eq_nil
        simp only [machine, need, phaseEq, Need.isMetBy]
    | _ => simp [feed, phaseEq] at same
  · apply heeded_eq_nil
    cases phaseEq : session.phase with
    | inspecting _ _ | asking _ _ | connecting _ | uploading _ | awaitingDrop | swapping _ =>
        simp [Phase.isWorking, phaseEq] at idle
    | choosing =>
        simp only [machine, need, phaseEq]
        split <;> cases reply <;> first | rfl | exact absurd rfl ready
    | _ =>
        simp only [machine, need, phaseEq]
        cases reply <;> first | rfl | exact absurd rfl ready

/-- There is always another look to come. -/
theorem ne_nil (besieged : Besieged origin seen session) (course : Course origin (Log.of seen) session)
    (phaseEq : session.phase = .choosing) : session.queue.tasks ≠ [] := by
  intro empty
  cases course with
  | resting stage well awaits rests silent =>
      have whole := awaits.all besieged.uncanceled
      rw [phaseEq, empty] at whole
      subst whole
      rcases stage.rounds_of_blocked besieged.blocked with ⟨round, -, same, -⟩ | ⟨round, -, same, -⟩ <;>
        cases same
  | working stage begunEq well awaits serves silent =>
      rw [phaseEq] at serves
      exact serves
  | failed stage begunEq returnedEq well ends silent => simp [HasFailed, phaseEq] at ends
  | concluded stage well ends => simp [HasConcluded, phaseEq] at ends

theorem asks_of_performing (besieged : Besieged origin seen session)
    (course : Course origin (Log.of seen) session) {task : Task}
    (phaseEq : session.phase = .performing task) :
    ∃ question packet, (session.perform task).phase = .asking question packet := by
  obtain ⟨ahead, stage, -, -, -⟩ := course.of_performing phaseEq
  rcases stage.rounds_of_blocked besieged.blocked with ⟨round, -, same, -⟩ | ⟨round, -, same, -⟩
  · cases same
    obtain ⟨packet, -, asked⟩ := exists_ask (.bootloader round) session
    exact ⟨.bootloader round, packet, by rw [perform, asked]⟩
  · cases same
    obtain ⟨packet, -, asked⟩ := exists_ask .reset { session with dropped := false }
    exact ⟨.reset, packet, by rw [perform, asked]⟩

theorem returned (besieged : Besieged origin seen session) (reported : Reported seen session)
    {result : Except Error (List Task)} (phaseEq : session.phase = .performed result)
    (noticesEq : session.notices reply = [.returned result])
    (nextEq : (session.feed reply).phase = (session.conclude result).phase) :
    Holds origin seen session reply := by
  have ends := besieged.ends
  rw [phaseEq] at ends
  have begunEq : (Log.of (seen ++ [.returned result])).begun = (Log.of seen).begun := by
    rw [Log.of_append]
    rfl
  have listedEq : (Log.of (seen ++ [.returned result])).listed = (Log.of seen).listed := by
    rw [Log.of_append]
    rfl
  have blocked : ∀ slots, (Log.of (seen ++ [.returned result])).listed = some slots →
      origin.IsBlockedBy slots := by
    rw [listedEq]
    exact besieged.blocked
  have further : standing seen session <
      8 * (Log.of (seen ++ [.returned result])).begun.length + 4 := by
    rw [begunEq, standing, phaseEq]
    exact Nat.lt_succ_self _
  cases result with
  | ok found =>
      have chooses : (session.feed reply).phase = .choosing := by
        rw [nextEq]
        simp [conclude, besieged.uncanceled]
      exact besieged.moved noticesEq chooses blocked trivial further
  | error failure =>
      obtain ⟨rfl, begun⟩ := ends
      have stateEq : session.state = .validate := by
        have stands := reported.stands
        simp only [StandsAt, phaseEq] at stands
        rw [stands, Log.state, begun]
        rfl
      have reports : (session.feed reply).phase = .reporting (.failed .validate exhausted) := by
        rw [nextEq]
        simp [conclude, besieged.uncanceled, exhausted, stateEq]
      exact besieged.moved noticesEq reports blocked ⟨rfl, begunEq.trans begun⟩ further

theorem idled (besieged : Besieged origin seen session) (course : Course origin (Log.of seen) session)
    (reported : Reported seen session) (idle : session.phase.isWorking = false) (reply : Reply) :
    Holds origin seen session reply := by
  have turn := turn_feed session reply
  have told {note : SessionNote} (other : note ≠ .completed) :
      Log.of (seen ++ [.told note]) = Log.of seen := by
    rw [Log.of_append]
    exact Course.add_told_of_ne other _
  generalize noticesEq : session.notices reply = noticed, fedEq : session.feed reply = next at turn
  have nextEq : (session.feed reply).phase = next.phase := congrArg Session.phase fedEq
  cases turn with
  | stayed => exact besieged.unmoved fedEq noticesEq (heeded_of_same idle nextEq)
  | opened phaseEq =>
      refine besieged.moved noticesEq nextEq ?_ trivial ?_
      · rw [told (by simp)]
        exact besieged.blocked
      · rw [told (by simp), standing, phaseEq]
        exact Nat.lt_succ_self _
  | took phaseEq tasksEq uncanceled =>
      refine besieged.moved_quietly noticesEq nextEq trivial ?_
      simp [phaseEq, Phase.rank]
  | emptied phaseEq ends => exact absurd (ends besieged.uncanceled) (besieged.ne_nil course phaseEq)
  | entered phaseEq nextPhase =>
      rcases nextPhase with ⟨-, rfl⟩ | ⟨-, rfl⟩
      · refine besieged.moved_quietly noticesEq nextEq trivial ?_
        simp [phaseEq, Phase.rank]
      · refine besieged.moved_quietly noticesEq nextEq trivial ?_
        simp [phaseEq, Phase.rank]
  | announced phaseEq =>
      refine besieged.moved noticesEq nextEq ?_ trivial ?_
      · rw [told (by simp)]
        exact besieged.blocked
      · rw [told (by simp), standing, phaseEq]
        exact Nat.lt_succ_self _
  | @began task phaseEq =>
      obtain ⟨question, packet, asks⟩ := besieged.asks_of_performing course phaseEq
      have logEq : Log.of (seen ++ [.began task]) =
          { Log.of seen with begun := (Log.of seen).begun ++ [task] } := Log.of_append _ _
      refine besieged.moved noticesEq (nextEq.trans asks) ?_ trivial ?_
      · rw [logEq]
        exact besieged.blocked
      · rw [logEq, standing, phaseEq, List.length_append, Nat.mul_add]
        exact Nat.lt_add_right _ (Nat.add_lt_add_left (Nat.lt_succ_self 7) _)
  | worked working => exact absurd working (by simp [idle])
  | returned phaseEq => exact besieged.returned reported phaseEq noticesEq nextEq
  | concluded phaseEq =>
      have ends := besieged.ends
      rw [phaseEq] at ends
      exact ends.elim
  | reported phaseEq =>
      have ends := besieged.ends
      rw [phaseEq] at ends
      obtain ⟨rfl, begunEq⟩ := ends
      refine besieged.moved noticesEq nextEq ?_ ⟨?_, ?_⟩ ?_
      · rw [told (by simp)]
        exact besieged.blocked
      · rw [outcomes_append, reported.silent (by simp [phaseEq])]
        rfl
      · rw [told (by simp)]
        exact begunEq
      · rw [told (by simp), standing, phaseEq]
        exact Nat.lt_succ_self _

theorem sent (besieged : Besieged origin seen session) (packets : List Bytes) :
    Besieged origin (seen ++ packets.map .sent) session := by
  have logEq : Log.of (seen ++ packets.map .sent) = Log.of seen := by
    rw [Log.of_append, Log.addAll_sent]
  have outcomesEq : outcomes (seen ++ packets.map .sent) = outcomes seen := by
    rw [outcomes_append, outcomes_sent, List.append_nil]
  refine ⟨besieged.uncanceled, logEq ▸ besieged.blocked, ?_⟩
  have ends := besieged.ends
  simp only [Phase.EndsExhausted] at ends ⊢
  rwa [logEq, outcomesEq]

theorem signal (besieged : Besieged origin seen session) {signal : Signal} (other : signal ≠ .cancel) :
    Besieged origin seen (session.signal signal).2 ∧
      standing seen (session.signal signal).2 = standing seen session := by
  have signaled := signaled_signal signal session
  have uncanceled : (session.signal signal).2.canceled = false := by
    rcases signaled.queue with ⟨-, canceledEq⟩ | ⟨cancels, -⟩
    · exact canceledEq.trans besieged.uncanceled
    · exact absurd cancels other
  rcases signaled.phase with phaseEq | ⟨job, phaseEq, nextEq⟩
  · refine ⟨⟨uncanceled, besieged.blocked, ?_⟩, ?_⟩
    · rw [phaseEq]
      exact besieged.ends
    · rw [standing, standing, phaseEq]
  · refine ⟨⟨uncanceled, besieged.blocked, ?_⟩, ?_⟩
    · rw [nextEq]
      trivial
    · rw [standing, standing, phaseEq, nextEq]
      rfl

end Besieged

/-! ## All events -/

theorem besieged_after (fresh : origin.IsFresh) (stateEq : origin.state = .none) {events : List Event}
    (served : isServedThroughout events origin = true) :
    Besieged origin (history events origin) (machine.after events origin) ∧
      3 + (machine.trace heeded events origin).length ≤
        standing (history events origin) (machine.after events origin) := by
  induction events using List.reverseRecOn with
  | nil =>
      have ends : origin.phase.EndsExhausted [] := by
        rw [fresh.phaseEq]
        trivial
      refine ⟨⟨fresh.uncanceled, fun slots listed => (nomatch listed), ends⟩, ?_⟩
      change 3 ≤ standing [] origin
      rw [standing, fresh.phaseEq]
      exact Nat.le_refl 3
  | append_singleton events event ih =>
      rw [isServedThroughout_concat, Bool.and_eq_true] at served
      obtain ⟨before, servedNow⟩ := served
      obtain ⟨besieged, counted⟩ := ih before
      obtain ⟨course, briefEq⟩ := course_after fresh events
      have reported := reported_after fresh.phaseEq stateEq events
      rw [Machine.after_concat, history, Machine.trace_concat, Machine.trace_concat,
        List.length_append, ← Nat.add_assoc]
      cases event with
      | reply reply =>
          have holds : Holds origin (history events origin) (machine.after events origin) reply := by
            by_cases working : (machine.after events origin).phase.isWorking = true
            · exact besieged.worked briefEq course working servedNow
            · exact besieged.idled course reported (Bool.not_eq_true _ ▸ working) reply
          have logEq (packets : List Bytes) (seen : List Happening) :
              standing (seen ++ packets.map .sent) = standing seen := by
            funext session
            rw [standing, standing, Log.of_append, Log.addAll_sent]
          rw [happenings, ← List.append_assoc, logEq]
          refine ⟨holds.besieged.sent _, ?_⟩
          exact Nat.le_trans (Nat.add_le_add_right counted _) holds.standing_le
      | signal signal =>
          have other : signal ≠ .cancel := by
            unfold isServedAt at servedNow
            exact of_decide_eq_true servedNow
          obtain ⟨besiegedNow, standingEq⟩ := besieged.signal other
          rw [happenings, List.append_nil]
          refine ⟨besiegedNow, ?_⟩
          exact Nat.le_trans counted (Nat.le_of_eq standingEq.symm)

theorem rounds_isPrefix {attempt more : Nat} (attempt_le : attempt ≤ more) :
    rounds attempt <+: rounds more := by
  induction attempt_le with
  | refl => exact List.prefix_refl _
  | step _ ih => exact ih.trans (List.prefix_append _ _)

namespace Besieged

/-- A besieged session performs no other tasks than those of its rounds. -/
theorem begun_isPrefix (besieged : Besieged origin seen session)
    (course : Course origin (Log.of seen) session) :
    (Log.of seen).begun <+: rounds maxRevalidations := by
  obtain ⟨completed, ahead, between⟩ := course.between
  have kept := between.begun_isPrefix
  rcases between.stage.rounds_of_blocked besieged.blocked with
    ⟨round, round_le, rfl, roundsEq⟩ | ⟨round, round_lt, rfl, rfl⟩
  · rw [roundsEq] at kept
    exact kept.trans (rounds_isPrefix round_le)
  · exact List.IsPrefix.trans kept (rounds_isPrefix round_lt)

/-- While a task was taken that has not begun, not all tasks have. -/
theorem length_lt_of_taken (besieged : Besieged origin seen session)
    (course : Course origin (Log.of seen) session) (taken : session.phase.taken ≠ []) :
    (Log.of seen).begun.length < (rounds maxRevalidations).length := by
  rw [length_rounds]
  cases course with
  | resting stage well awaits rests silent =>
      rcases stage.rounds_of_blocked besieged.blocked with
        ⟨round, round_le, -, roundsEq⟩ | ⟨round, round_lt, -, begunEq⟩
      · have lengths := congrArg List.length roundsEq
        rw [List.length_append, List.length_singleton, length_rounds] at lengths
        omega
      · rw [begunEq, length_rounds]
        omega
  | working stage begunEq well awaits serves silent => exact absurd (taken_of_serves serves) taken
  | failed stage begunEq returnedEq well ends silent =>
      cases phaseEq : session.phase <;> simp [HasFailed, Phase.taken, phaseEq] at ends taken
  | concluded stage well ends =>
      cases phaseEq : session.phase <;> simp [HasConcluded, Phase.taken, phaseEq] at ends taken

/-- Before its last task has ended a session has not come far enough to be over. -/
theorem over_of_standing (besieged : Besieged origin seen session)
    (course : Course origin (Log.of seen) session)
    (far : 8 * (rounds maxRevalidations).length + 5 ≤ standing seen session) :
    session.phase = .over := by
  have few := (besieged.begun_isPrefix course).length_le
  have ends := besieged.ends
  have taken := besieged.length_lt_of_taken course
  rw [standing] at far
  cases phaseEq : session.phase with
  | «over» => rfl
  | concluding =>
      rw [phaseEq] at ends
      exact ends.elim
  | entering task | announcing before task | performing task =>
      have fewer := taken (by simp [phaseEq, Phase.taken])
      simp only [phaseEq, Phase.rank] at far
      omega
  | asking question packet =>
      cases question <;> simp only [phaseEq, Phase.rank] at far <;> omega
  | _ =>
      simp only [phaseEq, Phase.rank] at far
      omega

end Besieged

/-- Whether a session fails because its rounds are used up, and for no other reason. -/
structure GivesUp (origin : Session) (events : List Event) : Prop where
  begun_isPrefix : (Log.of (history events origin)).begun <+: rounds maxRevalidations
  outcome : ∀ note ∈ outcomes (history events origin), note = .failed .validate exhausted
  /-- The session is over when each of its tasks has been brought on by eight replies. -/
  ends : 8 * (rounds maxRevalidations).length + 2 ≤ (machine.trace heeded events origin).length →
    (machine.after events origin).IsOver ∧
      outcomes (history events origin) = [.failed .validate exhausted] ∧
      (Log.of (history events origin)).begun = rounds maxRevalidations

theorem givesUp_of_served (fresh : origin.IsFresh) (stateEq : origin.state = .none)
    {events : List Event} (served : isServedThroughout events origin = true) :
    GivesUp origin events := by
  obtain ⟨besieged, counted⟩ := besieged_after fresh stateEq served
  have course := (course_after fresh events).1
  have reported := reported_after fresh.phaseEq stateEq events
  have exhausts (phaseEq : (machine.after events origin).phase = .over) :
      outcomes (history events origin) = [.failed .validate exhausted] ∧
        (Log.of (history events origin)).begun = rounds maxRevalidations := by
    have ends := besieged.ends
    rwa [phaseEq] at ends
  refine ⟨besieged.begun_isPrefix course, fun note member => ?_, fun enough => ?_⟩
  · by_cases phaseEq : (machine.after events origin).phase = .over
    · rw [(exhausts phaseEq).1] at member
      exact List.mem_singleton.mp member
    · rw [reported.silent phaseEq] at member
      cases member
  · have phaseEq : (machine.after events origin).phase = .over := by
      apply besieged.over_of_standing course
      omega
    exact ⟨isOver_iff.mpr phaseEq, exhausts phaseEq⟩

/-- What bounds the tasks of a session for a number of images. -/
structure Bounded (origin : Session) (count : Nat) (events : List Event) : Prop where
  counted : Counted count (Log.of (history events origin)).begun
  /-- Between two tasks nothing keeps the session from going on, but a pause. -/
  proceeds : (machine.after events origin).phase.isWorking = false →
    ¬ (machine.after events origin).IsHeld → (machine.after events origin).Proceeds 5
  /-- A device that answers every request, but always lists a blocked slot, makes the session fail. -/
  givesUp : isServedThroughout events origin = true → GivesUp origin events

/-- The tasks of an upgrade are bounded by the number of its images, whatever the device does. -/
theorem bounded_of_start {scheme : Scheme} {mtu : Nat} {settings : UpgradeSettings}
    {images : ImageSet} {mode : UpgradeMode} {seq : UInt8}
    (started : start scheme mtu settings images mode seq = .ok origin) (events : List Event) :
    Bounded origin images.images.length events := by
  have fresh := isFresh_of_start started
  have stateEq : origin.state = .none := by rw [eq_of_start started]
  have imagesEq : origin.images = images.images :=
    congrArg (fun brief => brief.2.2.1) (brief_of_start started)
  refine ⟨?_, proceeds_of_idle, givesUp_of_served fresh stateEq⟩
  rw [← imagesEq]
  exact counted_of_course (course_after fresh events).1

/-- A look at the device, which lists a slot that waits for a reboot. -/
def blockedLook (seq : UInt8) : List Event :=
  [answering .readResponse .os seq 8 (.record [])] ++ goingOn 1 ++
    [listing .readResponse (seq + 1) { hash := [9], pending := true }]

/-- A look at the device, a reboot, and the steps up to the next look. -/
def blockedRound (seq : UInt8) : List Event :=
  blockedLook seq ++ goingOn 5 ++ [answering .writeResponse .os (seq + 2) 5 (.record [])] ++ goingOn 7

/-- The slot is blocked at each look. -/
def blockedThroughout : List Event :=
  goingOn 5 ++ blockedRound 0 ++ blockedRound 3 ++ blockedRound 6 ++ blockedLook 9 ++ goingOn 2

theorem bounded_blockedThroughout :
    start .ble 65 { disconnectTimeout := 0 } ⟨[oneByteImage]⟩ .testAndConfirm 0 = .ok oneByteStart ∧
      isServedThroughout blockedThroughout oneByteStart = true ∧
      (machine.trace heeded blockedThroughout oneByteStart).length = 58 ∧
      Bounded oneByteStart 1 blockedThroughout := by
  have started : start .ble 65 { disconnectTimeout := 0 } ⟨[oneByteImage]⟩ .testAndConfirm 0 =
      .ok oneByteStart := rfl
  exact ⟨started, by decide +kernel, by decide +kernel, bounded_of_start started blockedThroughout⟩

end Session

end SmpClient
