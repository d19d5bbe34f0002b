import SmpClient.Proofs.Upgrade.Leftover
import SmpClient.Proofs.Upgrade.Moments
import SmpClient.Proofs.Upgrade.PlanOrder
import SmpClient.Proofs.Upgrade.TaskCounts

/-!
# The first contact after a reboot

A reboot takes the link down.  What a session does first on the link once a reset has ended depends on
the task that follows: a confirmation connects, another look at the device does not.
-/

namespace SmpClient

open SmpClient.Task (byPriority)

namespace Session

/-- What can be seen of a session from the link. -/
inductive Sight
  | began (task : Task)
  /-- The task that was begun last has ended, well or not. -/
  | ended (well : Bool)
  | connect
  | sent (packet : Bytes)
  deriving DecidableEq

namespace Sight

/-- Whether the link is used. -/
def isContact : Sight → Bool
  | .connect | .sent _ => true
  | .began _ | .ended _ => false

def begun? : Sight → Option Task
  | .began task => some task
  | _ => none

end Sight

def Happening.sight? : Happening → Option Sight
  | .began task => some (.began task)
  | .returned result => some (.ended result.toBool)
  | .sent packet => some (.sent packet)
  | .told _ | .listed _ => none

/-- The link is asked to connect when a session goes on to need it. -/
def connects (session : Session) : Event → List Sight
  | .reply reply =>
      if (machine.need session).isMetBy reply then
        match machine.need (session.feed reply) with
        | .connect => [.connect]
        | _ => []
      else []
  | .signal _ => []

def sights (session : Session) (event : Event) : List Sight :=
  (session.happenings event).filterMap Happening.sight? ++ session.connects event

/-- All that can be seen of a session from the link. -/
def sighting (events : List Event) (session : Session) : List Sight :=
  machine.trace sights events session

variable {origin session : Session} {events : List Event} {task : Task}

/-! ## What is seen of one reply -/

theorem connects_eq_nil {reply : Reply} (other : machine.need (session.feed reply) ≠ .connect) :
    session.connects (.reply reply) = [] := by
  simp only [connects]
  split <;> rfl

theorem need_ne_connect (idle : session.phase.isWorking = false) : machine.need session ≠ .connect := by
  intro needEq
  simp only [machine, need] at needEq
  cases phaseEq : session.phase <;> simp [Phase.isWorking, phaseEq] at idle needEq
  split at needEq <;> cases needEq

/-- A step that leaves no task on its way does not use the link. -/
theorem sights_of_idle {reply : Reply} (idle : (session.feed reply).phase.isWorking = false) :
    session.sights (.reply reply) = (session.notices reply).filterMap Happening.sight? := by
  have handsEq : machine.hands session (.reply reply) = [] := by
    rw [Machine.hands]
    split
    · exact congrArg Option.toList (packet?_of_quiet (Phase.isQuiet_of_idle idle))
    · rfl
  rw [sights, connects_eq_nil (need_ne_connect idle), happenings, handsEq, List.map_nil,
    List.append_nil, List.append_nil]

/-! ## What follows a reset -/

/-- The tasks that can follow a reset. -/
def Succeeds (cause : Task) (task : Task) : Prop :=
  cause = .reset ∧ (∃ target, task = .confirmAfterReset target) ∨
    cause = .resetBeforeUpload ∧ ∃ attempt, task = .validate attempt

/-- What a plan asks for after a reset is confirmed after the reset. -/
theorem confirmAfterReset_of_order {plan : Plan} {performed ahead : List Task}
    (order : performed ++ .reset :: ahead = byPriority (plan.imageTasks ++ plan.resetTasks))
    (member : task ∈ ahead) : ∃ target, task = .confirmAfterReset target := by
  have found : task ∈ plan.imageTasks ++ plan.resetTasks := by
    rw [← (Task.perm_byPriority _).mem_iff, ← order]
    simp [member]
  have late : Task.reset.priority ≤ task.priority := by
    have sorted := Task.sorted_byPriority (plan.imageTasks ++ plan.resetTasks)
    rw [← order] at sorted
    exact Task.priority_le_head (List.pairwise_append.mp sorted).2.1 (List.mem_cons_of_mem _ member)
  have once : ahead.count .reset = 0 := by
    have counts := plan.counts_tasks.resets
    rw [← (Task.perm_byPriority _).count_eq, ← order, List.count_append, List.count_cons_self] at counts
    omega
  rcases List.mem_append.mp found with images | resets
  · -- Of the tasks of an image only this one comes after the reset.
    obtain ⟨target, -, asks⟩ := Plan.asks_of_mem_imageTasks images
    cases asks with
    | confirmAfterReset => exact ⟨target, rfl⟩
    | _ => simp [Task.priority] at late
  · rcases Plan.mem_resetTasks resets with rfl | rfl
    · simp [Task.priority] at late
    · exact absurd member (List.count_eq_zero.mp once)

theorem Stage.succeeds {log : Log} {cause : Task} {completed ahead : List Task}
    (stage : Stage origin log completed (cause :: ahead))
    (resets : cause = .reset ∨ cause = .resetBeforeUpload) (member : task ∈ ahead) :
    Succeeds cause task := by
  generalize aheadEq : cause :: ahead = all at stage
  cases stage with
  | looking =>
      obtain ⟨rfl, -⟩ := List.cons.inj aheadEq
      rcases resets with resets | resets <;> cases resets
  | clearing =>
      obtain ⟨rfl, rfl⟩ := List.cons.inj aheadEq
      exact .inr ⟨rfl, _, List.mem_singleton.mp member⟩
  | @executing attempt found performed _ attempt_le plans returnedEq foundEq =>
      obtain ⟨slots, bootloader, -, -, planned⟩ := plans
      subst aheadEq
      rw [planned] at foundEq
      rcases resets with rfl | rfl
      · exact .inl ⟨rfl, confirmAfterReset_of_order foundEq member⟩
      · have round : .resetBeforeUpload ∈ performed ++ .resetBeforeUpload :: ahead := by simp
        rw [foundEq, (Task.perm_byPriority _).mem_iff] at round
        exact absurd rfl (Plan.ne_round_of_mem round).1

/-- A session whose next tasks can all follow a reset, and which has not begun any of them. -/
structure Heads (cause : Task) (session : Session) : Prop where
  idle : session.phase.isBusy = false
  ahead : ∀ task ∈ session.phase.taken ++ session.queue.tasks, Succeeds cause task

theorem find?_notices (session : Session) (reply : Reply) :
    ((session.notices reply).filterMap Happening.sight?).find? Sight.isContact = none := by
  refine List.find?_eq_none.mpr fun sight member => ?_
  obtain ⟨happening, noticed, sightEq⟩ := List.mem_filterMap.mp member
  cases happening with
  | sent packet => exact absurd noticed (sent_notMem_notices session reply packet)
  | began task | returned result =>
      cases sightEq
      simp [Sight.isContact]
  | told note | listed slots => cases sightEq

/-- The first task to begin makes the first contact. -/
theorem exists_contact_of_performing {cause : Task} (succeeds : Succeeds cause task)
    (phaseEq : session.phase = .performing task) :
    ∃ contact, (session.sights (.reply .ready)).find? Sight.isContact = some contact ∧
      (contact = .connect ↔ cause = .reset) := by
  have met : (machine.need session).isMetBy .ready = true := by
    simp only [machine, need, phaseEq, Need.isMetBy]
  have fedEq : session.feed .ready = session.perform task := by simp only [feed, phaseEq]
  have quiet := find?_notices session .ready
  rw [sights, happenings, List.filterMap_append, List.append_assoc, List.find?_append, quiet,
    Option.none_or, connects, if_pos met, Machine.hands, if_pos met]
  rcases succeeds with ⟨rfl, target, rfl⟩ | ⟨rfl, attempt, rfl⟩
  · have needEq : machine.need (session.feed .ready) = .connect := by
      rw [fedEq]
      rfl
    have handsEq : (machine.need (machine.feed .ready session)).packet? = none :=
      congrArg Need.packet? needEq
    rw [handsEq, needEq]
    exact ⟨.connect, rfl, by simp⟩
  · obtain ⟨packet, -, asked⟩ := exists_ask (.bootloader attempt) session
    have needEq : machine.need (session.feed .ready) = .exchange packet .generic := by
      rw [fedEq, perform, asked]
      rfl
    have handsEq : (machine.need (machine.feed .ready session)).packet? = some packet :=
      congrArg Need.packet? needEq
    rw [handsEq, needEq]
    exact ⟨.sent packet, rfl, by simp⟩

theorem Heads.isWorking_eq_false {cause : Task} (heads : session.Heads cause) :
    session.phase.isWorking = false := by
  by_contra working
  have busy := Phase.isBusy_of_isWorking (Bool.not_eq_false _ ▸ working)
  cases busy.symm.trans heads.idle

/-- Until then the link is not used. -/
theorem Heads.stays {cause : Task} (heads : session.Heads cause)
    {reply : Reply} (waits : reply = .ready → ∀ task, session.phase ≠ .performing task) :
    (session.feed reply).Heads cause := by
  by_cases other : reply ≠ .ready
  · rw [(stays_of_ne_ready heads.isWorking_eq_false other).2]
    exact heads
  obtain rfl := not_not.mp other
  obtain ⟨idle, ahead⟩ := heads
  have turn := turn_feed session .ready
  generalize session.notices .ready = seen, session.feed .ready = next at turn ⊢
  cases turn with
  | stayed => exact ⟨idle, ahead⟩
  | opened phaseEq | announced phaseEq =>
      simp only [Phase.taken, phaseEq] at ahead
      exact ⟨rfl, ahead⟩
  | took phaseEq tasksEq =>
      simp only [Phase.taken, phaseEq, tasksEq] at ahead
      exact ⟨rfl, ahead⟩
  | entered phaseEq nextEq =>
      simp only [Phase.taken, phaseEq] at ahead
      rcases nextEq with ⟨-, rfl⟩ | ⟨-, rfl⟩
      · exact ⟨rfl, ahead⟩
      · exact ⟨rfl, ahead⟩
  | emptied phaseEq | concluded phaseEq =>
      simp only [Phase.taken, phaseEq] at ahead
      exact ⟨rfl, ahead⟩
  | began phaseEq => exact absurd phaseEq (waits rfl _)
  | worked working => rw [Phase.isBusy_of_isWorking working] at idle; cases idle
  | returned phaseEq => rw [phaseEq] at idle; cases idle
  | reported phaseEq => exact ⟨rfl, by simp [Phase.taken, TaskQueue.clear]⟩

theorem Heads.signal {cause : Task} (heads : session.Heads cause) (signal : Signal) :
    (session.signal signal).2.Heads cause := by
  have signaled := signaled_signal signal session
  have phaseEq : (session.signal signal).2.phase = session.phase := by
    rcases signaled.phase with same | ⟨job, phaseEq, -⟩
    · exact same
    · have idle := heads.idle
      rw [phaseEq] at idle
      cases idle
  refine ⟨phaseEq ▸ heads.idle, ?_⟩
  rw [phaseEq]
  rcases signaled.queue with ⟨queueEq, -⟩ | ⟨-, queueEq, -⟩
  · rw [queueEq]
    exact heads.ahead
  · rw [queueEq]
    intro task member
    exact heads.ahead task (List.mem_append_left _ (by simpa [TaskQueue.clear] using member))

theorem Heads.connect_iff {cause : Task} (heads : session.Heads cause) {contact : Sight}
    (next : (sighting events session).find? Sight.isContact = some contact) :
    contact = .connect ↔ cause = .reset := by
  induction events generalizing session with
  | nil => cases next
  | cons event events ih =>
      rw [sighting, Machine.trace_cons, List.find?_append] at next
      cases event with
      | signal signal => exact ih (heads.signal signal) next
      | reply reply =>
          by_cases performing : reply = .ready ∧ ∃ task, session.phase = .performing task
          · obtain ⟨rfl, task, phaseEq⟩ := performing
            have succeeds := heads.ahead task (by simp [Phase.taken, phaseEq])
            obtain ⟨first, foundEq, connects⟩ := exists_contact_of_performing succeeds phaseEq
            rw [foundEq, Option.some_or] at next
            obtain rfl := Option.some.inj next
            exact connects
          · have stays := heads.stays fun ready task phaseEq => performing ⟨ready, task, phaseEq⟩
            rw [sights_of_idle stays.isWorking_eq_false, find?_notices, Option.none_or] at next
            exact ih stays next

/-! ## Resets that end -/

theorem begun_addAll (log : Log) (history : List Happening) :
    (log.addAll history).begun =
      log.begun ++ (history.filterMap Happening.sight?).filterMap Sight.begun? := by
  induction history generalizing log with
  | nil => simp
  | cons happening history ih =>
      rw [Log.addAll_cons, ih]
      cases happening with
      | told note => cases note <;> rfl
      | began task => exact List.append_assoc _ [task] _
      | _ => rfl

theorem filterMap_begun?_sights (session : Session) (event : Event) :
    (session.sights event).filterMap Sight.begun? =
      ((session.happenings event).filterMap Happening.sight?).filterMap Sight.begun? := by
  have contacts : (session.connects event).filterMap Sight.begun? = [] := by
    cases event with
    | signal signal => rfl
    | reply reply =>
        simp only [connects]
        repeat' split
        all_goals rfl
  rw [sights, List.filterMap_append, contacts, List.append_nil]

/-- The link's view and the log know of the same tasks. -/
theorem filterMap_begun?_sighting (events : List Event) (session : Session) :
    (sighting events session).filterMap Sight.begun? = (Log.of (history events session)).begun := by
  induction events using List.reverseRecOn with
  | nil => rfl
  | append_singleton events event ih =>
      rw [sighting, history, Machine.trace_concat, Machine.trace_concat, List.filterMap_append,
        Log.of_append, begun_addAll, filterMap_begun?_sights]
      exact congrArg (· ++ _) ih

theorem performed_of_mem_sights {event : Event} (member : .ended true ∈ session.sights event) :
    ∃ found, event = .reply .ready ∧ session.phase = .performed (.ok found) ∧
      session.notices .ready = [.returned (.ok found)] := by
  rcases List.mem_append.mp member with seen | connected
  · obtain ⟨happening, happened, sightEq⟩ := List.mem_filterMap.mp seen
    cases event with
    | signal signal => cases happened
    | reply reply =>
        cases happening with
        | returned result =>
            have noticed : .returned result ∈ session.notices reply := by
              rcases List.mem_append.mp happened with noticed | sent
              · exact noticed
              · obtain ⟨packet, -, other⟩ := List.mem_map.mp sent
                cases other
            obtain ⟨phaseEq, alone⟩ := performed_of_mem_notices noticed
            cases result with
            | error failure => cases sightEq
            | ok found =>
                have idle : session.phase.isWorking = false := by
                  rw [phaseEq]
                  rfl
                by_cases other : reply ≠ .ready
                · cases alone.symm.trans (stays_of_ne_ready idle other).1
                · obtain rfl := not_not.mp other
                  exact ⟨found, rfl, phaseEq, alone⟩
        | _ => cases sightEq
  · cases event with
    | signal signal => cases connected
    | reply reply =>
        simp only [connects] at connected
        split at connected
        · split at connected
          · simp at connected
          · cases connected
        · cases connected

/-- A task ends well at one event, and what is seen later is seen of the session after it. -/
theorem exists_of_ended {before after : List Sight}
    (split : sighting events origin = before ++ .ended true :: after) :
    ∃ first rest found, before = sighting first origin ∧
      (machine.after first origin).phase = .performed (.ok found) ∧
      after = sighting rest ((machine.after first origin).conclude (.ok found)) := by
  obtain ⟨first, event, earlier, later, ⟨rest, eventsEq⟩, beforeEq, seenEq⟩ :=
    Machine.exists_of_trace_eq_append split
  have member : .ended true ∈ (machine.after first origin).sights event := by
    rw [seenEq]
    simp
  obtain ⟨found, rfl, phaseEq, alone⟩ := performed_of_mem_sights member
  have fedEq : (machine.after first origin).feed .ready =
      (machine.after first origin).conclude (.ok found) := by
    simp only [feed, phaseEq]
  have nextEq : ((machine.after first origin).feed .ready).phase = .choosing := by
    rw [fedEq]
    simp only [conclude]
    split <;> rfl
  have sightsEq : (machine.after first origin).sights (.reply .ready) = [.ended true] := by
    rw [sights_of_idle (nextEq ▸ rfl), alone]
    rfl
  rw [sightsEq] at seenEq
  obtain ⟨rfl, rfl⟩ : earlier = [] ∧ later = [] := by
    have lengths := congrArg List.length seenEq
    simp only [List.length_append, List.length_cons, List.length_nil] at lengths
    exact ⟨List.eq_nil_of_length_eq_zero (by omega), List.eq_nil_of_length_eq_zero (by omega)⟩
  rw [List.append_nil] at beforeEq
  refine ⟨first, rest, found, beforeEq, phaseEq, ?_⟩
  rw [← eventsEq, sighting, Machine.trace_append, Machine.trace_concat, sightsEq,
    Machine.after_concat, beforeEq, List.append_assoc] at split
  have tailEq := (List.cons.inj (List.append_cancel_left split)).2
  rw [← tailEq, ← fedEq]
  rfl

theorem heads_of_performed (fresh : origin.IsFresh) {found : List Task} {cause : Task}
    (phaseEq : (machine.after events origin).phase = .performed (.ok found))
    (lastEq : (Log.of (history events origin)).begun.getLast? = some cause)
    (resets : cause = .reset ∨ cause = .resetBeforeUpload) :
    ((machine.after events origin).conclude (.ok found)).Heads cause := by
  have course := (course_after fresh events).1
  generalize machine.after events origin = session, Log.of (history events origin) = log at *
  obtain ⟨completed, ahead, task, stage, begunEq, -, awaits, serves, -⟩ :=
    course.of_working (.inr ⟨_, phaseEq⟩)
  rw [begunEq, List.getLast?_concat] at lastEq
  obtain rfl := Option.some.inj lastEq
  have none : found = [] := by
    rw [phaseEq] at serves
    have finds := serves found rfl
    rcases resets with rfl | rfl <;> exact finds
  subst none
  have queueEq : (session.conclude (.ok [])).queue = session.queue := by
    simp only [conclude]
    split <;> rfl
  have nextEq : (session.conclude (.ok [])).phase = .choosing := by
    simp only [conclude]
    split <;> rfl
  refine ⟨nextEq ▸ rfl, ?_⟩
  intro next member
  rw [nextEq, queueEq] at member
  refine stage.succeeds resets ?_
  cases canceled : session.canceled with
  | false =>
      have whole := awaits.all canceled
      rw [phaseEq] at whole
      rw [← whole]
      exact member
  | true =>
      -- A cancel has emptied the queue.
      rw [(awaits.canceled canceled).1] at member
      cases member

/-- Once a reset has ended well, what a session does first on the link is to connect if the reset was
the one of its plan, and to send its next request if it was to clear a slot. -/
theorem connect_iff_of_ended {scheme : Scheme} {mtu : Nat} {settings : UpgradeSettings}
    {images : ImageSet} {mode : UpgradeMode} {seq : UInt8}
    (started : start scheme mtu settings images mode seq = .ok origin) {before after : List Sight}
    (split : sighting events origin = before ++ .ended true :: after)
    (lastEq : (before.filterMap Sight.begun?).getLast? = some task)
    (resets : task = .reset ∨ task = .resetBeforeUpload) {contact : Sight}
    (next : after.find? Sight.isContact = some contact) : contact = .connect ↔ task = .reset := by
  obtain ⟨first, rest, found, rfl, phaseEq, rfl⟩ := exists_of_ended split
  rw [filterMap_begun?_sighting] at lastEq
  have heads := heads_of_performed (isFresh_of_start started) phaseEq lastEq resets
  exact heads.connect_iff next

/-- What the link sees of the session whose slot is blocked at first. -/
def blockedOnceSights : List Sight :=
  sighting blockedOnce oneByteStart

theorem connect_iff_blockedOnce :
    (start .ble 65 { disconnectTimeout := 0 } ⟨[oneByteImage]⟩ .testAndConfirm 0 = .ok oneByteStart ∧
      blockedOnceSights = blockedOnceSights.take 16 ++ .ended true :: blockedOnceSights.drop 17 ∧
      ((blockedOnceSights.take 16).filterMap Sight.begun?).getLast? = some .reset ∧
      (blockedOnceSights.drop 17).find? Sight.isContact = some .connect) ∧
      (Sight.connect = .connect ↔ Task.reset = .reset) := by
  have started : start .ble 65 { disconnectTimeout := 0 } ⟨[oneByteImage]⟩ .testAndConfirm 0 =
      .ok oneByteStart := rfl
  have split : blockedOnceSights =
      blockedOnceSights.take 16 ++ .ended true :: blockedOnceSights.drop 17 := by decide +kernel
  have lastEq : ((blockedOnceSights.take 16).filterMap Sight.begun?).getLast? = some .reset := by
    decide +kernel
  have next : (blockedOnceSights.drop 17).find? Sight.isContact = some .connect := by decide +kernel
  exact ⟨⟨started, split, lastEq, next⟩, connect_iff_of_ended started split lastEq (.inl rfl) next⟩

/-- After the reset that clears the slot, the session asks for the boot loader without a connection. -/
theorem sent_unconnected_after_reset :
    start .ble 65 { disconnectTimeout := 0 } ⟨[oneByteImage]⟩ .testAndConfirm 0 = .ok oneByteStart ∧
      ∃ before after packet, blockedOnceSights = before ++ .ended true :: after ∧
        (before.filterMap Sight.begun?).getLast? = some .resetBeforeUpload ∧
        after.find? Sight.isContact = some (.sent packet) :=
  ⟨rfl, blockedOnceSights.take 6, blockedOnceSights.drop 7,
    ((Question.bootloader 1).packet .ble 3).toOption.getD [], by decide +kernel, by decide +kernel,
    by decide +kernel⟩

end Session

end SmpClient
