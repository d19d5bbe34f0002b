import SmpClient.Proofs.Packet.PacketLength
import SmpClient.Proofs.Transfer.Stops
import SmpClient.Proofs.Upgrade.Requests

/-!
# What is left of a task

A session looks for a cancel when it takes a task, before an upload, and in its waits.  It does not look
for one within a task.  So a canceled session still sends what is left of the task at hand: all of its
requests if it was taken and has not begun, and the list of images if the boot loader is being asked.
-/

namespace SmpClient

theorem Command.exists_packet_of_record {α : Type} {command : Command α}
    {fields : List (String × Cbor.Value)} (payloadEq : command.payload = .record fields)
    (scheme : Scheme) (seq : UInt8) : ∃ packet, command.packet scheme seq = .ok packet := by
  rw [packet, payloadEq]
  exact Packet.exists_build scheme _ 0 _ seq _ fields

/-- The questions that are asked for a task, one after the other. -/
def Task.questions : Task → List Session.Question
  | .validate attempt => [.bootloader attempt, .slots attempt none]
  | .upload _ => []
  | .eraseStorage => [.erase]
  | .test target => [.test target]
  | .confirm target | .confirmAfterReset target => [.confirm target]
  | .reset | .resetBeforeUpload => [.reset]

namespace Session

variable {origin session : Session}

/-! ## What is left of a task -/

namespace Question

/-- The packets of questions that are asked one after the other. -/
def packets (scheme : Scheme) : UInt8 → List Question → List Bytes
  | _, [] => []
  | seq, question :: rest =>
      (question.packet scheme seq).toOption.toList ++ packets scheme (seq + 1) rest

/-- The questions that follow from a question within a task. -/
def following : Question → List Question
  | .bootloader attempt => [.slots attempt none]
  | _ => []

theorem exists_packet (question : Question) (scheme : Scheme) (seq : UInt8) :
    ∃ packet, question.packet scheme seq = .ok packet := by
  have ofNothing {α : Type} {command : Command α} (payloadEq : command.payload = Message.nothing) :
      ∃ packet, command.packet scheme seq = .ok packet :=
    Command.exists_packet_of_record (payloadEq.trans (rfl : _ = Cbor.Value.record [])) scheme seq
  cases question with
  | slots attempt mode => exact ofNothing rfl
  | erase => exact ofNothing rfl
  | _ => exact Command.exists_packet_of_record rfl scheme seq

theorem packets_cons {question : Question} {scheme : Scheme} {seq : UInt8} {packet : Bytes}
    (built : question.packet scheme seq = .ok packet) (rest : List Question) :
    packets scheme seq (question :: rest) = packet :: packets scheme (seq + 1) rest := by
  rw [packets, built]
  rfl

end Question

/-- What is still sent for the task at hand, if nobody looks for a cancel within it. -/
def leftover (session : Session) : List Bytes :=
  match session.phase with
  | .entering task | .announcing _ task | .performing task =>
      Question.packets session.scheme session.seq task.questions
  | .inspecting attempt _ => Question.packets session.scheme session.seq [.slots attempt none]
  | .asking question _ => Question.packets session.scheme session.seq question.following
  | .connecting target => Question.packets session.scheme session.seq [.confirm target]
  | .uploading job => job.filling
  | _ => []

/-- The packet that is out, and what is left to be sent. -/
def remaining (session : Session) : List Bytes :=
  (machine.need session).packet?.toList ++ session.leftover

/-- Whether no packet is out. -/
def Phase.isQuiet : Phase → Bool
  | .asking _ _ | .uploading _ => false
  | _ => true

theorem Phase.isQuiet_of_idle {phase : Phase} (idle : phase.isWorking = false) :
    phase.isQuiet = true := by
  cases phase <;> first | rfl | cases idle

theorem packet?_of_quiet (quiet : session.phase.isQuiet = true) :
    (machine.need session).packet? = none := by
  by_contra some
  obtain ⟨packet, handed⟩ := Option.ne_none_iff_exists'.mp some
  rcases sends_of_packet? handed with ⟨question, phaseEq⟩ | ⟨job, phaseEq, -⟩
  · simp [Phase.isQuiet, phaseEq] at quiet
  · simp [Phase.isQuiet, phaseEq] at quiet

theorem remaining_of_quiet (quiet : session.phase.isQuiet = true) :
    session.remaining = session.leftover := by
  rw [remaining, packet?_of_quiet quiet]
  rfl

theorem exists_ask (question : Question) (session : Session) :
    ∃ packet, question.packet session.scheme session.seq = .ok packet ∧
      session.ask question =
        { session with seq := session.seq + 1, phase := .asking question packet } := by
  obtain ⟨packet, built⟩ := question.exists_packet session.scheme session.seq
  refine ⟨packet, built, ?_⟩
  simp only [ask, built]

/-- A question goes out, and those that follow from it are left. -/
theorem remaining_ask (question : Question) (session : Session) :
    (session.ask question).remaining =
      Question.packets session.scheme session.seq (question :: question.following) := by
  obtain ⟨packet, built, asked⟩ := exists_ask question session
  rw [asked, Question.packets_cons built]
  rfl

theorem remaining_answer (question : Question) (packet : Bytes) (outcome : Except Error Response)
    (session : Session) :
    (session.answer question packet outcome).remaining <+:
      Question.packets session.scheme session.seq question.following := by
  cases question with
  | bootloader attempt =>
      simp only [answer]
      split
      · exact List.prefix_refl _
      · exact List.nil_prefix
  | reset =>
      simp only [answer, afterReset]
      repeat' split
      all_goals
        rw [remaining_of_quiet rfl]
        exact List.nil_prefix
  | _ => exact List.nil_prefix

/-- What is out and what is left after the first step of a task is all that is sent for it. -/
theorem remaining_perform {task : Task} (canceled : session.canceled = true) :
    (session.perform task).remaining =
      Question.packets session.scheme session.seq task.questions := by
  cases task with
  | upload target =>
      simp only [perform, canceled, if_true]
      rfl
  | confirmAfterReset target => exact remaining_of_quiet rfl
  | _ => exact remaining_ask _ _

/-! ## All that is left can go out -/

theorem exists_handed_of_feed (reply : Reply) (met : (machine.need session).isMetBy reply = true)
    (whole : (session.feed reply).remaining = session.leftover)
    (later : ∃ events, machine.handed events (session.feed reply) = (session.feed reply).leftover) :
    ∃ events, machine.handed events session = session.leftover := by
  obtain ⟨events, handedEq⟩ := later
  refine ⟨.reply reply :: events, ?_⟩
  rw [← whole, remaining, ← handedEq, Machine.handed, Machine.trace_cons, Machine.hands, if_pos met]
  rfl

theorem exists_handed_of_leftover (none : session.leftover = []) :
    ∃ events, machine.handed events session = session.leftover :=
  ⟨[], none.symm⟩

theorem exists_handed_of_asking {question : Question} {packet : Bytes}
    (phaseEq : session.phase = .asking question packet) :
    ∃ events, machine.handed events session = session.leftover := by
  have leftoverEq : session.leftover =
      Question.packets session.scheme session.seq question.following := by
    simp only [leftover, phaseEq]
  cases question with
  | bootloader attempt =>
      -- A device that knows no boot loader does not end the look at it.
      have met : (machine.need session).isMetBy (.answer (.error (.device 8 none))) = true := by
        simp only [machine, need, phaseEq, Need.isMetBy]
      have fedEq : session.feed (.answer (.error (.device 8 none))) =
          { session with phase := .inspecting attempt none } := by
        simp only [feed, phaseEq]
        rfl
      refine exists_handed_of_feed _ met ?_ ?_
      · rw [fedEq, leftoverEq]
        rfl
      · rw [fedEq]
        refine exists_handed_of_feed .ready rfl ?_ ?_
        · exact remaining_ask _ _
        · obtain ⟨listing, -, asked⟩ := exists_ask (.slots attempt none)
            { session with phase := .inspecting attempt none }
          apply exists_handed_of_leftover
          simp only [feed, asked]
          rfl
  | _ => exact exists_handed_of_leftover leftoverEq

theorem exists_handed_of_ask (reply : Reply) (met : (machine.need session).isMetBy reply = true)
    {asker : Session} {question : Question} (fedEq : session.feed reply = asker.ask question)
    (leftoverEq : session.leftover =
      Question.packets asker.scheme asker.seq (question :: question.following)) :
    ∃ events, machine.handed events session = session.leftover := by
  refine exists_handed_of_feed reply met ?_ ?_
  · rw [fedEq, leftoverEq, remaining_ask]
  · obtain ⟨packet, -, asked⟩ := exists_ask question asker
    rw [fedEq, asked]
    exact exists_handed_of_asking rfl

theorem exists_handed_of_connecting {target : TargetImage}
    (phaseEq : session.phase = .connecting target) :
    ∃ events, machine.handed events session = session.leftover := by
  have fedEq : session.feed (.connected (.ok ())) = session.ask (.confirm target) := by
    simp only [feed, phaseEq]
  refine exists_handed_of_ask _ ?_ fedEq ?_
  · simp only [machine, need, phaseEq, Need.isMetBy]
  · simp only [leftover, phaseEq]
    rfl

theorem exists_handed_of_performing {task : Task}
    (phaseEq : session.phase = .performing task) :
    ∃ events, machine.handed events session = session.leftover := by
  have met : (machine.need session).isMetBy .ready = true := by
    simp only [machine, need, phaseEq, Need.isMetBy]
  have leftoverEq : session.leftover =
      Question.packets session.scheme session.seq task.questions := by
    simp only [leftover, phaseEq]
  have fedEq : session.feed .ready = session.perform task := by simp only [feed, phaseEq]
  cases task with
  | upload target => exact exists_handed_of_leftover leftoverEq
  | confirmAfterReset target =>
      refine exists_handed_of_feed .ready met ?_ ?_
      · rw [fedEq, leftoverEq]
        exact remaining_of_quiet rfl
      · rw [fedEq]
        exact exists_handed_of_connecting rfl
  | _ => exact exists_handed_of_ask .ready met fedEq leftoverEq

theorem exists_handed_of_announcing {before : UpgradeState} {task : Task}
    (phaseEq : session.phase = .announcing before task) :
    ∃ events, machine.handed events session = session.leftover := by
  have fedEq : session.feed .ready = { session with phase := .performing task } := by
    simp only [feed, phaseEq]
  refine exists_handed_of_feed .ready ?_ ?_ ?_
  · simp only [machine, need, phaseEq, Need.isMetBy]
  · rw [fedEq, leftover, phaseEq]
    exact remaining_of_quiet rfl
  · rw [fedEq]
    exact exists_handed_of_performing rfl

/-- What is left of a task can all be sent, if the task is no upload. -/
theorem exists_handed_eq_leftover (other : ∀ job, session.phase ≠ .uploading job) :
    ∃ events, machine.handed events session = session.leftover := by
  cases phaseEq : session.phase with
  | entering task =>
      have met : (machine.need session).isMetBy .ready = true := by
        simp only [machine, need, phaseEq, Need.isMetBy]
      refine exists_handed_of_feed .ready met ?_ ?_
      · simp only [feed, phaseEq, enter]
        split
        · simp only [leftover, phaseEq]
          exact remaining_of_quiet rfl
        · simp only [leftover, phaseEq]
          exact remaining_of_quiet rfl
      · simp only [feed, phaseEq, enter]
        split
        · exact exists_handed_of_performing rfl
        · exact exists_handed_of_announcing rfl
  | announcing before task => exact exists_handed_of_announcing phaseEq
  | performing task => exact exists_handed_of_performing phaseEq
  | inspecting attempt mode =>
      have fedEq : session.feed .ready = session.ask (.slots attempt mode) := by
        simp only [feed, phaseEq]
      refine exists_handed_of_ask _ ?_ fedEq ?_
      · simp only [machine, need, phaseEq, Need.isMetBy]
      · simp only [leftover, phaseEq]
        rfl
  | asking question packet => exact exists_handed_of_asking phaseEq
  | connecting target => exact exists_handed_of_connecting phaseEq
  | uploading job => exact absurd phaseEq (other job)
  | _ =>
      apply exists_handed_of_leftover
      simp only [leftover, phaseEq]

/-! ## Canceled sessions -/

/-- A session that takes no more tasks and starts no upload. -/
structure Closing (session : Session) : Prop where
  canceled : session.canceled = true ∨ session.phase = .over
  stopped : ∀ job, session.phase = .uploading job → job.Stopped

/-- A step after which no packet is out sends none. -/
theorem sends_quietly {reply : Reply} (quiet : (session.feed reply).phase.isQuiet = true)
    (less : (session.feed reply).leftover <+: session.leftover) :
    machine.hands session (.reply reply) ++ (session.feed reply).leftover <+: session.leftover := by
  have handsEq : machine.hands session (.reply reply) = [] := by
    rw [Machine.hands]
    split
    · exact congrArg Option.toList (packet?_of_quiet quiet)
    · rfl
  rw [handsEq]
  exact less

/-- A step that goes on sends the packet that is out after it. -/
theorem sends_of_met {reply : Reply} (met : (machine.need session).isMetBy reply = true)
    (less : (session.feed reply).remaining <+: session.leftover) :
    machine.hands session (.reply reply) ++ (session.feed reply).leftover <+: session.leftover := by
  rw [Machine.hands, if_pos met]
  exact less

theorem sends_of_idle (closing : session.Closing) (idle : session.phase.isWorking = false)
    (reply : Reply) :
    machine.hands session (.reply reply) ++ (session.feed reply).leftover <+: session.leftover := by
  by_cases ready : reply = .ready
  · subst ready
    cases phaseEq : session.phase with
    | inspecting _ _ | asking _ _ | connecting _ | uploading _ | awaitingDrop | swapping _ =>
        simp [Phase.isWorking, phaseEq] at idle
    | choosing =>
        have canceled : session.canceled = true :=
          closing.canceled.resolve_right (by simp [phaseEq])
        apply sends_quietly
        · simp only [feed, phaseEq, choose, canceled, if_true]
          rfl
        · simp only [feed, phaseEq, choose, canceled, if_true]
          exact List.nil_prefix
    | entering task =>
        apply sends_quietly
        · simp only [feed, phaseEq, enter]
          split <;> rfl
        · simp only [feed, phaseEq, enter]
          split
          · simp only [leftover, phaseEq]
            exact List.prefix_refl _
          · simp only [leftover, phaseEq]
            exact List.prefix_refl _
    | announcing before task =>
        apply sends_quietly
        · simp only [feed, phaseEq]
          rfl
        · simp only [feed, leftover, phaseEq]
          exact List.prefix_refl _
    | performing task =>
        have canceled : session.canceled = true :=
          closing.canceled.resolve_right (by simp [phaseEq])
        apply sends_of_met
        · simp only [machine, need, phaseEq, Need.isMetBy]
        · simp only [feed, leftover, phaseEq, remaining_perform canceled]
          exact List.prefix_refl _
    | performed result =>
        obtain ⟨queue, phase, nextEq, concluded⟩ := conclude_cases result session
        apply sends_quietly
        · simp only [feed, phaseEq, nextEq]
          rcases concluded with rfl | ⟨note, rfl⟩ <;> rfl
        · simp only [feed, phaseEq, nextEq]
          rcases concluded with rfl | ⟨note, rfl⟩ <;> exact List.nil_prefix
    | starting | concluding | reporting note | «over» =>
        apply sends_quietly
        · simp [feed, phaseEq, Phase.isQuiet]
        · simp [feed, leftover, phaseEq]
  · have same := (stays_of_ne_ready idle ready).2
    apply sends_quietly
    · rw [same]
      exact Phase.isQuiet_of_idle idle
    · simpa only [same] using List.prefix_refl session.leftover

theorem packet?_of_uploading {job : UploadJob} (phaseEq : session.phase = .uploading job) :
    (machine.need session).packet? = (UploadJob.machine.need job).packet? := by
  simp only [machine, need, phaseEq, UploadJob.machine]
  cases job.need <;> rfl

/-- While an upload goes on, the session sends what the upload sends. -/
theorem sends_of_uploading {job : UploadJob} (phaseEq : session.phase = .uploading job)
    (stopped : job.Stopped) (reply : Reply) :
    machine.hands session (.reply reply) ++ (session.feed reply).leftover <+: session.leftover := by
  have leftoverEq : session.leftover = job.filling := by simp only [leftover, phaseEq]
  by_cases ended : ∃ result, job.need = .finished result
  · obtain ⟨result, needEq⟩ := ended
    have fedEq : session.feed reply = session.afterUpload job result := by
      simp only [feed, phaseEq, needEq]
    apply sends_quietly
    · rw [fedEq]
      rfl
    · rw [fedEq]
      exact List.nil_prefix
  · have fedEq : session.feed reply = { session with phase := .uploading (job.feed reply) } := by
      simp only [feed, phaseEq]
      split
      · rename_i result needEq
        exact absurd ⟨result, needEq⟩ ended
      · rfl
    have metEq : (machine.need session).isMetBy reply = (UploadJob.machine.need job).isMetBy reply := by
      simp only [machine, need, phaseEq, UploadJob.machine]
      cases needEq : job.need with
      | finished result => exact absurd ⟨result, needEq⟩ ended
      | _ => cases reply <;> rfl
    have handsEq : machine.hands session (.reply reply) =
        UploadJob.machine.hands job (.reply reply) := by
      have packetEq : (machine.need (session.feed reply)).packet? =
          (UploadJob.machine.need (UploadJob.machine.feed reply job)).packet? :=
        packet?_of_uploading (by rw [fedEq]; rfl)
      simp only [Machine.hands, metEq]
      rw [← packetEq]
      rfl
    rw [handsEq, leftoverEq, fedEq]
    exact (stopped.halted.feed reply).2

theorem sends_of_working (closing : session.Closing) (working : session.phase.isWorking = true)
    (reply : Reply) :
    machine.hands session (.reply reply) ++ (session.feed reply).leftover <+: session.leftover := by
  cases phaseEq : session.phase with
  | inspecting attempt mode =>
      cases reply with
      | ready =>
          apply sends_of_met
          · simp only [machine, need, phaseEq, Need.isMetBy]
          · simp only [feed, leftover, phaseEq, remaining_ask]
            exact List.prefix_refl _
      | _ =>
          apply sends_quietly
          · simp only [feed, phaseEq, Phase.isQuiet]
          · simp only [feed, phaseEq]
            exact List.prefix_refl _
  | asking question packet =>
      cases reply with
      | answer outcome =>
          apply sends_of_met
          · simp only [machine, need, phaseEq, Need.isMetBy]
          · simp only [feed, leftover, phaseEq]
            exact remaining_answer question packet outcome session
      | _ =>
          simp only [Machine.hands, machine, need, feed, phaseEq, Need.isMetBy]
          exact List.prefix_refl _
  | connecting target =>
      cases reply with
      | connected outcome =>
          cases outcome with
          | error failure =>
              apply sends_quietly
              · simp only [feed, phaseEq]
                rfl
              · simp only [feed, phaseEq]
                exact List.nil_prefix
          | ok connected =>
              apply sends_of_met
              · simp only [machine, need, phaseEq, Need.isMetBy]
              · simp only [feed, leftover, phaseEq, remaining_ask]
                exact List.prefix_refl _
      | _ =>
          apply sends_quietly
          · simp only [feed, phaseEq, Phase.isQuiet]
          · simp only [feed, phaseEq]
            exact List.prefix_refl _
  | uploading job => exact sends_of_uploading phaseEq (closing.stopped job phaseEq) reply
  | awaitingDrop =>
      apply sends_quietly
      · cases reply <;> simp only [feed, phaseEq, afterDrop] <;> repeat' split
        all_goals first | rfl | simp only [phaseEq, Phase.isQuiet]
      · cases reply <;> simp only [feed, phaseEq, afterDrop] <;> repeat' split
        all_goals first | exact List.nil_prefix | exact List.prefix_refl _
  | swapping milliseconds =>
      apply sends_quietly
      · cases reply <;> simp only [feed, phaseEq] <;> rfl
      · cases reply <;> simp only [feed, phaseEq]
        all_goals first | exact List.nil_prefix | exact List.prefix_refl _
  | _ => simp [Phase.isWorking, phaseEq] at working

theorem sends_feed (closing : session.Closing) (reply : Reply) :
    machine.hands session (.reply reply) ++ (session.feed reply).leftover <+: session.leftover := by
  by_cases working : session.phase.isWorking = true
  · exact sends_of_working closing working reply
  · exact sends_of_idle closing (Bool.not_eq_true _ ▸ working) reply

/-- Where an upload comes from that is going on. -/
theorem uploading_feed {reply : Reply} {job : UploadJob}
    (nextEq : (session.feed reply).phase = .uploading job) :
    (∃ before, session.phase = .uploading before ∧ job = UploadJob.machine.feed reply before) ∨
      ∃ target, session.canceled = false ∧ job = session.uploadJob target := by
  by_cases working : session.phase.isWorking = true
  · obtain ⟨task, serves⟩ := exists_serves working session {}
    have served := serves_feed rfl working serves reply
    rw [nextEq] at served
    obtain ⟨target, rfl⟩ := served
    cases phaseEq : session.phase with
    | uploading before =>
        left
        simp only [Session.feed, phaseEq] at nextEq
        split at nextEq
        · cases nextEq
        · exact ⟨before, rfl, (Phase.uploading.inj nextEq).symm⟩
    | asking question packet =>
        rw [phaseEq] at serves
        cases question <;> simp [Phase.Serves, Question.Serves] at serves
    | _ =>
        simp [Phase.Serves, Phase.isWorking, phaseEq] at serves working
  · have turn := turn_feed session reply
    generalize session.notices reply = seen, session.feed reply = next at turn nextEq
    cases turn with
    | stayed =>
        rw [nextEq] at working
        exact absurd rfl working
    | worked busy => exact absurd busy working
    | @began task phaseEq =>
        right
        cases task with
        | upload target =>
            simp only [perform] at nextEq
            split at nextEq
            · cases nextEq
            · rename_i uncanceled
              exact ⟨target, Bool.not_eq_true _ ▸ uncanceled, (Phase.uploading.inj nextEq).symm⟩
        | confirmAfterReset target => cases nextEq
        | _ =>
            obtain ⟨packet, -, asked⟩ := exists_ask _ _
            simp only [perform] at nextEq
            rw [asked] at nextEq
            cases nextEq
    | returned phaseEq =>
        obtain ⟨queue, phase, concludeEq, concluded⟩ := conclude_cases _ session
        rw [concludeEq] at nextEq
        rcases concluded with rfl | ⟨note, rfl⟩ <;> cases nextEq
    | entered phaseEq nextPhase =>
        rcases nextPhase with ⟨-, rfl⟩ | ⟨-, rfl⟩ <;> cases nextEq
    | _ => cases nextEq

theorem Closing.feed (closing : session.Closing) (reply : Reply) : (session.feed reply).Closing where
  canceled := by
    rcases closing.canceled with canceled | atEnd
    · exact .inl ((canceled_feed session reply).trans canceled)
    · right
      cases reply <;> simp only [Session.feed, atEnd]
  stopped := by
    intro job nextEq
    rcases uploading_feed nextEq with ⟨before, phaseEq, rfl⟩ | ⟨target, uncanceled, -⟩
    · exact (closing.stopped before phaseEq).feed reply
    · rcases closing.canceled with canceled | atEnd
      · cases canceled.symm.trans uncanceled
      · simp [Session.feed, atEnd] at nextEq

theorem uploading_signal {signal : Signal} {job : UploadJob}
    (nextEq : (session.signal signal).2.phase = .uploading job) :
    ∃ before, session.phase = .uploading before ∧
      (job = before ∧ (session.signal signal).2.canceled = session.canceled ∨
        job = (UploadJob.machine.signal signal before).2) := by
  have passedOn {changed : Session} (nextEq : (changed.signalUpload signal).phase = .uploading job)
      (phaseEq : changed.phase = session.phase) :
      ∃ before, session.phase = .uploading before ∧
        job = (UploadJob.machine.signal signal before).2 := by
    simp only [signalUpload] at nextEq
    split at nextEq
    · rename_i before uploading
      exact ⟨before, phaseEq.symm.trans uploading, (Phase.uploading.inj nextEq).symm⟩
    · rename_i other
      exact absurd nextEq (other job)
  revert nextEq
  cases signal with
  | dropped => exact fun nextEq => ⟨job, nextEq, .inl ⟨rfl, rfl⟩⟩
  | _ =>
      simp only [Session.signal]
      split
      all_goals
        intro nextEq
        first
        | exact ⟨job, nextEq, .inl ⟨rfl, rfl⟩⟩
        | obtain ⟨before, phaseEq, jobEq⟩ := passedOn nextEq rfl
          exact ⟨before, phaseEq, .inr jobEq⟩

theorem canceled_signal (signal : Signal) (canceled : session.canceled = true) :
    (session.signal signal).2.canceled = true := by
  rcases (signaled_signal signal session).queue with ⟨-, canceledEq⟩ | ⟨-, -, canceledNow⟩
  · exact canceledEq.trans canceled
  · exact canceledNow

theorem Closing.signal (closing : session.Closing) (signal : Signal) :
    (session.signal signal).2.Closing where
  canceled := by
    rcases closing.canceled with canceled | atEnd
    · exact .inl (canceled_signal signal canceled)
    · right
      rcases (signaled_signal signal session).phase with phaseEq | ⟨job, phaseEq, -⟩
      · exact phaseEq.trans atEnd
      · cases phaseEq.symm.trans atEnd
  stopped := by
    intro job nextEq
    obtain ⟨before, phaseEq, ⟨rfl, -⟩ | rfl⟩ := uploading_signal nextEq
    · exact closing.stopped job phaseEq
    · exact (closing.stopped before phaseEq).signal signal

theorem leftover_signal (signal : Signal) (session : Session) :
    (session.signal signal).2.leftover = session.leftover := by
  have signaled := signaled_signal signal session
  have schemeEq : (session.signal signal).2.scheme = session.scheme :=
    congrArg Prod.fst signaled.briefEq
  have seqEq := (outside_signal signal session).2.1
  rcases signaled.phase with phaseEq | ⟨job, phaseEq, nextEq⟩
  · simp only [leftover, phaseEq, schemeEq, seqEq]
  · simp only [leftover, phaseEq, nextEq]
    exact UploadJob.filling_signal signal job

/-- A session that takes no more tasks sends what is left of the one at hand, and nothing else. -/
theorem handed_isPrefix_leftover (closing : session.Closing) (events : List Event) :
    machine.handed events session <+: session.leftover := by
  induction events generalizing session with
  | nil => exact List.nil_prefix
  | cons event events ih =>
      rw [Machine.handed, Machine.trace_cons]
      cases event with
      | reply reply =>
          have rest := ih (closing.feed reply)
          exact ((List.prefix_append_right_inj _).mpr rest).trans (sends_feed closing reply)
      | signal signal =>
          have rest := ih (closing.signal signal)
          rwa [leftover_signal] at rest

end Session

end SmpClient
