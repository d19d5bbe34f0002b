import SmpClient.Proofs.Machine.Trace
import SmpClient.Proofs.Transfer.Cancellation

/-!
# What a pause or a cancel holds back

An upload that was paused or canceled hands nothing more to the link, with one exception.  While a
windowed upload fills its window it looks for neither, so the rest of that filling still goes out.
-/

namespace SmpClient

namespace Control

/-- Whether a transfer is to send nothing, for now or for good. -/
def isHalted (control : Control) : Bool :=
  control.isPaused || control.isAborted

theorem isHalted_of_accepted {signal : Signal} {control : Control}
    (stops : signal = .pause ∨ signal = .cancel) (accepted : (control.signal signal).1 = true) :
    (control.signal signal).2.isHalted = true := by
  obtain ⟨phase, canceled⟩ := control
  rcases stops with rfl | rfl <;> cases phase <;>
    simp_all [Control.signal, pause, cancel, isHalted, isPaused, isAborted]

/-- Only a resume ends a halt. -/
theorem isHalted_signal {signal : Signal} {control : Control} (halted : control.isHalted = true)
    (noResume : signal = .resume → (control.signal signal).1 = false) :
    (control.signal signal).2.isHalted = true := by
  obtain ⟨phase, canceled⟩ := control
  cases signal <;> cases phase <;>
    simp_all [Control.signal, pause, resume, cancel, isHalted, isPaused, isAborted]

theorem isHalted_start {control started : Control} (halted : control.isHalted = true)
    (startEq : control.start = .ok started) : started.isHalted = true := by
  obtain ⟨phase, canceled⟩ := control
  cases phase <;> cases canceled <;>
    simp_all [start, isHalted, isPaused, isAborted]
  all_goals simp [← startEq]

theorem Steered.isHalted {before after : Control} {complete : Prop}
    (steered : Steered before complete after) (halted : before.isHalted = true) :
    after.isHalted = true ∨ complete := by
  cases steered with
  | kept => exact .inl halted
  | started startEq => exact .inl (isHalted_start halted startEq)
  | closed done => exact .inr done

theorem phase_ne_active {control : Control} (halted : control.isHalted = true) :
    control.phase ≠ .active := by
  obtain ⟨phase, canceled⟩ := control
  cases phase <;> simp_all [isHalted, isPaused, isAborted]

end Control

/-! ## Plain uploads -/

namespace Stepwise

variable {τ : Type} {kind : LinkTransfer τ} {run : Stepwise τ Exchange}

/-- A run that is halted does not come to send anything. -/
theorem packet?_feed_of_halted (halted : run.control.isHalted = true) {reply : Reply}
    (met : (run.need kind).isMetBy reply = true) :
    ((run.feed kind reply).need kind).packet? = none := by
  have quiet {next : Stepwise τ Exchange}
      (idle : ∀ offset request, next.phase ≠ .sending offset request) :
      (next.need kind).packet? = none := by
    simp only [need]
    split
    · rfl
    · split <;> rfl
    · rename_i offset request phaseEq
      exact absurd phaseEq (idle offset request)
    · rfl
    · rfl
  apply quiet
  intro offset request phaseEq
  cases reply with
  | ready =>
      simp only [feed, advance] at phaseEq
      split at phaseEq
      · split at phaseEq <;> cases phaseEq
      · rename_i choosing
        split at phaseEq
        · cases phaseEq
        · split at phaseEq
          · cases choosing.symm.trans phaseEq
          · rename_i unpaused
            have aborted : run.control.isAborted = true := by
              simpa [Control.isHalted, unpaused] using halted
            rw [if_pos aborted] at phaseEq
            cases phaseEq
      · cases phaseEq
      · rename_i other
        -- What is out already asks for an answer.
        simp [need, phaseEq, Need.isMetBy] at met
  | answer outcome =>
      have accepted := accepted_answer kind outcome run
      simp only [feed] at phaseEq
      generalize run.answer kind outcome = after at accepted phaseEq
      cases accepted with
      | stayed idle => exact idle offset request phaseEq
      | failed | aborted | stuck | settled => cases phaseEq
  | acknowledgement ticket outcome | silence | connected outcome =>
      simp only [feed] at phaseEq
      simp [need, phaseEq, Need.isMetBy] at met

end Stepwise

/-! ## Windowed uploads -/

/-- The packets of the next chunks, at most `count`. -/
def Upload.burst (upload : Upload) (count : Nat) (seq : UInt8) (offset : Nat) : List Bytes :=
  if offset < upload.data.length then
    (upload.chunks count seq offset).filterMap fun next => next.toOption.map fun (_, chunk) =>
      chunk.packet
  else []

theorem Upload.burst_succ {upload : Upload} {seq after : UInt8} {offset : Nat} {chunk : Chunk}
    (count : Nat) (short : offset < upload.data.length)
    (next : upload.nextChunk seq offset = (.ok chunk, after)) :
    upload.burst (count + 1) seq offset =
      chunk.packet :: upload.burst count after (offset + chunk.length) := by
  have filled : chunk.length ≠ 0 :=
    Nat.ne_of_gt ((chunkLength_bounds (nextChunk_eq_ok next).1).2 short)
  simp only [burst, if_pos short, chunks, next]
  by_cases more : offset + chunk.length < upload.data.length
  · rw [if_pos more, if_neg (by omega)]
    simp [Except.toOption]
  · rw [if_neg more, if_pos (by omega)]
    simp [Except.toOption]

namespace Window

/-- What a windowed upload still sends before it looks for a pause or a cancel. -/
def filling (window : Window) : List Bytes :=
  match window.phase with
  | .issuing =>
      window.upload.burst (window.capacity - window.inFlight) window.seq window.next
  | .posting _ ticket =>
      window.upload.burst (window.capacity - (window.inFlight + 1)) window.seq
        (window.next + ticket.length)
  | _ => []

variable {window : Window}

/-- A turn that finds the upload halted sends nothing. -/
theorem turn_of_halted (halted : window.control.isHalted = true) :
    (∃ result, window.turn.phase = .ended result) ∨
      window.turn = window.notePause.afterIssuing window.control.isPaused := by
  rw [turn]
  split
  · exact .inl ⟨_, rfl⟩
  · split
    · exact .inl ⟨_, rfl⟩
    · right
      dsimp only
      have inactive : window.notePause.control.phase ≠ .active := by
        rw [control_notePause]
        exact Control.phase_ne_active halted
      rw [if_neg inactive, control_notePause]

/-- A phase in which no request is handed to the link. -/
def Phase.IsQuiet : Phase → Prop
  | .issuing | .posting _ _ => False
  | _ => True

theorem quiet_afterIssuing (paused : Bool) (window : Window) :
    (window.afterIssuing paused).phase.IsQuiet := by
  rw [afterIssuing]
  split_ifs <;> exact trivial

theorem packet?_of_quiet (quiet : window.phase.IsQuiet) : window.need.packet? = none := by
  unfold need
  cases phaseEq : window.phase with
  | issuing | posting => simp [phaseEq, Phase.IsQuiet] at quiet
  | resting =>
      dsimp only
      split <;> rfl
  | _ => rfl

theorem filling_of_quiet (quiet : window.phase.IsQuiet) : window.filling = [] := by
  unfold filling
  cases phaseEq : window.phase with
  | issuing | posting => simp [phaseEq, Phase.IsQuiet] at quiet
  | _ => rfl

theorem quiet_acknowledge (collecting : window.phase = .collecting) (ticket : Ticket)
    (outcome : Except Error Response) : (window.acknowledge ticket outcome).phase.IsQuiet := by
  by_cases own : ticket.attempt = window.attempt
  · by_cases current : ticket.generation = window.generation
    · rcases acknowledge_current outcome own current with
        ⟨⟨failure, ended⟩, -⟩ | ⟨offset, -, turning | telling, -⟩
      · simp only [ended, Phase.IsQuiet]
      · simp only [turning, Phase.IsQuiet]
      · simp only [telling, Phase.IsQuiet]
    · rw [acknowledge_old outcome own current]
      exact trivial
  · simp only [acknowledge_foreign outcome own, collecting, Phase.IsQuiet]

/-- What is sent next is the first of what is still to be sent. -/
theorem packet?_issue (window : Window) (issuing : window.phase = .issuing) :
    window.issue.need.packet?.toList ++ window.issue.filling <+: window.filling := by
  have silent {next : Window} (quiet : next.phase.IsQuiet) :
      next.need.packet?.toList ++ next.filling <+: window.filling := by
    rw [packet?_of_quiet quiet, filling_of_quiet quiet]
    exact List.nil_prefix
  rw [issue]
  split
  · rename_i room
    cases chunkEq : window.upload.nextChunk window.seq window.next with
    | mk result seq =>
        cases result with
        | error failure => exact silent trivial
        | ok chunk =>
            dsimp only
            split
            · exact silent trivial
            · have placesEq : window.capacity - window.inFlight =
                  window.capacity - (window.inFlight + 1) + 1 := by
                have := room.1
                omega
              have fillingEq : window.filling = chunk.packet ::
                  window.upload.burst (window.capacity - (window.inFlight + 1)) seq
                    (window.next + chunk.length) := by
                simp only [filling, issuing]
                rw [placesEq, Upload.burst_succ _ room.2 chunkEq]
              rw [fillingEq]
              exact List.prefix_refl _
  · exact silent (quiet_afterIssuing false window)

/-- A halted upload that is not filling its window does not begin to. -/
theorem quiet_feed (halted : window.control.isHalted = true) (quiet : window.phase.IsQuiet)
    (reply : Reply) : (window.feed reply).phase.IsQuiet := by
  unfold feed
  split
  · rw [begin]
    split <;> exact trivial
  · rcases turn_of_halted halted with ⟨result, ended⟩ | waits
    · simp only [ended, Phase.IsQuiet]
    · rw [waits]
      exact quiet_afterIssuing _ _
  · rename_i issuing
    simp [issuing, Phase.IsQuiet] at quiet
  · rename_i posting
    simp [posting, Phase.IsQuiet] at quiet
  · rw [rise]
    split_ifs
    · exact quiet
    · exact trivial
    · exact trivial
  · exact trivial
  · rename_i collecting
    exact quiet_acknowledge collecting _ _
  · exact trivial
  · exact quiet

theorem hands_of_packet? {reply : Reply} (silent : (window.feed reply).need.packet? = none) :
    machine.hands window (.reply reply) = [] := by
  simp only [Machine.hands]
  split
  · exact congrArg Option.toList silent
  · rfl

/-- A windowed upload that is halted sends only what is left of its filling. -/
theorem hands_of_halted (halted : window.control.isHalted = true) (reply : Reply) :
    machine.hands window (.reply reply) ++ (window.feed reply).filling <+: window.filling := by
  by_cases quiet : window.phase.IsQuiet
  · have quietAfter := quiet_feed halted quiet reply
    rw [hands_of_packet? (packet?_of_quiet quietAfter), filling_of_quiet quietAfter]
    exact List.nil_prefix
  · cases phaseEq : window.phase with
    | issuing =>
        cases reply with
        | ready =>
            have handsEq : machine.hands window (.reply .ready) =
                window.issue.need.packet?.toList := by
              simp only [Machine.hands, machine, need, feed, phaseEq, Need.isMetBy, if_true]
            have fedEq : window.feed .ready = window.issue := by simp only [feed, phaseEq]
            rw [handsEq, fedEq]
            exact window.packet?_issue phaseEq
        | _ =>
            simp only [Machine.hands, machine, need, feed, phaseEq, Need.isMetBy]
            exact List.prefix_refl _
    | posting packet ticket =>
        cases reply with
        | ready =>
            -- The request is out; what comes after it is what is left.
            simp only [Machine.hands, machine, need, feed, phaseEq, posted, filling]
            exact List.prefix_refl _
        | _ =>
            simp only [Machine.hands, machine, need, feed, phaseEq, Need.isMetBy]
            exact List.prefix_refl _
    | _ => simp [phaseEq, Phase.IsQuiet] at quiet

end Window

/-! ## Jobs -/

namespace UploadEngine

variable {engine : UploadEngine}

/-- What an attempt still sends before it looks for a pause or a cancel. -/
def filling : UploadEngine → List Bytes
  | .single _ => []
  | .windowed window => window.filling

theorem halted_feed (halted : engine.control.isHalted = true) (reply : Reply) :
    (engine.feed reply).control.isHalted = true ∨
      (engine.feed reply).result? = some (.ok ()) :=
  (steered_feed reply).isHalted halted

theorem hands_of_halted (halted : engine.control.isHalted = true) (reply : Reply) :
    (if engine.need.isMetBy reply then (engine.feed reply).need.packet?.toList else []) ++
      (engine.feed reply).filling <+: engine.filling := by
  cases engine with
  | single run =>
      split
      · rename_i met
        have silent : ((UploadEngine.single run).feed reply).need.packet? = none :=
          Stepwise.packet?_feed_of_halted halted met
        rw [silent]
        exact List.prefix_refl _
      · exact List.prefix_refl _
  | windowed window => exact Window.hands_of_halted halted reply

theorem filling_of_result? {result : Except Error Unit} (ended : engine.result? = some result) :
    engine.filling = [] := by
  have needEq := need_of_result? ended
  cases engine with
  | single run => rfl
  | windowed window =>
      have phaseEq := Window.need_eq_finished_iff.mp needEq
      simp only [filling, Window.filling, phaseEq]

end UploadEngine

namespace UploadJob

variable {job : UploadJob}

/-- What an upload still sends before it looks for a pause or a cancel: the packets that a windowed
upload needs to fill its window, once it has begun to. -/
def filling (job : UploadJob) : List Bytes :=
  job.engine.filling

/-- An upload that sends nothing new: it is paused or was canceled, or it is complete. -/
def Halted (job : UploadJob) : Prop :=
  job.control.isHalted = true ∨ job.engine.result? = some (.ok ())

theorem packet?_need (job : UploadJob) : (machine.need job).packet? = job.engine.need.packet? := by
  cases retryEq : job.retryMtu? with
  | none => rw [need_of_retryMtu? retryEq]
  | some mtu =>
      obtain ⟨required, link, ended⟩ := result?_of_retryMtu? retryEq
      rw [(of_retryMtu?_eq_some retryEq).1, UploadEngine.need_of_result? ended]
      rfl

theorem Halted.feed (halted : job.Halted) (reply : Reply) :
    (machine.feed reply job).Halted ∧
      machine.hands job (.reply reply) ++ (machine.feed reply job).filling <+: job.filling := by
  cases retryEq : job.retryMtu? with
  | none =>
      have handsEq : machine.hands job (.reply reply) =
          if job.engine.need.isMetBy reply then (job.engine.feed reply).need.packet?.toList
          else [] := by
        simp only [Machine.hands, packet?_need, need_of_retryMtu? retryEq, feed_of_retryMtu? retryEq]
      rw [handsEq, feed_of_retryMtu? retryEq]
      rcases halted with halted | complete
      · exact ⟨UploadEngine.halted_feed halted reply, UploadEngine.hands_of_halted halted reply⟩
      · have needEq := UploadEngine.need_of_result? complete
        simp only [UploadEngine.feed_of_result? complete, filling, needEq, Need.isMetBy]
        exact ⟨.inr complete, List.prefix_refl _⟩
  | some mtu =>
      obtain ⟨required, link, ended⟩ := result?_of_retryMtu? retryEq
      have halted : job.control.isHalted = true := by
        rcases halted with halted | complete
        · exact halted
        · cases ended.symm.trans complete
      have fillingEq : job.filling = [] := UploadEngine.filling_of_result? ended
      rcases (of_retryMtu?_eq_some retryEq).2 reply with retried | same
      · have silent : (machine.need (machine.feed reply job)).packet? = none := by
          rw [packet?_need, retried, retry, UploadEngine.need_start]
          rfl
        have handsEq : machine.hands job (.reply reply) = [] := by
          simp only [Machine.hands, silent, Option.toList_none, ite_self]
        rw [handsEq, fillingEq, retried]
        refine ⟨.inl ?_, ?_⟩
        · rw [control, retry, UploadEngine.control_start]
          exact halted
        · simp only [filling, retry, UploadEngine.start]
          split <;> exact List.prefix_refl _
      · have silent : (machine.need (machine.feed reply job)).packet? = none := by
          rw [packet?_need, same, UploadEngine.need_of_result? ended]
          rfl
        have handsEq : machine.hands job (.reply reply) = [] := by
          simp only [Machine.hands, silent, Option.toList_none, ite_self]
        rw [handsEq, same]
        exact ⟨.inl halted, List.prefix_refl _⟩

theorem filling_signal (signal : Signal) (job : UploadJob) :
    (machine.signal signal job).2.filling = job.filling := by
  simp only [machine, UploadJob.signal, filling]
  cases job.engine <;> rfl

theorem Halted.signal (halted : job.Halted) {signal : Signal}
    (noResume : signal = .resume → (machine.signal signal job).1 = false) :
    (machine.signal signal job).2.Halted := by
  obtain ⟨acceptedEq, controlEq⟩ := cancelable.signaled signal job
  rcases halted with halted | complete
  · left
    rw [controlEq]
    exact Control.isHalted_signal halted fun resumes => acceptedEq ▸ noResume resumes
  · right
    rw [← complete]
    simp only [machine, UploadJob.signal]
    cases job.engine <;> rfl

/-- Until it is resumed a halted upload sends what is left of its filling, and nothing else. -/
theorem handed_isPrefix_filling (halted : job.Halted) {events : List Event}
    (noResume : .resume ∉ machine.accepted events job) :
    machine.handed events job <+: job.filling := by
  induction events generalizing job with
  | nil => exact List.nil_prefix
  | cons event events ih =>
      rw [Machine.accepted, Machine.trace_cons] at noResume
      have later : .resume ∉ machine.accepted events (machine.take job event) :=
        fun resumed => noResume (List.mem_append_right _ resumed)
      rw [Machine.handed, Machine.trace_cons]
      cases event with
      | reply reply =>
          obtain ⟨haltedAfter, sends⟩ := halted.feed reply
          have rest := ih haltedAfter later
          exact (List.prefix_append_right_inj _ |>.mpr rest).trans sends
      | signal signal =>
          have refused : signal = .resume → (machine.signal signal job).1 = false := by
            rintro rfl
            by_contra accepted
            apply noResume
            simp [Machine.accepts, Bool.not_eq_false _ ▸ accepted]
          have rest := ih (halted.signal refused) later
          rwa [filling_signal] at rest

/-- A canceled upload does not resume. -/
theorem resume_notMem_accepted (aborted : job.control.isAborted = true) (events : List Event) :
    .resume ∉ machine.accepted events job := by
  induction events generalizing job with
  | nil => exact List.not_mem_nil
  | cons event events ih =>
      rw [Machine.accepted, Machine.trace_cons, List.mem_append, not_or]
      cases event with
      | reply reply =>
          refine ⟨List.not_mem_nil, ih ?_⟩
          exact (cancelable.follows reply job).isAborted aborted
      | signal signal =>
          obtain ⟨acceptedEq, controlEq⟩ := cancelable.signaled signal job
          obtain ⟨closed, canceled⟩ := Control.isAborted_iff.mp aborted
          have refused : (machine.signal signal job).1 = false := by
            rw [acceptedEq]
            cases signal <;> simp [Control.signal, Control.pause, Control.resume, Control.cancel, closed]
          refine ⟨by simp [Machine.accepts, refused], ih ?_⟩
          rw [Machine.take, controlEq]
          cases signal <;>
            simpa [Control.signal, Control.pause, Control.resume, Control.cancel, closed] using aborted

/-- A job whose attempts are windowed only if the window is for several requests. -/
structure Sized (capacity : Nat) (job : UploadJob) : Prop where
  capacity_eq : job.capacity = capacity
  windowed : ∀ window, job.engine = .windowed window → 1 < capacity

theorem one_lt_of_start {upload : Upload} {capacity attempt : Nat} {seq : UInt8}
    {control : Control} {window : Window}
    (engineEq : UploadEngine.start upload capacity attempt seq control = .windowed window) :
    1 < capacity := by
  rw [UploadEngine.start] at engineEq
  split at engineEq
  · assumption
  · cases engineEq

theorem sized_start (upload : Upload) (window attempt : Nat) (seq : UInt8) (control : Control) :
    Sized (max window 1) (.start upload window attempt seq control) := by
  rw [UploadJob.start]
  split
  · refine ⟨rfl, fun inner engineEq => ?_⟩
    injection engineEq
  · exact ⟨rfl, fun _ => one_lt_of_start⟩

theorem Sized.feed {capacity : Nat} (sized : Sized capacity job) (reply : Reply) :
    Sized capacity (machine.feed reply job) := by
  obtain ⟨rfl, windowed⟩ := sized
  rcases feed_cases reply job with goesOn | ⟨mtu, retried⟩ | same
  · rw [goesOn]
    refine ⟨rfl, fun window engineEq => ?_⟩
    cases running : job.engine with
    | single run =>
        rw [running] at engineEq
        cases engineEq
    | windowed window => exact windowed window running
  · rw [retried]
    exact ⟨rfl, fun _ => one_lt_of_start⟩
  · rw [same]
    exact ⟨rfl, windowed⟩

theorem Sized.signal {capacity : Nat} (sized : Sized capacity job) (signal : Signal) :
    Sized capacity (machine.signal signal job).2 := by
  refine ⟨sized.capacity_eq, fun window engineEq => ?_⟩
  cases running : job.engine with
  | single run =>
      simp only [machine, UploadJob.signal, running] at engineEq
      cases engineEq
  | windowed window => exact sized.windowed window running

/-- A plain upload has nothing to fill, and who is told of the progress is not told while a window is
being filled. -/
theorem filling_eq_nil {window : Nat} (sized : Sized (max window 1) job)
    (idle : window ≤ 1 ∨ ∃ note, machine.need job = .tell note) : job.filling = [] := by
  cases running : job.engine with
  | single run => rw [filling, running, UploadEngine.filling]
  | windowed inner =>
      have several := sized.windowed inner running
      rcases idle with plain | ⟨note, telling⟩
      · omega
      · rw [need_of_retryMtu? (retryMtu?_eq_none telling (by simp)), running] at telling
        rw [filling, running, UploadEngine.filling]
        apply Window.filling_of_quiet
        simp only [UploadEngine.need, Window.need] at telling
        cases phaseEq : inner.phase with
        | issuing | posting => simp [phaseEq] at telling
        | _ => exact trivial

/-- After a pause or a cancel was accepted nothing new is handed to the link, for good or until a
resume is accepted, except for what is left of a window that is being filled. -/
theorem handed_of_stopped (upload : Upload) (window attempt : Nat) (seq : UInt8)
    (control : Control) (before after : List Event) (signal : Signal) :
    let job := machine.after before (.start upload window attempt seq control)
    let stopped := (machine.signal signal job).2
    (machine.signal signal job).1 = true →
    (signal = .cancel ∨ signal = .pause ∧ .resume ∉ machine.accepted after stopped) →
    machine.handed after stopped <+: job.filling ∧
      ((window ≤ 1 ∨ ∃ note, machine.need job = .tell note) →
        machine.handed after stopped = []) := by
  intro job stopped accepted stops
  obtain ⟨acceptedEq, controlEq⟩ := cancelable.signaled signal job
  rw [acceptedEq] at accepted
  have halted : stopped.Halted := by
    left
    have halts : signal = .pause ∨ signal = .cancel := stops.elim .inr fun paused => .inl paused.1
    rw [controlEq]
    exact Control.isHalted_of_accepted halts accepted
  have noResume : .resume ∉ machine.accepted after stopped := by
    rcases stops with rfl | ⟨rfl, noResume⟩
    · apply resume_notMem_accepted
      rcases Control.signal_cases .cancel job.control with ⟨-, -, aborted⟩ | ⟨refused, -⟩
      · rw [controlEq]
        exact aborted
      · exact absurd ⟨rfl, accepted⟩ refused
    · exact noResume
  have sends := handed_isPrefix_filling halted noResume
  rw [filling_signal] at sends
  refine ⟨sends, fun idle => ?_⟩
  have sized : Sized (max window 1) job :=
    Machine.after_invariant (Sized (max window 1)) (sized_start upload window attempt seq control)
      (fun reply _ sized => sized.feed reply) (fun signal _ sized => sized.signal signal) before
  rw [filling_eq_nil sized idle] at sends
  exact List.prefix_nil.mp sends

open Storage (threeBytes)

/-- The first of two chunks is out, and there is room for the second in the window. -/
def halfFilled : UploadJob :=
  machine.after (List.replicate 3 (.reply .ready)) (.start threeBytes 2 0 0 {})

theorem handed_of_stopped_halfFilled :
    let stopped := (machine.signal .pause halfFilled).2
    let events := List.replicate 4 (.reply .ready)
    ((machine.signal .pause halfFilled).1 = true ∧ .resume ∉ machine.accepted events stopped) ∧
      machine.handed events stopped <+: halfFilled.filling := by
  intro stopped events
  have accepted : (machine.signal .pause halfFilled).1 = true := by decide +kernel
  have noResume : .resume ∉ machine.accepted events stopped := by decide +kernel
  have stops := handed_of_stopped threeBytes 2 0 0 {} (List.replicate 3 (.reply .ready)) events
    .pause accepted (.inr ⟨rfl, noResume⟩)
  exact ⟨⟨accepted, noResume⟩, stops.1⟩

/-- The second chunk goes out although a cancel or a pause was accepted while the first was out. -/
theorem handed_after_stop :
    (machine.need halfFilled).packet?.isSome = true ∧
      ((machine.signal .cancel halfFilled).1 = true ∧
        (machine.handed (List.replicate 2 (.reply .ready))
          (machine.signal .cancel halfFilled).2).map List.length = [21]) ∧
      ((machine.signal .pause halfFilled).1 = true ∧
        .resume ∉ machine.accepted (List.replicate 2 (.reply .ready))
          (machine.signal .pause halfFilled).2 ∧
        (machine.handed (List.replicate 2 (.reply .ready))
          (machine.signal .pause halfFilled).2).map List.length = [21]) := by
  decide +kernel

end UploadJob

end SmpClient
