import SmpClient.Proofs.Transfer.LinkLimit
import SmpClient.Proofs.Transfer.Stops
import SmpClient.Proofs.Transfer.WindowEnding

/-!
# Uploads end

An upload that is not paused ends against every device that does not move backwards, plain or
windowed, at its first attempt and at its second, and whatever acknowledgements of the first are left.
An attempt sends nine requests for each byte and nine more, at most, for each place in its window.
-/

namespace SmpClient

open Network

namespace UploadJob

/-- The jobs that are at the beginning of an attempt. -/
inductive Begins (upload : Upload) (window : Nat) : UploadJob → Prop
  | first (attempt : Nat) (seq : UInt8) (control : Control) :
      Begins upload window (.start upload window attempt seq control)
  | second {job : UploadJob} {mtu : Nat} (retryEq : job.retryMtu? = some mtu)
      (capacity_eq : job.capacity = max window 1)
      (upload_eq : ∃ mtu, job.engine.upload = { upload with mtu }) :
      Begins upload window (job.retry mtu)

/-- An attempt begins, and is not paused.  Acknowledgements of attempts before it may lie ready. -/
structure Beginning (upload : Upload) (window : Nat)
    (network : Network (Logged UploadJob Progress) (List Bytes)) : Prop where
  begins : network.state.state.Begins upload window
  posted_eq : network.posted = []
  late : ∀ answered ∈ network.answered, answered.ticket.attempt < network.state.state.attempt
  unpaused : network.state.state.control.phase ≠ .paused

/-- An attempt that has ended without more requests than it may send.  If another attempt follows, it
begins in the next round. -/
structure Attempted (upload : Upload) (window : Nat) (answer : List Bytes → Except Error Response)
    (beginning ending : Network (Logged UploadJob Progress) (List Bytes)) : Prop where
  attempt_eq : ending.state.state.attempt = beginning.state.state.attempt
  ended : ∃ result, ending.state.state.engine.result? = some result
  requests_le : ending.device.length ≤
    beginning.device.length + 9 * (upload.data.length + 1) * max window 1
  next : ∀ mtu, ending.state.state.retryMtu? = some mtu → ∀ signals, .pause ∉ signals →
    Beginning upload window (ending.roundAtOnce machine answer signals)

variable {upload : Upload} {window : Nat} {answer : List Bytes → Except Error Response}

/-- A job begins with an attempt, unless there is nothing to upload. -/
theorem Begins.cases {job : UploadJob} (begins : job.Begins upload window) :
    job.capacity = max window 1 ∧
      ((∃ failure, job.engine.result? = some (.error failure) ∧ job.retryMtu? = none) ∨
        ∃ mtu seq, job.engine = .start { upload with mtu } (max window 1) job.attempt seq
          job.control) := by
  cases begins with
  | first attempt seq control =>
      rw [UploadJob.start]
      split
      · exact ⟨rfl, .inl ⟨_, rfl, rfl⟩⟩
      · refine ⟨rfl, .inr ⟨upload.mtu, seq, ?_⟩⟩
        rw [UploadJob.control, UploadEngine.control_start]
  | second retryEq capacity_eq upload_eq =>
      rename_i job mtu
      obtain ⟨before, uploadEq⟩ := upload_eq
      refine ⟨capacity_eq, .inr ⟨mtu, job.engine.seq, ?_⟩⟩
      rw [UploadJob.control, retry, UploadEngine.control_start, uploadEq, capacity_eq]

/-! ## From one attempt to the next -/

/-- An attempt that has ended and is to be followed by another. -/
structure Retries (upload : Upload) (window mtu : Nat)
    (network : Network (Logged UploadJob Progress) (List Bytes)) : Prop where
  retryEq : network.state.state.retryMtu? = some mtu
  capacity_eq : network.state.state.capacity = max window 1
  upload_eq : ∃ mtu, network.state.state.engine.upload = { upload with mtu }
  posted_eq : network.posted = []
  answered_le : ∀ answered ∈ network.answered,
    answered.ticket.attempt ≤ network.state.state.attempt
  unpaused : network.state.state.control.phase ≠ .paused

variable {mtu : Nat} {network : Network (Logged UploadJob Progress) (List Bytes)}

theorem Retries.signal (answer : List Bytes → Except Error Response)
    (retries : Retries upload window mtu network) {signal : Signal}
    (other : signal ≠ .pause) :
    Retries upload window mtu
      (network.apply machine.logged (answering answer) (.signal signal)) where
  retryEq := (retryMtu?_signal signal _).trans retries.retryEq
  capacity_eq := retries.capacity_eq
  upload_eq := by
    obtain ⟨before, uploadEq⟩ := retries.upload_eq
    refine ⟨before, Eq.trans ?_ uploadEq⟩
    simp only [apply, Machine.logged, machine, UploadJob.signal]
    cases network.state.state.engine <;> rfl
  posted_eq := retries.posted_eq
  answered_le := retries.answered_le
  unpaused := by
    have controlEq := (cancelable.signaled signal network.state.state).2
    change (UploadJob.control (machine.signal signal network.state.state).2).phase ≠ .paused
    rw [controlEq]
    exact Control.unpaused_signal other retries.unpaused

theorem Retries.signals (answer : List Bytes → Except Error Response)
    (retries : Retries upload window mtu network) {signals : List Signal}
    (unpaused : .pause ∉ signals) :
    Retries upload window mtu
      (network.run machine.logged (answering answer) (signals.map .signal)) := by
  induction signals generalizing network with
  | nil => exact retries
  | cons signal signals ih =>
      rw [List.mem_cons, not_or] at unpaused
      exact ih (retries.signal answer (Ne.symm unpaused.1)) unpaused.2

theorem Retries.beginning (answer : List Bytes → Except Error Response)
    (retries : Retries upload window mtu network) {signals : List Signal}
    (unpaused : .pause ∉ signals) :
    Beginning upload window (network.roundAtOnce machine answer signals) := by
  have signaled := retries.signals answer unpaused
  rw [roundAtOnce]
  generalize network.run machine.logged (answering answer) (signals.map .signal) = before
    at signaled ⊢
  obtain ⟨retryEq, capacity_eq, upload_eq, posted_eq, answered_le, unpaused⟩ := signaled
  have needEq : machine.need before.state.state = .step := (of_retryMtu?_eq_some retryEq).1
  have stepEq : (before.stepAtOnce machine answer).unlogged =
      before.unlogged.plainStep machine answer := unlogged_stepAtOnce posted_eq
  have plainEq : before.unlogged.plainStep machine answer =
      { before.unlogged with state := before.state.state.retry mtu } := by
    simp only [plainStep, unlogged, needEq, feed_ready_of_retryMtu? retryEq]
  rw [plainEq] at stepEq
  have stateEq : (before.stepAtOnce machine answer).state.state = before.state.state.retry mtu :=
    (congrArg Network.state stepEq :)
  have answeredEq : (before.stepAtOnce machine answer).answered = before.answered :=
    (congrArg Network.answered stepEq :)
  refine ⟨?_, posted_stepAtOnce posted_eq, ?_, ?_⟩
  · rw [stateEq]
    exact .second retryEq capacity_eq upload_eq
  · rw [stateEq, answeredEq]
    exact fun answered member => Nat.lt_succ_of_le (answered_le answered member)
  · rw [stateEq, UploadJob.control, retry, UploadEngine.control_start]
    exact unpaused

/-! ## A whole attempt -/

theorem attempted_of_within (mtu : Nat)
    {beginning ending : Network (Logged UploadJob Progress) (List Bytes)}
    (posted_eq : ending.posted = [])
    (attempt_eq : ending.state.state.attempt = beginning.state.state.attempt)
    (capacity_eq : ending.state.state.capacity = max window 1)
    (ended : ∃ result, ending.state.state.engine.result? = some result)
    (within : ending.state.state.engine.Within { upload with mtu } beginning.state.state.attempt
      (beginning.device.length + 9 * (upload.data.length + 1) * max window 1) ending) :
    Attempted upload window answer beginning ending where
  attempt_eq := attempt_eq
  ended := ended
  requests_le := within.length_le
  next := by
    intro mtu retryEq signals unpaused
    have retries : Retries upload window mtu ending :=
      ⟨retryEq, capacity_eq, ⟨_, within.upload_eq⟩, posted_eq, attempt_eq ▸ within.answered_le,
        within.unpaused⟩
    exact retries.beginning answer unpaused

/-- The job with an engine in place of its own. -/
def withEngine (engine : UploadEngine) (job : UploadJob) : UploadJob :=
  { job with engine }

/-- An attempt that has not ended does what its engine does. -/
theorem same_of_result? {engine : UploadEngine} (unended : ∀ result, engine.result? ≠ some result)
    (job : UploadJob) :
    machine.need (job.withEngine engine) = engine.need ∧
      ∀ reply, machine.feed reply (job.withEngine engine) = job.withEngine (engine.feed reply) := by
  apply same_of_unfinished
  intro result finished
  rw [withEngine] at finished
  cases engine with
  | single run =>
      have phaseEq := Stepwise.need_eq_finished_iff.mp finished
      exact unended result (by rw [UploadEngine.result?, phaseEq])
  | windowed window =>
      have phaseEq := Window.need_eq_finished_iff.mp finished
      exact unended result (by rw [UploadEngine.result?, phaseEq])

/-- The machine inside an attempt brings the attempt to its end. -/
theorem exists_attempted_of_nears (mtu : Nat) {σ : Type}
    {inner : Machine σ Progress (Except Error Unit)}
    {holds : Nat → Network σ (List Bytes) → Prop} {done : σ → Prop} (embed : σ → UploadEngine)
    (ended_iff : ∀ state, (∃ result, (embed state).result? = some result) ↔ done state)
    (needEq : ∀ state, (embed state).need = inner.need state)
    (feedEq : ∀ reply state, (embed state).feed reply = embed (inner.feed reply state))
    (signalEq : ∀ signal state,
      ((embed state).signal signal).2 = embed (inner.signal signal state).2)
    (nears : Nears inner answer holds done)
    {beginning : Network (Logged UploadJob Progress) (List Bytes)}
    (within : ∀ left network, holds left network →
      (embed network.state).Within { upload with mtu } beginning.state.state.attempt
        (beginning.device.length + 9 * (upload.data.length + 1) * max window 1) network)
    (begins : Beginning upload window beginning)
    (capacity_eq : beginning.state.state.capacity = max window 1) {state : σ}
    (engineEq : beginning.state.state.engine = embed state) {left : Nat}
    (held : holds left
      { state, device := beginning.device, answered := beginning.answered,
        issued := beginning.issued })
    {rounds : List (List Signal)} (enough : left ≤ rounds.length)
    (unpaused : ∀ signals ∈ rounds, .pause ∉ signals) :
    ∃ prior later, rounds = prior ++ later ∧
      Attempted upload window answer beginning (beginning.runAtOnce machine answer prior) := by
  have wholeEq : beginning.unlogged =
      plainWithin (fun state => beginning.state.state.withEngine (embed state))
        { state, device := beginning.device, answered := beginning.answered,
          issued := beginning.issued } := by
    simp only [unlogged, plainWithin, begins.posted_eq, withEngine, ← engineEq]
  -- until the engine has ended, the job does what its engine does
  have lifted : Nears machine answer
      (fun left network => ∃ inner, network =
        plainWithin (fun state => beginning.state.state.withEngine (embed state)) inner ∧
          holds left inner)
      fun job => ∃ result, job.engine.result? = some result := by
    apply nears.within
    · exact ended_iff
    · intro signal job
      rw [result?_signal]
      exact id
    · intro signal state
      simp only [machine, UploadJob.signal, withEngine, signalEq]
    · intro state undone
      have unended : ∀ result, (embed state).result? ≠ some result := fun result ended =>
        undone ((ended_iff state).mp ⟨result, ended⟩)
      obtain ⟨sameNeed, sameFeed⟩ := same_of_result? unended beginning.state.state
      refine ⟨sameNeed.trans (needEq state), fun reply => (sameFeed reply).trans ?_⟩
      rw [feedEq]
  obtain ⟨prior, later, roundsEq, posted_eq, ⟨left, network, plainEq, heldAtEnd⟩, ended⟩ :=
    lifted.exists_done begins.posted_eq ⟨_, wholeEq, held⟩ enough unpaused
  refine ⟨prior, later, roundsEq, ?_⟩
  generalize beginning.runAtOnce machine answer prior = ending at posted_eq plainEq ended ⊢
  have stateEq : ending.state.state = beginning.state.state.withEngine (embed network.state) :=
    (congrArg Network.state plainEq :)
  have deviceEq : ending.device = network.device := (congrArg Network.device plainEq :)
  have answeredEq : ending.answered = network.answered := (congrArg Network.answered plainEq :)
  have kept := within left network heldAtEnd
  apply attempted_of_within mtu posted_eq
  · rw [stateEq]
    rfl
  · rw [stateEq]
    exact capacity_eq
  · exact ended
  · rw [stateEq]
    exact ⟨kept.upload_eq, kept.unpaused, answeredEq ▸ kept.answered_le, deviceEq ▸ kept.length_le⟩

/-- An attempt of an upload that is not paused ends against every device that does not move backwards,
whenever its owner cancels or resumes, before it has sent nine requests for each byte and nine more for
each place in its window. -/
theorem attempted_of_advancing {upload : Upload} {window : Nat}
    {answer : List Bytes → Except Error Response}
    {beginning : Network (Logged UploadJob Progress) (List Bytes)}
    (begins : Beginning upload window beginning)
    (advancing : upload.Advancing answer beginning.device) :
    ∃ count, ∀ rounds : List (List Signal), count ≤ rounds.length →
      (∀ signals ∈ rounds, .pause ∉ signals) →
      ∃ prior later, rounds = prior ++ later ∧
        Attempted upload window answer beginning (beginning.runAtOnce machine answer prior) := by
  obtain ⟨capacity_eq, failed | ⟨mtu, seq, engineEq⟩⟩ := begins.begins.cases
  · obtain ⟨failure, ended, final⟩ := failed
    refine ⟨0, fun rounds _ _ => ⟨[], rounds, rfl, rfl, ⟨_, ended⟩, Nat.le_add_right _ _, ?_⟩⟩
    intro mtu retryEq
    cases final.symm.trans retryEq
  · have advancing' : ({ upload with mtu } : Upload).Advancing answer beginning.device := advancing
    by_cases several : 1 < max window 1
    · rw [UploadEngine.start_eq_windowed several] at engineEq
      have held := Window.nearing_fresh (max window 1) seq begins.unpaused advancing'
        begins.late beginning.issued
      have capacityEq : max (max window 1) 1 = max window 1 := Nat.max_eq_left (Nat.le_max_right _ _)
      rw [capacityEq] at held
      refine ⟨63 * (upload.data.length + 1) * max window 1 + 5 * beginning.answered.length + 6,
        fun rounds enough unpaused => ?_⟩
      refine exists_attempted_of_nears mtu .windowed ?_ (fun _ => rfl) (fun _ _ => rfl)
        (fun _ _ => rfl) (Window.nears _ answer _ _ _) (fun _ _ nearing => nearing.1) begins
        capacity_eq engineEq held enough unpaused
      intro window
      simp only [UploadEngine.result?]
      cases window.phase <;> simp
    · rw [UploadEngine.start_eq_single several] at engineEq
      have held := SingleUpload.nearing_fresh seq begins.unpaused advancing'
        (fun answered member => Nat.le_of_lt (begins.late answered member)) beginning.issued
      refine ⟨27 * (upload.data.length + 1) + 3, fun rounds enough unpaused => ?_⟩
      refine exists_attempted_of_nears mtu .single ?_ (fun _ => rfl) (fun _ _ => rfl)
        (fun _ _ => rfl) (SingleUpload.nears _ answer _ _) (fun _ _ nearing => ?_) begins
        capacity_eq engineEq held enough unpaused
      · intro run
        simp only [UploadEngine.result?]
        cases run.phase <;> simp
      · have capacityEq : max window 1 = 1 := by omega
        rw [capacityEq, Nat.mul_one]
        exact nearing.1

/-! ## A device that stops -/

/-- What comes back from a device that acknowledges a byte more for each packet, and stops at an
offset. -/
def stoppingAnswer (scheme : Scheme) (highest : Nat) (sent : List Bytes) :
    Except Error Response := do
  let header ← Packet.header scheme (sent.getLastD [])
  let offset := min sent.length highest
  let bytes ← Packet.build scheme header.op.response 0 header.group header.seq header.id
    (.record [("rc", .nat 0), ("off", .nat offset)])
  return { scheme, bytes, header := some { header with op := header.op.response }, rc := 0,
           groupCode := none, offset := some offset }

theorem offset_of_confirms {scheme : Scheme} {highest offset : Nat} {sent : List Bytes}
    (confirms : upload.Confirms (stoppingAnswer scheme highest sent) offset) :
    offset = min sent.length highest := by
  obtain ⟨response, answerEq, acknowledged⟩ := confirms
  have offsetEq := (Upload.acknowledged_eq_ok acknowledged).2.1
  simp only [stoppingAnswer, bind, Except.bind] at answerEq
  split at answerEq
  · cases answerEq
  · split at answerEq
    · cases answerEq
    · cases answerEq
      exact (Option.some.inj offsetEq).symm

theorem advancing_stoppingAnswer (upload : Upload) (scheme : Scheme) (highest : Nat)
    (sent : List Bytes) : upload.Advancing (stoppingAnswer scheme highest) sent := by
  intro earlier later first second _ isPrefix confirmsFirst confirmsSecond
  rw [offset_of_confirms confirmsFirst, offset_of_confirms confirmsSecond, List.length_append,
    List.length_append]
  have length_le := isPrefix.length_le
  omega

/-- The device takes one of three bytes and no more. -/
theorem attempted_of_advancing_threeBytes :
    let beginning := settled (.start Storage.threeBytes 2 0 0 {}) [] [] [] []
    let answer := stoppingAnswer .ble 1
    (Beginning Storage.threeBytes 2 beginning ∧ Storage.threeBytes.Advancing answer []) ∧
    ∃ count, ∀ rounds : List (List Signal), count ≤ rounds.length →
      (∀ signals ∈ rounds, .pause ∉ signals) →
      ∃ prior later, rounds = prior ++ later ∧
        Attempted Storage.threeBytes 2 answer beginning (beginning.runAtOnce machine answer prior) := by
  intro beginning answer
  have begins : Beginning Storage.threeBytes 2 beginning :=
    ⟨.first 0 0 {}, rfl, List.forall_mem_nil _, nofun⟩
  have advancing := advancing_stoppingAnswer Storage.threeBytes .ble 1 []
  exact ⟨⟨begins, advancing⟩, attempted_of_advancing begins advancing⟩

end UploadJob

end SmpClient
