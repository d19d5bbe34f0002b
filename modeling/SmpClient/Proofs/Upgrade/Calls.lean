import SmpClient.Proofs.Upgrade.Leftover

/-!
# Calls from other threads

The owner of a session calls it from other threads.  A call locks the session, changes what the lock
protects, passes itself on to the upload that is going on, and only then unlocks the session; the upload
has a lock of its own and goes on in between.  Still a session is always as if every call had been made
at one moment.
-/

namespace SmpClient

namespace Session

/-- What an owner asks of a session. -/
inductive Call
  | pause
  | resume
  | cancel
  deriving DecidableEq

def Call.signal : Call → Signal
  | .pause => .pause
  | .resume => .resume
  | .cancel => .cancel

/-- What the lock of a session protects, as far as calls change it or depend on it. -/
structure Marks where
  paused : Bool
  canceled : Bool
  finished : Bool
  queue : TaskQueue

/-- What a call changes under the lock, and whether it is accepted. -/
def Marks.take (call : Call) (marks : Marks) : Bool × Marks :=
  match call with
  | .pause =>
      if marks.finished || marks.canceled then (false, marks) else (true, { marks with paused := true })
  | .resume => if marks.paused then (true, { marks with paused := false }) else (false, marks)
  | .cancel =>
      if marks.finished || marks.canceled then (false, marks)
      else (true, { marks with canceled := true, queue := marks.queue.clear })

/-- What an accepted call changes. -/
inductive Marks.Taken (marks : Marks) : Call → Marks → Prop
  | paused : Taken marks .pause { marks with paused := true }
  | resumed : Taken marks .resume { marks with paused := false }
  | canceled : Taken marks .cancel { marks with canceled := true, queue := marks.queue.clear }

theorem Marks.taken_of_take {call : Call} {marks : Marks} (accepts : (marks.take call).1 = true) :
    marks.Taken call (marks.take call).2 := by
  cases call with
  | pause =>
      simp only [take] at accepts ⊢
      split at accepts
      · cases accepts
      · rename_i accepted
        rw [if_neg accepted]
        exact .paused
  | resume =>
      simp only [take] at accepts ⊢
      split at accepts
      · rename_i accepted
        rw [if_pos accepted]
        exact .resumed
      · cases accepts
  | cancel =>
      simp only [take] at accepts ⊢
      split at accepts
      · cases accepts
      · rename_i accepted
        rw [if_neg accepted]
        exact .canceled

def marks (session : Session) : Marks :=
  { paused := session.paused, canceled := session.canceled, finished := session.finished,
    queue := session.queue }

def withMarks (marks : Marks) (session : Session) : Session :=
  { session with
    paused := marks.paused
    canceled := marks.canceled
    finished := marks.finished
    queue := marks.queue }

/-- The first half of a call; it does not reach the upload that is going on. -/
def mark (call : Call) (session : Session) : Bool × Session :=
  let taken := session.marks.take call
  (taken.1, session.withMarks taken.2)

/-- Whether the thread of a session locks it for its next step. -/
def locks (session : Session) : Bool :=
  match session.phase with
  | .starting | .announcing _ _ | .inspecting _ _ | .asking _ _ | .connecting _ | .over => false
  | .performing (.upload _) => true
  | .performing _ => false
  | .uploading job =>
      match job.need with
      | .finished _ => true
      | _ => false
  | .choosing | .entering _ | .awaitingDrop | .swapping _ | .performed _ | .concluding
  | .reporting _ => true

/-- A session that several threads share. -/
structure Shared where
  session : Session
  /-- The call that has locked the session and has not reached the upload yet. -/
  calling : Option Call := none
  /-- The calls that were accepted. -/
  accepted : List Call := []

/-- What a thread does. -/
inductive Act
  /-- The thread of the session takes in a reply. -/
  | reply (reply : Reply)
  /-- The link goes down. -/
  | drop
  /-- The owner locks the session. -/
  | call (call : Call)
  /-- The owner reaches the upload that is going on, and unlocks the session. -/
  | reach

namespace Shared

/-- What is done by a thread; one that needs the lock of another waits and does nothing. -/
def step (shared : Shared) : Act → Shared
  | .reply reply =>
      if shared.calling.isSome && shared.session.locks then shared
      else { shared with session := shared.session.feed reply }
  | .drop => { shared with session := (shared.session.signal .dropped).2 }
  | .call call =>
      if shared.calling.isSome || !(shared.session.mark call).1 then shared
      else
        { session := (shared.session.mark call).2, calling := some call,
          accepted := shared.accepted ++ [call] }
  | .reach =>
      match shared.calling with
      | some call =>
          { shared with session := shared.session.signalUpload call.signal, calling := none }
      | none => shared

/-- What has become of a session that is shared after acts in any order. -/
def after (acts : List Act) (origin : Session) : Shared :=
  acts.foldl step { session := origin }

theorem after_concat (acts : List Act) (act : Act) (origin : Session) :
    after (acts ++ [act]) origin = (after acts origin).step act := by
  simp [after]

/-- A call waits, is refused, or changes what the lock protects. -/
theorem step_call (call : Call) (shared : Shared) :
    shared.step (.call call) = shared ∨
      ∃ marks, shared.session.marks.Taken call marks ∧
        shared.step (.call call) =
          { session := shared.session.withMarks marks, calling := some call,
            accepted := shared.accepted ++ [call] } := by
  simp only [step]
  split
  · exact .inl rfl
  · rename_i going
    simp only [Bool.or_eq_true, Bool.not_eq_true', not_or, Bool.not_eq_false] at going
    exact .inr ⟨_, Marks.taken_of_take going.2, rfl⟩

end Shared

variable {session : Session}

/-- A call whose halves come one after the other is a signal. -/
theorem signal_call (call : Call) (session : Session) :
    session.signal call.signal =
      if (session.mark call).1 then (true, (session.mark call).2.signalUpload call.signal)
      else (false, session) := by
  cases call with
  | pause | cancel =>
      simp only [Call.signal, signal]
      split
      · rename_i refused
        simp only [mark, Marks.take, marks, refused]
        rfl
      · rename_i accepted
        simp only [mark, Marks.take, marks, accepted]
        rfl
  | resume =>
      simp only [Call.signal, signal]
      split
      · rename_i paused
        simp only [mark, Marks.take, marks, paused]
        rfl
      · rename_i going
        simp only [mark, Marks.take, marks, going]
        rfl

/-! ## What goes on without the lock -/

theorem answer_withMarks (marks : Marks) (question : Question) (packet : Bytes)
    (outcome : Except Error Response) (session : Session) :
    (session.withMarks marks).answer question packet outcome =
      (session.answer question packet outcome).withMarks marks := by
  cases question with
  | bootloader attempt =>
      simp only [answer, withMarks]
      cases bootloaderMode _ <;> rfl
  | reset =>
      simp only [answer, afterReset, withMarks]
      cases (Command.reset false).conclude _ _ _ with
      | ok reset => rfl
      | error failure =>
          dsimp only
          split <;> rfl
  | _ => rfl

theorem ask_withMarks (marks : Marks) (question : Question) (session : Session) :
    (session.withMarks marks).ask question = (session.ask question).withMarks marks := by
  obtain ⟨packet, built, asked⟩ := exists_ask question session
  obtain ⟨other, builtToo, askedToo⟩ := exists_ask question (session.withMarks marks)
  obtain rfl : packet = other := Except.ok.inj (built.symm.trans builtToo)
  rw [asked, askedToo]
  rfl

/-- A step without the lock neither depends on what the lock protects nor changes it. -/
theorem feed_withMarks (free : session.locks = false) (marks : Marks) (reply : Reply) :
    (session.withMarks marks).feed reply = (session.feed reply).withMarks marks := by
  cases phaseEq : session.phase with
  | starting | announcing before task | «over» =>
      cases reply <;> simp only [feed, withMarks, phaseEq]
  | inspecting attempt mode =>
      cases reply <;> simp only [feed, withMarks, phaseEq]
      exact ask_withMarks marks _ session
  | asking question packet =>
      cases reply <;> simp only [feed, withMarks, phaseEq]
      exact answer_withMarks marks question packet _ session
  | connecting target =>
      cases reply <;> simp only [feed, withMarks, phaseEq]
      rename_i outcome
      cases outcome with
      | error failure => rfl
      | ok connected => exact ask_withMarks marks _ session
  | uploading job =>
      simp only [locks, phaseEq] at free
      simp only [feed, withMarks, phaseEq]
      split
      · rename_i result needEq
        simp [needEq] at free
      · rfl
  | performing task =>
      cases reply <;> simp only [feed, withMarks, phaseEq]
      cases task with
      | upload target => simp [locks, phaseEq] at free
      | confirmAfterReset target => rfl
      | reset | resetBeforeUpload => exact ask_withMarks marks _ { session with dropped := false }
      | _ => exact ask_withMarks marks _ session
  | _ => simp [locks, phaseEq] at free

theorem marks_feed (free : session.locks = false) (reply : Reply) :
    (session.feed reply).marks = session.marks :=
  (congrArg Session.marks (feed_withMarks free session.marks reply) :)

theorem mark_feed (free : session.locks = false) (call : Call) (reply : Reply) :
    (session.feed reply).mark call = ((session.mark call).1, (session.mark call).2.feed reply) := by
  simp only [mark, marks_feed free, feed_withMarks free]

theorem locks_mark (call : Call) (session : Session) :
    (session.mark call).2.locks = session.locks :=
  rfl

/-! ## One moment for each call -/

/-- A session to which everything happens at one moment is where a shared one is, the call under way
being still to come. -/
inductive Shared.Simulates : Shared → Session → Prop
  | idle (session : Session) (accepted : List Call) : Simulates { session, accepted } session
  | calling {session : Session} (call : Call) (accepted : List Call)
      (accepts : (session.mark call).1 = true) :
      Simulates { session := (session.mark call).2, calling := some call, accepted } session

/-- What a thread does happens at one moment or not yet. -/
theorem Shared.Simulates.step {shared : Shared} (simulates : shared.Simulates session) (act : Act) :
    ∃ events, (shared.step act).Simulates (machine.after events session) := by
  cases simulates with
  | idle session accepted =>
      cases act with
      | reply reply => exact ⟨[.reply reply], .idle _ accepted⟩
      | drop => exact ⟨[.signal .dropped], .idle _ accepted⟩
      | call call =>
          refine ⟨[], ?_⟩
          cases accepts : (session.mark call).1 with
          | false =>
              simp only [Shared.step, accepts]
              exact .idle session accepted
          | true =>
              simp only [Shared.step, accepts]
              exact .calling call _ accepts
      | reach => exact ⟨[], .idle session accepted⟩
  | calling call accepted accepts =>
      cases act with
      | reply reply =>
          -- With the session locked its thread either waits, or goes on without the lock, and then
          -- the call that is under way may as well come later.
          cases free : session.locks with
          | true =>
              refine ⟨[], ?_⟩
              simp only [Shared.step, locks_mark, free]
              exact .calling call accepted accepts
          | false =>
              refine ⟨[.reply reply], ?_⟩
              have markEq := mark_feed free call reply
              have acceptsNow : ((session.feed reply).mark call).1 = true := by rw [markEq, accepts]
              have simulates := Shared.Simulates.calling call accepted acceptsNow
              rw [markEq] at simulates
              simp only [Shared.step, locks_mark, free, Bool.and_false, Bool.false_eq_true, if_false]
              exact simulates
      | drop =>
          have acceptsNow : ((session.signal .dropped).2.mark call).1 = true := accepts
          exact ⟨[.signal .dropped], .calling call accepted acceptsNow⟩
      | call other => exact ⟨[], .calling call accepted accepts⟩
      | reach =>
          refine ⟨[.signal call.signal], ?_⟩
          have signaled : (session.signal call.signal).2 =
              (session.mark call).2.signalUpload call.signal := by
            rw [signal_call, if_pos accepts]
          simp only [Shared.step]
          rw [← signaled]
          exact .idle _ accepted

/-- Whatever threads do in whatever order, every call is made at one moment. -/
theorem exists_simulates (acts : List Act) (origin : Session) :
    ∃ events, (Shared.after acts origin).Simulates (machine.after events origin) := by
  induction acts using List.reverseRecOn with
  | nil => exact ⟨[], .idle origin []⟩
  | append_singleton acts act ih =>
      obtain ⟨events, simulates⟩ := ih
      obtain ⟨more, simulatesNow⟩ := simulates.step act
      refine ⟨events ++ more, ?_⟩
      rw [Shared.after_concat, Machine.after, List.foldl_append]
      exact simulatesNow

end Session

end SmpClient
