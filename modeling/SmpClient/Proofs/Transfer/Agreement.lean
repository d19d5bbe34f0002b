import SmpClient.Proofs.Machine.AtOnce
import SmpClient.Proofs.Transfer.Course
import SmpClient.Proofs.Transfer.SingleSteps
import SmpClient.Proofs.Transfer.WindowSteps

/-!
# Plain and windowed uploads agree

On a link that answers at once a windowed upload sends what a plain upload sends, tells of the same
progress and comes to the same result, as long as the device acknowledges every chunk with its end.
Both stop at the first chunk that the device refuses, for the same reason; the windowed upload may have
sent more by then.
-/

namespace SmpClient

open Network Upload

/-! ## What an outcome acknowledges -/

section

variable {upload : Upload} {leg : Leg}

/-- Plain uploads as machines. -/
def SingleUpload.machine : Machine (Stepwise SingleUpload Exchange) Progress (Except Error Unit) where
  need := Stepwise.need transfer
  feed := Stepwise.feed transfer
  signal := Stepwise.signal
  seq := fun run => run.transfer.seq

/-- A plain upload before it begins. -/
def SingleUpload.fresh (upload : Upload) (seq : UInt8) (control : Control) :
    Stepwise SingleUpload Exchange :=
  { transfer := { upload, seq }, control }

/-- What a plain upload makes of an outcome. -/
def SingleUpload.reading (upload : Upload) (leg : Leg) (outcome : Except Error Response) :
    Except Error Nat :=
  SingleUpload.acknowledged { upload, seq := 0 } leg.exchange outcome

/-- What a windowed upload makes of an outcome. -/
def Window.reading (upload : Upload) (leg : Leg) (outcome : Except Error Response) :
    Except Error Nat :=
  Window.reported (.fresh upload 0 0 0 {}) (leg.ticket 0) outcome

/-- Both make the same of an outcome, but have different words for an answer to something else. -/
theorem reading_agrees (headerEq : Packet.header upload.scheme leg.chunk.packet = .ok leg.request)
    (outcome : Except Error Response) :
    SingleUpload.reading upload leg outcome = Window.reading upload leg outcome ∨
      ∃ failure other, SingleUpload.reading upload leg outcome = .error failure ∧
        Window.reading upload leg outcome = .error other ∧ failure.kind = other.kind := by
  cases outcome with
  | error failure => exact .inl rfl
  | ok response =>
      simp only [SingleUpload.reading, Window.reading, SingleUpload.acknowledged, Window.reported,
        Command.checkAnswer, Leg.exchange, Leg.ticket, Window.fresh, headerEq, bind, Except.bind]
      cases response.header with
      | none => exact .inl rfl
      | some header =>
          cases answers : leg.request.isAnsweredBy header with
          | true => simp [answers, pure, Except.pure]
          | false =>
              right
              simp [answers, throw, throwThe, MonadExceptOf.throw, Error.kind]

theorem SingleUpload.reading_of_acknowledged
    (headerEq : Packet.header upload.scheme leg.chunk.packet = .ok leg.request)
    (within : leg.after ≤ upload.data.length) {response : Response}
    (acknowledged : Acknowledged leg response) :
    SingleUpload.reading upload leg (.ok response) = .ok leg.after := by
  have accepted := acknowledged_of_check acknowledged.succeeds acknowledged.offsetEq within
  simp only [SingleUpload.reading, SingleUpload.acknowledged, Command.checkAnswer, Leg.exchange,
    headerEq, bind, Except.bind]
  cases present : response.header with
  | none => exact accepted
  | some header =>
      have answers := acknowledged.answers header present
      simpa [answers, pure, Except.pure] using accepted

theorem SingleUpload.reading_of_refused
    (headerEq : Packet.header upload.scheme leg.chunk.packet = .ok leg.request)
    {outcome : Except Error Response} (refused : Refused upload leg outcome) :
    ∃ failure, SingleUpload.reading upload leg outcome = .error failure := by
  cases read : SingleUpload.reading upload leg outcome with
  | error failure => exact ⟨failure, rfl⟩
  | ok offset =>
      obtain ⟨response, rfl, accepted⟩ := SingleUpload.acknowledged_eq_ok read
      obtain ⟨succeeds, offsetEq, within⟩ := Upload.acknowledged_eq_ok accepted
      exfalso
      cases refused with
      | otherAnswer present other =>
          simp [SingleUpload.reading, SingleUpload.acknowledged, Command.checkAnswer, Leg.exchange,
            headerEq, present, other, bind, Except.bind, throw, throwThe, MonadExceptOf.throw]
            at read
      | deviceError fails => cases fails.symm.trans succeeds
      | noOffset missing => cases missing.symm.trans offsetEq
      | offsetBeyond found beyond =>
          cases found.symm.trans offsetEq
          exact Nat.not_lt.mpr within beyond

theorem Window.reading_of_acknowledged
    (headerEq : Packet.header upload.scheme leg.chunk.packet = .ok leg.request)
    (within : leg.after ≤ upload.data.length) {response : Response}
    (acknowledged : Acknowledged leg response) :
    Window.reading upload leg (.ok response) = .ok leg.after := by
  have plain := SingleUpload.reading_of_acknowledged headerEq within acknowledged
  rcases reading_agrees headerEq (.ok response) with same | ⟨failure, other, failed, -⟩
  · exact same.symm.trans plain
  · cases failed.symm.trans plain

/-- Both refuse what is refused, with the same kind of error. -/
theorem reading_of_refused
    (headerEq : Packet.header upload.scheme leg.chunk.packet = .ok leg.request)
    {outcome : Except Error Response} (refused : Refused upload leg outcome) :
    ∃ failure other, SingleUpload.reading upload leg outcome = .error failure ∧
      Window.reading upload leg outcome = .error other ∧ failure.kind = other.kind := by
  rcases reading_agrees headerEq outcome with same | different
  · obtain ⟨failure, failed⟩ := SingleUpload.reading_of_refused headerEq refused
    exact ⟨failure, failure, failed, same ▸ failed, rfl⟩
  · exact different

end

/-! ## Plain uploads -/

section

variable {upload : Upload} {answer : List Bytes → Except Error Response}

namespace SingleUpload

/-- A plain upload on its course. -/
def onCourse (upload : Upload) (seq : UInt8) (offset : Nat) (phase : Stepwise.Phase Exchange) :
    Stepwise SingleUpload Exchange :=
  { transfer := { upload, offset, seq }, control := { phase := .active }, phase }

/-- A plain upload whose course ended with a result. -/
structure Concluded (upload : Upload) (result : Except Error Unit)
    (run : Stepwise SingleUpload Exchange) : Prop where
  phase_eq : run.phase = .ended result
  upload_eq : run.transfer.upload = upload
  active : ∀ failure, result = .error failure → run.control = { phase := .active }

theorem need_choosing (seq : UInt8) (offset : Nat) :
    machine.need (onCourse upload seq offset .choosing) = .step := by
  simp [machine, onCourse, Stepwise.need, Stepwise.isBlocked, Control.isPaused]

theorem concluded_of_complete (seq : UInt8) :
    Concluded upload (.ok ())
      (machine.feed .ready (onCourse upload seq upload.data.length .choosing)) := by
  constructor <;>
    simp [machine, onCourse, Stepwise.feed, Stepwise.advance, Transfer.isFinished, transfer]

theorem feed_choosing {seq : UInt8} {leg : Leg}
    (chunkEq : upload.nextChunk seq leg.offset = (.ok leg.chunk, seq + 2))
    (short : leg.offset < upload.data.length) :
    machine.feed .ready (onCourse upload seq leg.offset .choosing) =
      onCourse upload (seq + 2) leg.offset (.sending leg.offset leg.exchange) := by
  have unfinished : (leg.offset == upload.data.length) = false := by simpa using Nat.ne_of_lt short
  simp [machine, onCourse, Stepwise.feed, Stepwise.advance, Transfer.isFinished, transfer, unfinished,
    Control.isPaused, Control.isAborted, request, chunkEq, Except.map, Leg.exchange]

theorem feed_acknowledged {seq : UInt8} {leg : Leg} {outcome : Except Error Response}
    (read : reading upload leg outcome = .ok leg.after) (pos : 0 < leg.chunk.length) :
    machine.feed (.answer outcome)
        (onCourse upload seq leg.offset (.sending leg.offset leg.exchange)) =
      onCourse upload seq leg.after .telling := by
  have moved := Leg.after_ne_offset pos
  have accepted : acknowledged { upload, offset := leg.offset, seq } leg.exchange outcome =
      .ok leg.after := read
  simp [machine, onCourse, Stepwise.feed, Stepwise.answer, transfer, accept, accepted, moved,
    Stepwise.settle, maxStalls]

theorem concluded_of_refused {seq : UInt8} {leg : Leg} {outcome : Except Error Response}
    {failure : Error} (read : reading upload leg outcome = .error failure) :
    Concluded upload (.error failure) (machine.feed (.answer outcome)
      (onCourse upload seq leg.offset (.sending leg.offset leg.exchange))) := by
  have refused : acknowledged { upload, offset := leg.offset, seq } leg.exchange outcome =
      .error failure := read
  constructor <;>
    simp [machine, onCourse, Stepwise.feed, Stepwise.answer, transfer, accept, refused]

theorem comesTo_answered {seq : UInt8} {leg : Leg} {told : List Progress} {sent : List Bytes}
    {issued : List Ticket} (chunkEq : upload.nextChunk seq leg.offset = (.ok leg.chunk, seq + 2))
    (short : leg.offset < upload.data.length) :
    (settled (onCourse upload seq leg.offset .choosing) told sent [] issued).ComesTo machine answer
      (settled (machine.feed (.answer (answer (sent ++ [leg.chunk.packet])))
        (onCourse upload (seq + 2) leg.offset (.sending leg.offset leg.exchange)))
        told (sent ++ [leg.chunk.packet]) [] issued) := by
  refine ComesTo.trans ?_ (comesTo_of_exchange rfl)
  rw [← feed_choosing chunkEq short]
  exact comesTo_of_step (need_choosing seq leg.offset)

theorem comesTo_choosing {seq : UInt8} {control : Control}
    (started : control.start = .ok { phase := .active }) {told : List Progress}
    {sent : List Bytes} {issued : List Ticket} :
    (settled (fresh upload seq control) told sent [] issued).ComesTo machine answer
      (settled (onCourse upload seq 0 .choosing) told sent [] issued) := by
  have begun : machine.feed .ready (fresh upload seq control) = onCourse upload seq 0 .choosing := by
    simp [machine, fresh, Stepwise.feed, Stepwise.advance, started, onCourse]
  rw [← begun]
  exact comesTo_of_step rfl

/-- What comes of the legs of its course is what a plain upload comes to. -/
theorem comesTo_of_concludes {seq : UInt8} {offset : Nat} {sent : List Bytes} {legs : List Leg}
    {told : List Progress} {result : Except Error Unit} (course : upload.Course seq offset legs)
    (concludes : Concludes upload answer (reading upload) sent legs told result)
    (before : List Progress) (issued : List Ticket) :
    ∃ run all, Concluded upload result run ∧ (result = .ok () → all = sent ++ packets legs) ∧
      (settled (onCourse upload seq offset .choosing) before sent [] issued).ComesTo machine answer
        (settled run (before ++ told) all [] issued) := by
  induction concludes generalizing seq offset before with
  | @completed sent =>
      cases course with
      | finished complete =>
          subst complete
          refine ⟨_, sent, concluded_of_complete seq, by simp, ?_⟩
          rw [List.append_nil]
          exact comesTo_of_step (need_choosing seq _)
  | @acknowledged sent leg legs told result read rest ih =>
      have short := course.offset_lt
      cases course with
      | next starts chunkEq headerEq pos course =>
          subst starts
          obtain ⟨run, all, concluded, sentAll, comes⟩ :=
            ih course (before ++ [⟨leg.after, upload.data.length⟩])
          have answered : (settled (onCourse upload seq leg.offset .choosing) before sent [] issued).ComesTo
              machine answer _ := comesTo_answered chunkEq short
          rw [feed_acknowledged read pos] at answered
          rw [List.append_assoc] at comes
          exact ⟨run, all, concluded, by simpa using sentAll,
            (answered.trans (comesTo_of_tell rfl)).trans comes⟩
  | @refused sent leg legs failure read =>
      have short := course.offset_lt
      cases course with
      | next starts chunkEq headerEq pos course =>
          subst starts
          have answered : (settled (onCourse upload seq leg.offset .choosing) before sent [] issued).ComesTo
              machine answer _ := comesTo_answered chunkEq short
          rw [List.append_nil]
          exact ⟨_, _, concluded_of_refused read, nofun, answered⟩

theorem endsAtOnce_of_acknowledging {seq : UInt8} {control : Control}
    (started : control.start = .ok { phase := .active }) {legs rest : List Leg}
    (course : upload.Course seq 0 (legs ++ rest)) (acknowledging : Acknowledging answer [] legs)
    {told : List Progress} {result : Except Error Unit}
    (concludes : Concludes upload answer (reading upload) (packets legs) rest told result) :
    ∃ all, (settled (fresh upload seq control) [] [] [] []).EndsAtOnce machine answer result
        (upload.progress legs ++ told) all ∧ (result = .ok () → all = packets (legs ++ rest)) := by
  have concludesAll := Concludes.of_acknowledging reading_of_acknowledged course acknowledging
    concludes
  obtain ⟨run, all, concluded, sentAll, comes⟩ := comesTo_of_concludes course concludesAll [] []
  have finished : machine.need run = .finished result :=
    Stepwise.need_eq_finished_iff.mpr concluded.phase_eq
  exact ⟨all, ⟨_, (comesTo_choosing started).trans comes, finished, rfl, rfl⟩, sentAll⟩

end SingleUpload

/-! ## Windowed uploads -/

namespace Window

/-- A windowed upload on its course; the legs `flying` are out. -/
def onCourse (upload : Upload) (capacity attempt : Nat) (seq : UInt8) (acked next : Nat)
    (flying : List Leg) (phase : Phase) : Window :=
  { upload, capacity, attempt, seq, control := { phase := .active }, next, acked,
    inFlight := flying.length, phase }

/-- A windowed upload whose course ended with a result. -/
structure Concluded (upload : Upload) (result : Except Error Unit) (window : Window) : Prop where
  phase_eq : window.phase = .ended result
  upload_eq : window.upload = upload
  active : ∀ failure, result = .error failure → window.control = { phase := .active }

/-- What comes back for legs that are sent ahead. -/
def answers (answer : List Bytes → Except Error Response) (attempt : Nat) :
    (sent : List Bytes) → List Leg → List Answered
  | _, [] => []
  | sent, leg :: legs =>
      { ticket := leg.ticket attempt, outcome := answer (sent ++ [leg.chunk.packet]) } ::
        answers answer attempt (sent ++ [leg.chunk.packet]) legs

theorem reported_ticket (window : Window) (attempt : Nat) (leg : Leg)
    (outcome : Except Error Response) :
    window.reported (leg.ticket attempt) outcome = reading window.upload leg outcome :=
  rfl

theorem attempt_of_mem_answers {attempt : Nat} {sent : List Bytes} {legs : List Leg}
    {answered : Answered} (member : answered ∈ answers answer attempt sent legs) :
    answered.ticket.attempt = attempt := by
  induction legs generalizing sent with
  | nil => cases member
  | cons leg legs ih =>
      rcases List.mem_cons.mp member with rfl | later
      · rfl
      · exact ih later

theorem answers_concat (attempt : Nat) (sent : List Bytes) (legs : List Leg) (leg : Leg) :
    answers answer attempt sent (legs ++ [leg]) = answers answer attempt sent legs ++
      [{ ticket := leg.ticket attempt
         outcome := answer (sent ++ packets legs ++ [leg.chunk.packet]) }] := by
  induction legs generalizing sent with
  | nil => simp [answers]
  | cons first legs ih => simp [answers, ih]

/-- A windowed upload on its course, all whose requests the device has answered; `sent` was sent
before the legs that are out. -/
def midway (upload : Upload) (capacity attempt : Nat)
    (answer : List Bytes → Except Error Response) (seq : UInt8) (acked next : Nat)
    (flying : List Leg) (phase : Phase) (told : List Progress) (sent : List Bytes)
    (issued : List Ticket) : Network (Logged Window Progress) (List Bytes) :=
  settled (onCourse upload capacity attempt seq acked next flying phase) told
    (sent ++ packets flying) (answers answer attempt sent flying) issued

variable {capacity attempt : Nat} {seq : UInt8} {acked next : Nat} {leg : Leg} {flying : List Leg}

theorem concluded_of_complete (complete : upload.data.length ≤ acked) :
    Concluded upload (.ok ())
      (machine.feed .ready (onCourse upload capacity attempt seq acked next flying .turning)) := by
  change Concluded upload _ (onCourse upload capacity attempt seq acked next flying .turning).turn
  constructor <;> simp [onCourse, turn, total, complete]

theorem feed_turning (short : acked < upload.data.length)
    (left : flying ≠ [] ∨ next < upload.data.length) :
    machine.feed .ready (onCourse upload capacity attempt seq acked next flying .turning) =
      onCourse upload capacity attempt seq acked next flying .issuing := by
  have goesOn : ¬(upload.data.length ≤ next ∧ flying = []) := by
    rintro ⟨issued, landed⟩
    exact left.elim (fun out => out landed) (Nat.not_lt.mpr issued)
  change (onCourse upload capacity attempt seq acked next flying .turning).turn = _
  simp [onCourse, turn, total, notePause, Control.isPaused, Nat.not_le.mpr short, goesOn]

theorem feed_issuing (room : flying.length < capacity)
    (chunkEq : upload.nextChunk seq leg.offset = (.ok leg.chunk, seq + 2))
    (headerEq : Packet.header upload.scheme leg.chunk.packet = .ok leg.request)
    (short : leg.offset < upload.data.length) :
    machine.feed .ready (onCourse upload capacity attempt seq acked leg.offset flying .issuing) =
      onCourse upload capacity attempt (seq + 2) acked leg.offset flying
        (.posting leg.chunk.packet (leg.ticket attempt)) := by
  change (onCourse upload capacity attempt seq acked leg.offset flying .issuing).issue = _
  simp [onCourse, issue, total, room, short, chunkEq, headerEq, Leg.ticket]

theorem feed_posting_leg :
    machine.feed .ready (onCourse upload capacity attempt seq acked leg.offset flying
        (.posting leg.chunk.packet (leg.ticket attempt))) =
      onCourse upload capacity attempt seq acked leg.after (flying ++ [leg]) .issuing := by
  rw [machine_feed, feed_posting rfl]
  simp [onCourse, posted, Leg.ticket, Leg.after]

theorem feed_issuing_full (full : ¬(flying.length < capacity ∧ next < upload.data.length))
    (out : flying ≠ []) :
    machine.feed .ready (onCourse upload capacity attempt seq acked next flying .issuing) =
      onCourse upload capacity attempt seq acked next flying .collecting := by
  change (onCourse upload capacity attempt seq acked next flying .issuing).issue = _
  simp [onCourse, issue, total, full, afterIssuing, out]

theorem feed_acknowledged {outcome : Except Error Response}
    (read : reading upload leg outcome = .ok leg.after) (pos : 0 < leg.chunk.length) :
    machine.feed (.acknowledgement (leg.ticket attempt) outcome)
        (onCourse upload capacity attempt seq leg.offset next (leg :: flying) .collecting) =
      onCourse upload capacity attempt seq leg.after next flying .telling := by
  have moved := Leg.after_ne_offset pos
  have reached : leg.after = (leg.ticket attempt).offset + (leg.ticket attempt).length := rfl
  rw [machine_feed, feed_collecting rfl]
  simp [onCourse, acknowledge, reported_ticket, read, settle, ← reached, moveTo, moved]

theorem concluded_of_refused {outcome : Except Error Response} {failure : Error}
    (read : reading upload leg outcome = .error failure) :
    Concluded upload (.error failure) (machine.feed (.acknowledgement (leg.ticket attempt) outcome)
      (onCourse upload capacity attempt seq acked next (leg :: flying) .collecting)) := by
  rw [machine_feed, feed_collecting rfl]
  constructor <;> simp [onCourse, acknowledge, reported_ticket, read, finish]

/-! ### Along the course -/

section

variable {told : List Progress} {sent : List Bytes} {issued : List Ticket} {waiting : List Leg}

theorem comesTo_of_feed {after : UInt8} {phase reached : Phase}
    (needEq : machine.need (onCourse upload capacity attempt seq acked next flying phase) = .step)
    (fed : machine.feed .ready (onCourse upload capacity attempt seq acked next flying phase) =
      onCourse upload capacity attempt after acked next flying reached) :
    (midway upload capacity attempt answer seq acked next flying phase told sent issued).ComesTo
      machine answer
      (midway upload capacity attempt answer after acked next flying reached told sent issued) := by
  rw [midway, midway, ← fed]
  exact comesTo_of_step needEq

theorem comesTo_issued (room : flying.length < capacity)
    (chunkEq : upload.nextChunk seq leg.offset = (.ok leg.chunk, seq + 2))
    (headerEq : Packet.header upload.scheme leg.chunk.packet = .ok leg.request)
    (short : leg.offset < upload.data.length) :
    (midway upload capacity attempt answer seq acked leg.offset flying .issuing told sent
        issued).ComesTo machine answer
      (midway upload capacity attempt answer (seq + 2) acked leg.after (flying ++ [leg]) .issuing told
        sent (issued ++ [leg.ticket attempt])) := by
  refine (comesTo_of_feed rfl (feed_issuing room chunkEq headerEq short)).trans ?_
  rw [midway, midway, ← feed_posting_leg, answers_concat, packets_append, packets_cons, packets_nil,
    ← List.append_assoc]
  exact comesTo_of_post rfl

variable (answer attempt told sent issued)

/-- As many legs are sent as there is room for; then acknowledgements are collected. -/
theorem comesTo_collecting (acked : Nat) (capacity_pos : 0 < capacity)
    (course : upload.Course seq next waiting) (left : flying ++ waiting ≠ []) :
    ∃ seq' next' flying' waiting' issued', upload.Course seq' next' waiting' ∧ flying' ≠ [] ∧
      flying' ++ waiting' = flying ++ waiting ∧
      (midway upload capacity attempt answer seq acked next flying .issuing told sent
          issued).ComesTo machine answer
        (midway upload capacity attempt answer seq' acked next' flying' .collecting told sent
          issued') := by
  induction waiting generalizing seq next flying issued with
  | nil =>
      cases course with
      | finished complete =>
          have out : flying ≠ [] := by simpa using left
          have full : ¬(flying.length < capacity ∧ next < upload.data.length) := by omega
          exact ⟨seq, next, flying, [], issued, .finished complete, out, rfl,
            comesTo_of_feed rfl (feed_issuing_full full out)⟩
  | cons leg waiting ih =>
      by_cases room : flying.length < capacity
      · have short := course.offset_lt
        cases course with
        | next starts chunkEq headerEq pos rest =>
            subst starts
            have some : flying ++ [leg] ++ waiting ≠ [] := by simp
            obtain ⟨seq', next', flying', waiting', issued', course, out, same, collecting⟩ :=
              ih (issued ++ [leg.ticket attempt]) rest some
            exact ⟨seq', next', flying', waiting', issued', course, out, by simpa using same,
              (comesTo_issued room chunkEq headerEq short).trans collecting⟩
      · have out : flying ≠ [] := by
          rintro rfl
          exact room capacity_pos
        have full : ¬(flying.length < capacity ∧ next < upload.data.length) :=
          fun both => room both.1
        exact ⟨seq, next, flying, leg :: waiting, issued, course, out, rfl,
          comesTo_of_feed rfl (feed_issuing_full full out)⟩

/-- While a leg is left its turn comes: what came back for it is collected next. -/
theorem comesTo_first {first : UInt8} {legs : List Leg} (capacity_pos : 0 < capacity)
    (whole : upload.Course first acked (leg :: legs)) (course : upload.Course seq next waiting)
    (split : flying ++ waiting = leg :: legs) :
    ∃ seq' next' flying' waiting' issued', upload.Course seq' next' waiting' ∧
      flying' ++ waiting' = legs ∧
      (midway upload capacity attempt answer seq acked next flying .turning told sent
          issued).ComesTo machine answer
        (midway upload capacity attempt answer seq' acked next' (leg :: flying') .collecting told sent
          issued') := by
  have left : flying ≠ [] ∨ next < upload.data.length := by
    cases flying with
    | nil =>
        subst split
        exact .inr course.offset_lt
    | cons head tail => exact .inl (List.cons_ne_nil head tail)
  have some : flying ++ waiting ≠ [] := split ▸ List.cons_ne_nil leg legs
  obtain ⟨seq', next', flying', waiting', issued', rest, out, same, collecting⟩ :=
    comesTo_collecting answer attempt told sent issued acked capacity_pos course some
  cases flying' with
  | nil => exact absurd rfl out
  | cons head tail =>
      rw [split, List.cons_append, List.cons.injEq] at same
      obtain ⟨rfl, same⟩ := same
      exact ⟨seq', next', tail, waiting', issued', rest, same,
        (comesTo_of_feed rfl (feed_turning whole.offset_lt left)).trans collecting⟩

variable {answer attempt told sent issued}

theorem comesTo_collected :
    (midway upload capacity attempt answer seq acked next (leg :: flying) .collecting told sent
        issued).ComesTo machine answer
      (settled (machine.feed
          (.acknowledgement (leg.ticket attempt) (answer (sent ++ [leg.chunk.packet])))
          (onCourse upload capacity attempt seq acked next (leg :: flying) .collecting))
        told (sent ++ [leg.chunk.packet] ++ packets flying)
        (answers answer attempt (sent ++ [leg.chunk.packet]) flying) issued) := by
  rw [midway, packets_cons, List.append_cons]
  exact comesTo_of_collect rfl

/-- What comes of the legs of its course is what a windowed upload comes to.  What came back for legs
that were out by then lies there. -/
theorem comesTo_of_concludes {first : UInt8} {legs : List Leg} {result : Except Error Unit}
    (capacity_pos : 0 < capacity) (whole : upload.Course first acked legs)
    (concludes : Concludes upload answer (reading upload) sent legs told result)
    (course : upload.Course seq next waiting) (split : flying ++ waiting = legs)
    (before : List Progress) :
    ∃ window all left issued', Concluded upload result window ∧
      (result = .ok () → all = sent ++ packets legs) ∧
      (∀ answered ∈ left, answered.ticket.attempt = attempt) ∧
      (midway upload capacity attempt answer seq acked next flying .turning before sent
          issued).ComesTo machine answer
        (settled window (before ++ told) all left issued') := by
  -- The induction is on the account of the legs.  How many of them are out at a time is left open,
  -- since each turn sends as many as there is room for.
  induction concludes generalizing first acked seq next flying waiting before issued with
  | @completed sent =>
      obtain ⟨rfl, rfl⟩ := List.append_eq_nil_iff.mp split
      cases whole with
      | finished complete =>
          have turned : (midway upload capacity attempt answer seq acked next [] .turning before sent
              issued).ComesTo machine answer _ := comesTo_of_step rfl
          rw [packets_nil, List.append_nil, List.append_nil]
          rw [packets_nil, List.append_nil] at turned
          exact ⟨_, sent, _, issued, concluded_of_complete (Nat.le_of_eq complete.symm), fun _ => rfl,
            fun _ => attempt_of_mem_answers, turned⟩
  | @acknowledged sent leg legs told result read rest ih =>
      obtain ⟨seq', next', flying', waiting', issued', course, same, collecting⟩ :=
        comesTo_first answer attempt before sent issued capacity_pos whole course split
      cases whole with
      | next starts chunkEq headerEq pos whole =>
          subst starts
          obtain ⟨window, all, left, issued'', concluded, sentAll, mine, comes⟩ := ih whole course
            same (before ++ [⟨leg.after, upload.data.length⟩])
          have collected := collecting.trans comesTo_collected
          rw [feed_acknowledged read pos] at collected
          rw [List.append_assoc] at comes
          exact ⟨window, all, left, issued'', concluded, by simpa using sentAll, mine,
            (collected.trans (comesTo_of_tell rfl)).trans comes⟩
  | @refused sent leg legs failure read =>
      obtain ⟨seq', next', flying', waiting', issued', course, same, collecting⟩ :=
        comesTo_first answer attempt before sent issued capacity_pos whole course split
      rw [List.append_nil]
      exact ⟨_, _, _, issued', concluded_of_refused read, nofun, fun _ => attempt_of_mem_answers,
        collecting.trans comesTo_collected⟩

end

theorem comesTo_turning {control : Control} (started : control.start = .ok { phase := .active })
    {told : List Progress} {sent : List Bytes} {issued : List Ticket} :
    (settled (fresh upload capacity attempt seq control) told sent [] issued).ComesTo machine answer
      (midway upload (max capacity 1) attempt answer seq 0 0 [] .turning told sent issued) := by
  have begun : machine.feed .ready (fresh upload capacity attempt seq control) =
      onCourse upload (max capacity 1) attempt seq 0 0 [] .turning := by
    change (fresh upload capacity attempt seq control).begin = _
    simp [fresh, begin, started, onCourse]
  rw [midway, packets_nil, List.append_nil, answers, ← begun]
  exact comesTo_of_step rfl

theorem endsAtOnce_of_acknowledging {control : Control}
    (started : control.start = .ok { phase := .active }) {legs rest : List Leg}
    (course : upload.Course seq 0 (legs ++ rest)) (acknowledging : Acknowledging answer [] legs)
    {told : List Progress} {result : Except Error Unit}
    (concludes : Concludes upload answer (reading upload) (packets legs) rest told result)
    (capacity attempt : Nat) :
    ∃ all, (settled (fresh upload capacity attempt seq control) [] [] [] []).EndsAtOnce machine
        answer result (upload.progress legs ++ told) all ∧
      (result = .ok () → all = packets (legs ++ rest)) := by
  have concludesAll := Concludes.of_acknowledging reading_of_acknowledged course acknowledging
    concludes
  have capacity_pos : 0 < max capacity 1 := Nat.lt_of_lt_of_le Nat.one_pos (Nat.le_max_right _ _)
  obtain ⟨window, all, left, issued, concluded, sentAll, -, comes⟩ := comesTo_of_concludes
    capacity_pos course concludesAll course (List.nil_append _) []
  have finished : machine.need window = .finished result :=
    need_eq_finished_iff.mpr concluded.phase_eq
  exact ⟨all, ⟨_, (comesTo_turning started).trans comes, finished, rfl, rfl⟩, sentAll⟩

end Window

/-! ## Agreement -/

/-- Plain and windowed uploads that begin with the same sequence number agree on links that answer at
once.  They have one course.  If every leg of it is acknowledged with its end, both send its packets and
nothing else, tell of the same progress and succeed.  At the first leg that is refused both end with
errors of one kind. -/
def Upload.Agrees (upload : Upload) (seq : UInt8) (control : Control) (capacity attempt : Nat) :
    Prop :=
  ∃ legs, upload.Course seq 0 legs ∧ ∀ answer : List Bytes → Except Error Response,
    let plain := settled (SingleUpload.fresh upload seq control) [] [] [] []
    let windowed := settled (Window.fresh upload capacity attempt seq control) [] [] [] []
    (Acknowledging answer [] legs →
      plain.EndsAtOnce SingleUpload.machine answer (.ok ()) (upload.progress legs) (packets legs) ∧
        windowed.EndsAtOnce Window.machine answer (.ok ()) (upload.progress legs)
          (packets legs)) ∧
    ∀ before leg after, legs = before ++ leg :: after → Acknowledging answer [] before →
      Refused upload leg (answer (packets before ++ [leg.chunk.packet])) →
      ∃ failure other sent ahead,
        plain.EndsAtOnce SingleUpload.machine answer (.error failure) (upload.progress before)
            sent ∧
          windowed.EndsAtOnce Window.machine answer (.error other) (upload.progress before)
            ahead ∧ failure.kind = other.kind

/-- If the first chunk can be sized, the uploads agree whatever the window. -/
theorem Upload.windowed_agrees (addressable : upload.Addressable) (nonempty : upload.data ≠ [])
    {seq : UInt8} (fits : ∃ length, upload.chunkLength seq 0 = .ok length) {control : Control}
    (started : control.start = .ok { phase := .active }) (capacity attempt : Nat) :
    upload.Agrees seq control capacity attempt := by
  obtain ⟨legs, course⟩ := exists_course addressable nonempty fits seq (Nat.zero_le _)
  refine ⟨legs, course, fun answer => ?_⟩
  intro plain windowed
  constructor
  · intro acknowledging
    rw [← List.append_nil legs] at course
    obtain ⟨sent, ends, sentAll⟩ := SingleUpload.endsAtOnce_of_acknowledging started course
      acknowledging .completed
    obtain ⟨ahead, ends', sentAhead⟩ := Window.endsAtOnce_of_acknowledging started course
      acknowledging .completed capacity attempt
    rw [sentAll rfl] at ends
    rw [sentAhead rfl] at ends'
    simpa using And.intro ends ends'
  · intro before leg after split acknowledging refused
    subst split
    have headerEq := course.header_of_mem (List.mem_append_right before List.mem_cons_self)
    obtain ⟨failure, other, read, read', sameKind⟩ := reading_of_refused headerEq refused
    obtain ⟨sent, ends, -⟩ := SingleUpload.endsAtOnce_of_acknowledging started course acknowledging
      (.refused read)
    obtain ⟨ahead, ends', -⟩ := Window.endsAtOnce_of_acknowledging started course acknowledging
      (.refused read') capacity attempt
    rw [List.append_nil] at ends ends'
    exact ⟨failure, other, sent, ahead, ends, ends', sameKind⟩

end

/-- The uploads of three bytes in two chunks agree. -/
theorem Upload.windowed_agrees_threeBytes :
    let upload := Storage.threeBytes
    (upload.Addressable ∧ upload.data ≠ [] ∧ (∃ length, upload.chunkLength 0 0 = .ok length) ∧
      Control.start {} = .ok { phase := .active }) ∧ upload.Agrees 0 {} 2 0 := by
  intro upload
  have addressable : upload.Addressable := ⟨by decide, by decide⟩
  have nonempty : upload.data ≠ [] := by decide
  have started : Control.start {} = .ok { phase := .active } := rfl
  have fits : ∃ length, upload.chunkLength 0 0 = .ok length := by
    have sized : (upload.chunkLength 0 0).toOption = some 2 := by decide +kernel
    cases lengthEq : upload.chunkLength 0 0 with
    | error failure =>
        rw [lengthEq] at sized
        cases sized
    | ok length => exact ⟨length, rfl⟩
  exact ⟨⟨addressable, nonempty, fits, started⟩,
    Upload.windowed_agrees addressable nonempty fits started 2 0⟩

end SmpClient
