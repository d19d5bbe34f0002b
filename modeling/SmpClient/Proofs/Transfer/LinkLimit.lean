import SmpClient.Proofs.Transfer.Agreement
import SmpClient.Proofs.Transfer.AnyOrder

/-!
# Uploads over a link with a limit

A link with a limit refuses every packet that is longer.  An upload that was promised more room starts
over at the first refusal, with packets that are shorter than the limit, and these all pass: the first
chunk of an upload takes the most room.  Chunks of the first attempt that passed do no harm, since the
device starts over as well.
-/

namespace SmpClient

open Network Upload Storage

/-- An upload with packets shorter than a limit. -/
def Upload.below (limit : Nat) (upload : Upload) : Upload :=
  { upload with mtu := min upload.mtu (limit - 1) }

/-! ## The link and its device -/

/-- A device after packets over a link with a limit. -/
def Storage.within (scheme : Scheme) (limit : Nat) (storage : Storage) (sent : List Bytes) :
    Storage :=
  sent.foldl
    (fun storage packet =>
      if limit < packet.length then storage else storage.receive scheme none packet)
    storage

theorem Storage.within_concat (scheme : Scheme) (limit : Nat) (storage : Storage)
    (sent : List Bytes) {packet : Bytes} (short : packet.length ≤ limit) :
    storage.within scheme limit (sent ++ [packet]) =
      (storage.within scheme limit sent).receive scheme none packet := by
  simp [Storage.within, Nat.not_lt.mpr short]

theorem Storage.held_store {request : StoreRequest} {storage : Storage} {held : Bytes}
    (openedEq : storage.opened request = held) (ends : request.offset = held.length) :
    (storage.store none request).held = held ++ request.data := by
  simp [store, openedEq, ends]

/-- A link that refuses every packet longer than its limit.  The device behind it stores chunks and
acknowledges what it then holds. -/
structure LimitedLink (scheme : Scheme) (limit : Nat) (initial : Storage)
    (answer : List Bytes → Except Error Response) : Prop where
  refuses : ∀ sent packet, limit < packet.length →
    answer (sent ++ [packet]) = .error (.insufficientMtu packet.length limit)
  acknowledges : ∀ sent packet request header, packet.length ≤ limit →
    StoreRequest.read? scheme packet = some request → Packet.header scheme packet = .ok header →
    ∃ response, answer (sent ++ [packet]) = .ok response ∧
      (∀ given, response.header = some given → header.isAnsweredBy given = true) ∧
      response.check = .ok response ∧
      response.offset = some (initial.within scheme limit (sent ++ [packet])).held.length

section

variable {upload : Upload} {limit : Nat} {initial : Storage}
  {answer : List Bytes → Except Error Response}

/-- The device takes the next chunk of what it holds, and the first one in any case. -/
theorem held_within_chunk (representable : upload.Representable) {seq : UInt8} {leg : Leg}
    (built : upload.chunkPacket seq leg.offset leg.chunk.length = .ok leg.chunk.packet)
    (after_le : leg.after ≤ upload.data.length) (short : leg.chunk.packet.length ≤ limit)
    {sent : List Bytes} (holds : leg.offset = 0 ∨
      (initial.within upload.scheme limit sent).held = upload.data.take leg.offset) :
    (initial.within upload.scheme limit (sent ++ [leg.chunk.packet])).held =
      upload.data.take leg.after := by
  have carries := carries_of_chunkPacket representable after_le built
  rw [Storage.within_concat _ _ _ _ short, receive_of_carries carries]
  generalize initial.within upload.scheme limit sent = storage at holds
  have openedEq : storage.opened (chunkRequest upload.data leg.offset leg.chunk.length) =
      upload.data.take leg.offset := by
    by_cases first : leg.offset = 0
    · simp [opened, chunkRequest, first]
    · simpa [opened, chunkRequest, first] using holds
  have ends : leg.offset = (upload.data.take leg.offset).length := by
    rw [List.length_take, Nat.min_eq_left (Nat.le_of_add_right_le after_le)]
  rw [held_store openedEq ends, Leg.after, List.take_add]
  rfl

/-- What is within the limit is acknowledged, and at the end of the data the device holds all of it. -/
theorem LimitedLink.acknowledging (link : LimitedLink upload.scheme limit initial answer)
    (representable : upload.Representable) {seq : UInt8} {offset : Nat} {legs rest : List Leg}
    (course : upload.Course seq offset (legs ++ rest))
    (short : ∀ leg ∈ legs, leg.chunk.packet.length ≤ limit) {sent : List Bytes}
    (holds : offset = 0 ∨
      (initial.within upload.scheme limit sent).held = upload.data.take offset) :
    Acknowledging answer sent legs := by
  induction legs generalizing seq offset sent with
  | nil => trivial
  | cons leg legs ih =>
      obtain ⟨legShort, short⟩ := List.forall_mem_cons.mp short
      cases course with
      | next starts chunkEq headerEq pos course =>
          subst starts
          have built := (nextChunk_eq_ok chunkEq).2
          have after_le := course.offset_le
          have held := held_within_chunk representable built after_le legShort holds
          have carries := carries_of_chunkPacket representable after_le built
          obtain ⟨response, answerEq, answers, succeeds, offsetEq⟩ :=
            link.acknowledges sent _ _ _ legShort carries headerEq
          rw [held, List.length_take, Nat.min_eq_left after_le] at offsetEq
          exact ⟨⟨response, answerEq, ⟨answers, succeeds, offsetEq⟩⟩, ih course short (.inr held)⟩

theorem held_within_course (representable : upload.Representable) {seq : UInt8} {offset : Nat}
    {legs : List Leg} (course : upload.Course seq offset legs)
    (short : ∀ leg ∈ legs, leg.chunk.packet.length ≤ limit) {sent : List Bytes}
    (holds : offset = 0 ∧ upload.data ≠ [] ∨
      (initial.within upload.scheme limit sent).held = upload.data.take offset) :
    (initial.within upload.scheme limit (sent ++ packets legs)).held = upload.data := by
  induction course generalizing sent with
  | finished complete =>
      rcases holds with ⟨first, nonempty⟩ | held
      · exact absurd (List.length_eq_zero_iff.mp (complete.symm.trans first)) nonempty
      · rw [packets_nil, List.append_nil, held, complete, List.take_length]
  | @next seq offset leg legs starts chunkEq headerEq pos course ih =>
      subst starts
      obtain ⟨legShort, short⟩ := List.forall_mem_cons.mp short
      have built := (nextChunk_eq_ok chunkEq).2
      have held := held_within_chunk representable built course.offset_le legShort
        (holds.imp_left And.left)
      rw [packets_cons, List.append_cons]
      exact ih short (.inr held)

end

/-! ## Attempts -/

theorem UploadEngine.start_eq_windowed {capacity : Nat} (several : 1 < capacity) (upload : Upload)
    (attempt : Nat) (seq : UInt8) (control : Control) :
    UploadEngine.start upload capacity attempt seq control =
      .windowed (Window.fresh upload capacity attempt seq control) := by
  rw [UploadEngine.start, if_pos several, Window.fresh, Nat.max_eq_left (Nat.le_of_lt several)]

theorem UploadEngine.start_eq_single {capacity : Nat} (plain : ¬1 < capacity) (upload : Upload)
    (attempt : Nat) (seq : UInt8) (control : Control) :
    UploadEngine.start upload capacity attempt seq control =
      .single (SingleUpload.fresh upload seq control) := by
  rw [UploadEngine.start, if_neg plain, SingleUpload.fresh]

/-- An attempt that ended with a result. -/
structure UploadEngine.Concluded (upload : Upload) (result : Except Error Unit)
    (engine : UploadEngine) : Prop where
  result_eq : engine.result? = some result
  upload_eq : engine.upload = upload
  active : ∀ failure, result = .error failure → engine.control = { phase := .active }

theorem SingleUpload.Concluded.single {upload : Upload} {result : Except Error Unit}
    {run : Stepwise SingleUpload Exchange} (concluded : SingleUpload.Concluded upload result run) :
    UploadEngine.Concluded upload result (.single run) := by
  obtain ⟨phaseEq, uploadEq, active⟩ := concluded
  exact ⟨by simp only [UploadEngine.result?, phaseEq], uploadEq, active⟩

theorem Window.Concluded.windowed {upload : Upload} {result : Except Error Unit} {window : Window}
    (concluded : Window.Concluded upload result window) :
    UploadEngine.Concluded upload result (.windowed window) := by
  obtain ⟨phaseEq, uploadEq, active⟩ := concluded
  exact ⟨by simp only [UploadEngine.result?, phaseEq], uploadEq, active⟩

theorem Window.feed_foreign {window : Window} {ticket : Ticket}
    (foreign : ticket.attempt ≠ window.attempt) (needEq : machine.need window = .collect)
    (outcome : Except Error Response) :
    machine.feed (.acknowledgement ticket outcome) window = window := by
  rw [machine_feed, feed_collecting (need_eq_collect_iff.mp needEq), acknowledge, if_pos foreign]

namespace UploadJob

section

variable {job : UploadJob} {answer : List Bytes → Except Error Response}

theorem start_eq {upload : Upload} (nonempty : upload.data ≠ []) (window attempt : Nat)
    (seq : UInt8) (control : Control) :
    UploadJob.start upload window attempt seq control =
      { engine := .start upload (max window 1) attempt seq control, capacity := max window 1,
        attempt } := by
  rw [UploadJob.start, if_neg (by simpa using nonempty)]

theorem feed_ready_of_retryMtu? {mtu : Nat} (retryEq : job.retryMtu? = some mtu) :
    machine.feed .ready job = job.retry mtu := by
  simp only [machine, feed, retryEq]

/-- Until its attempt has ended a job is that attempt. -/
theorem same_of_unfinished (unfinished : ∀ result, job.engine.need ≠ .finished result) :
    machine.need job = job.engine.need ∧
      ∀ reply, machine.feed reply job = { job with engine := job.engine.feed reply } := by
  have retryEq : job.retryMtu? = none := by
    cases retryEq : job.retryMtu? with
    | none => rfl
    | some mtu =>
        obtain ⟨required, link, ended⟩ := result?_of_retryMtu? retryEq
        exact absurd (UploadEngine.need_of_result? ended) (unfinished _)
  exact ⟨need_of_retryMtu? retryEq, feed_of_retryMtu? retryEq⟩

/-- What comes of the legs of its course is what an attempt comes to, plain or windowed, whatever an
attempt before it has left behind. -/
theorem comesTo_of_concludes {upload : Upload} {capacity : Nat} {seq : UInt8} {control : Control}
    (engineEq : job.engine = .start upload capacity job.attempt seq control)
    (started : control.start = .ok { phase := .active }) {legs : List Leg}
    (course : upload.Course seq 0 legs) {sent : List Bytes} {told : List Progress}
    {result : Except Error Unit}
    (single : Concludes upload answer (SingleUpload.reading upload) sent legs told result)
    (windowed : Concludes upload answer (Window.reading upload) sent legs told result)
    {late : List Answered} (foreign : ∀ answered ∈ late, answered.ticket.attempt ≠ job.attempt)
    (before : List Progress) (issued : List Ticket) :
    ∃ engine all left issued', UploadEngine.Concluded upload result engine ∧
      (result = .ok () → all = sent ++ packets legs) ∧
      (∀ answered ∈ left, answered ∈ late ∨ answered.ticket.attempt = job.attempt) ∧
      (settled job before sent late issued).ComesTo machine answer
        (settled { job with engine } (before ++ told) all left issued') := by
  obtain ⟨engine, size, attempt, retried⟩ := job
  obtain rfl : engine = .start upload capacity attempt seq control := engineEq
  by_cases several : 1 < capacity
  · rw [UploadEngine.start_eq_windowed several]
    have capacity_pos : 0 < max capacity 1 := by omega
    obtain ⟨window, all, left, issued', concluded, sentAll, mine, comes⟩ :=
      Window.comesTo_of_concludes capacity_pos course windowed course (List.nil_append _) before
    have kept (reply : Reply) (window : Window) (mine : window.attempt = attempt) :
        (Window.machine.feed reply window).attempt = attempt :=
      mine ▸ congrArg (fun fixed => fixed.2.2) (Window.fixed_feed reply window)
    obtain ⟨ignored, among, behind⟩ := ((Window.comesTo_turning started).trans comes).behind
      (fun window => window.attempt = attempt) kept
      (fun window mine needEq answered member =>
        Window.feed_foreign (mine ▸ foreign answered member) needEq _) rfl
    have lifted := behind.within (fun window =>
      ({ engine := .windowed window, capacity := size, attempt, retried } : UploadJob))
      fun window unfinished => same_of_unfinished unfinished
    refine ⟨.windowed window, all, ignored ++ left, issued', concluded.windowed, sentAll, ?_, ?_⟩
    · intro answered member
      exact (List.mem_append.mp member).imp (fun old => among old) (mine answered)
    · simpa [Network.within, Network.behind, settled] using lifted
  · rw [UploadEngine.start_eq_single several]
    obtain ⟨run, all, concluded, sentAll, comes⟩ :=
      SingleUpload.comesTo_of_concludes course single before issued
    obtain ⟨ignored, among, behind⟩ := ((SingleUpload.comesTo_choosing started).trans comes).behind
      (fun _ => True) (fun _ _ _ => trivial)
      (fun run _ needEq => absurd needEq Stepwise.need_ne_collect) trivial
    have lifted := behind.within (fun run =>
      ({ engine := .single run, capacity := size, attempt, retried } : UploadJob))
      fun run unfinished => same_of_unfinished unfinished
    refine ⟨.single run, all, ignored, issued, concluded.single, sentAll,
      fun answered member => .inl (among member), ?_⟩
    simpa [Network.within, Network.behind, settled] using lifted

/-! ## At most one restart -/

/-- An attempt that succeeds, from its beginning to its end, with packets within a limit only. -/
structure Succeeds (answer : List Bytes → Except Error Response) (limit : Nat)
    (beginning ending : Network (Logged UploadJob Progress) (List Bytes)) : Prop where
  begins : ∃ upload capacity seq control, beginning.state.state.engine =
    .start upload capacity beginning.state.state.attempt seq control
  comes : beginning.ComesTo machine answer ending
  same : ending.state.state.attempt = beginning.state.state.attempt
  ends : machine.need ending.state.state = .finished (.ok ())
  short : ∃ packets, ending.device = beginning.device ++ packets ∧
    ∀ packet ∈ packets, packet.length ≤ limit

section

variable {upload : Upload} {limit : Nat} {initial : Storage}

/-- An attempt all of whose packets are within the limit succeeds, and stores the data. -/
theorem succeeds_of_short (link : LimitedLink upload.scheme limit initial answer)
    (representable : upload.Representable) (nonempty : upload.data ≠ []) {capacity : Nat}
    {seq : UInt8} {control : Control}
    (engineEq : job.engine = .start upload capacity job.attempt seq control)
    (started : control.start = .ok { phase := .active }) {legs : List Leg}
    (course : upload.Course seq 0 legs) (short : ∀ leg ∈ legs, leg.chunk.packet.length ≤ limit)
    {late : List Answered} (foreign : ∀ answered ∈ late, answered.ticket.attempt ≠ job.attempt)
    (told : List Progress) (sent : List Bytes) (issued : List Ticket) :
    ∃ ending, Succeeds answer limit (settled job told sent late issued) ending ∧
      (initial.within upload.scheme limit ending.device).held = upload.data := by
  rw [← List.append_nil legs] at course
  have acknowledging : Acknowledging answer sent legs :=
    link.acknowledging representable course short (.inl rfl)
  have single := Concludes.of_acknowledging SingleUpload.reading_of_acknowledged course
    acknowledging .completed
  have windowed := Concludes.of_acknowledging Window.reading_of_acknowledged course acknowledging
    .completed
  rw [List.append_nil] at course single windowed
  obtain ⟨engine, all, left, issued', concluded, sentAll, -, comes⟩ :=
    comesTo_of_concludes engineEq started course single windowed foreign told issued
  obtain rfl := sentAll rfl
  have ended : machine.need { job with engine } = .finished (.ok ()) := by
    have final : ({ job with engine } : UploadJob).retryMtu? = none := by
      simp [retryMtu?, concluded.result_eq, MtuRetry.next?]
    rw [need_of_retryMtu? final]
    exact UploadEngine.need_of_result? concluded.result_eq
  refine ⟨_, ⟨⟨upload, capacity, seq, control, engineEq⟩, comes, rfl, ended, packets legs, rfl, ?_⟩,
    held_within_course representable course short (.inl ⟨rfl, nonempty⟩)⟩
  simpa [packets] using short

/-- The packet length of the second attempt is just below the limit. -/
theorem retryMtu?_of_refused {mtu required : Nat} (fresh : job.retried = false)
    (result_eq : job.engine.result? = some (.error (.insufficientMtu required limit)))
    (mtu_eq : job.engine.upload.mtu = mtu) (long : limit < required) (within : required ≤ mtu) :
    job.retryMtu? = some (min mtu (limit - 1)) := by
  have lowered : MtuRetry.lowered required limit mtu = min mtu (limit - 1) := by
    rw [MtuRetry.lowered]
    omega
  simp [retryMtu?, fresh, result_eq, MtuRetry.next?, mtu_eq, lowered]

/-- An attempt that sends a packet over the limit makes the job start over. -/
theorem comesTo_retry_of_long (link : LimitedLink upload.scheme limit initial answer)
    (representable : upload.Representable) (addressable : upload.Addressable) {capacity : Nat}
    {seq : UInt8} {control : Control}
    (engineEq : job.engine = .start upload capacity job.attempt seq control)
    (started : control.start = .ok { phase := .active }) (fresh : job.retried = false)
    {before after : List Leg} {leg : Leg} (course : upload.Course seq 0 (before ++ leg :: after))
    (short : ∀ leg ∈ before, leg.chunk.packet.length ≤ limit)
    (long : limit < leg.chunk.packet.length) :
    ∃ next seq' told sent late issued,
      (settled job [] [] [] []).ComesTo machine answer (settled next told sent late issued) ∧
      next.attempt = job.attempt + 1 ∧
      next.engine = .start (upload.below limit) job.capacity next.attempt seq'
        { phase := .active } ∧
      ∀ answered ∈ late, answered.ticket.attempt ≠ next.attempt := by
  have acknowledging : Acknowledging answer [] before :=
    link.acknowledging representable course short (.inl rfl)
  have refused := link.refuses (packets before) leg.chunk.packet long
  have single := Concludes.of_acknowledging SingleUpload.reading_of_acknowledged course
    acknowledging (.refused (congrArg (SingleUpload.reading upload leg) refused))
  have windowed := Concludes.of_acknowledging Window.reading_of_acknowledged course acknowledging
    (.refused (congrArg (Window.reading upload leg) refused))
  obtain ⟨engine, all, left, issued, concluded, -, mine, comes⟩ :=
    comesTo_of_concludes engineEq started course single windowed (List.forall_mem_nil _) [] []
  have within : leg.chunk.packet.length ≤ upload.mtu :=
    Nat.le_of_add_right_le (course.length_packet_le addressable (by simp))
  have retryEq : ({ job with engine } : UploadJob).retryMtu? = some (min upload.mtu (limit - 1)) :=
    retryMtu?_of_refused fresh concluded.result_eq (congrArg Upload.mtu concluded.upload_eq) long
      within
  refine ⟨_, engine.seq, _, _, _, _,
    comes.trans (comesTo_of_step (of_retryMtu?_eq_some retryEq).1), ?_⟩
  rw [feed_ready_of_retryMtu? retryEq]
  refine ⟨rfl, ?_, fun answered member => ?_⟩
  · rw [retry, concluded.upload_eq, concluded.active _ rfl]
    rfl
  · have old : answered.ticket.attempt = job.attempt :=
      (mine answered member).resolve_left List.not_mem_nil
    rw [old]
    exact Nat.ne_of_lt (Nat.lt_succ_self _)

/-- An upload of data for which there is room below the limit succeeds at its first attempt or at its
second, and then its device holds the data. -/
theorem succeeds_within_limit (upload : Upload) (representable : upload.Representable)
    (nonempty : upload.data ≠ []) (limit : Nat) {first : UInt8}
    (fits : ∃ length, (upload.below limit).chunkLength first 0 = .ok length) {control : Control}
    (started : control.start = .ok { phase := .active }) {initial : Storage}
    {answer : List Bytes → Except Error Response}
    (link : LimitedLink upload.scheme limit initial answer) (window attempt : Nat) (seq : UInt8) :
    ∃ beginning ending, (settled (.start upload window attempt seq control) [] [] [] []).ComesTo
        machine answer beginning ∧
      beginning.state.state.attempt ≤ attempt + 1 ∧ Succeeds answer limit beginning ending ∧
        (initial.within upload.scheme limit ending.device).held = upload.data := by
  have addressable : upload.Addressable :=
    ⟨Nat.lt_trans representable.data_lt (by decide), representable.destination⟩
  have data_pos : 0 < upload.data.length := List.length_pos_iff.mpr nonempty
  obtain ⟨legs, course⟩ := exists_course addressable nonempty
    (exists_chunkLength_of_mtu_le addressable nonempty (Nat.min_le_left _ _) fits seq data_pos) seq
    (Nat.zero_le _)
  obtain ⟨job, startEq, engineEq, rfl, fresh⟩ : ∃ job,
      UploadJob.start upload window attempt seq control = job ∧
        job.engine = .start upload (max window 1) job.attempt seq control ∧
          job.attempt = attempt ∧ job.retried = false :=
    ⟨_, start_eq nonempty window attempt seq control, rfl, rfl, rfl⟩
  rw [startEq]
  cases found : legs.find? fun leg => limit < leg.chunk.packet.length with
  | none =>
      have short : ∀ leg ∈ legs, leg.chunk.packet.length ≤ limit := by
        simpa using found
      obtain ⟨ending, succeeds, held⟩ := succeeds_of_short link representable nonempty engineEq
        started course short (List.forall_mem_nil _) [] [] []
      exact ⟨_, ending, .refl, Nat.le_succ _, succeeds, held⟩
  | some leg =>
      obtain ⟨long, before, after, rfl, short⟩ := List.find?_eq_some_iff_append.mp found
      obtain ⟨next, seq', told, sent, late, issued, restarts, attemptEq, engineEq, foreign⟩ :=
        comesTo_retry_of_long link representable addressable engineEq started fresh course
          (by simpa using short) (by simpa using long)
      -- The second attempt asks for packets that are all within the limit.
      have representable' : (upload.below limit).Representable :=
        ⟨representable.data_lt, representable.destination⟩
      have addressable' : (upload.below limit).Addressable :=
        ⟨addressable.data_lt, addressable.destination⟩
      have link' : LimitedLink (upload.below limit).scheme limit initial answer := link
      obtain ⟨legs, course⟩ := exists_course addressable' nonempty fits seq' (Nat.zero_le _)
      have short : ∀ leg ∈ legs, leg.chunk.packet.length ≤ limit := by
        intro leg member
        have within := course.length_packet_le addressable' member
        simp only [Upload.below] at within
        omega
      obtain ⟨ending, succeeds, held⟩ := succeeds_of_short link' representable' nonempty engineEq rfl
        course short foreign told sent issued
      exact ⟨_, ending, restarts, Nat.le_of_eq attemptEq, succeeds, held⟩

end

end

/-! ## A link with a limit -/

/-- What comes back over a link with a limit from a device that stores chunks. -/
def limitedAnswer (scheme : Scheme) (limit : Nat) (initial : Storage) (sent : List Bytes) :
    Except Error Response :=
  let packet := sent.getLastD []
  if limit < packet.length then .error (.insufficientMtu packet.length limit)
  else do
    let header ← Packet.header scheme packet
    let held := (initial.within scheme limit sent).held.length
    let bytes ← Packet.build scheme header.op.response 0 header.group header.seq header.id
      (.record [("rc", .nat 0), ("off", .nat held)])
    return { scheme, bytes, header := some { header with op := header.op.response }, rc := 0,
             groupCode := none, offset := some held }

theorem limitedLink_limitedAnswer (scheme : Scheme) (limit : Nat) (initial : Storage) :
    LimitedLink scheme limit initial (limitedAnswer scheme limit initial) := by
  constructor
  · intro sent packet long
    simp [limitedAnswer, long]
  · intro sent packet request header short _ headerEq
    obtain ⟨bytes, built⟩ := Packet.exists_build scheme header.op.response 0 header.group
      header.seq header.id
      [("rc", .nat 0), ("off", .nat (initial.within scheme limit (sent ++ [packet])).held.length)]
    have last : (sent ++ [packet]).getLastD [] = packet := by simp
    simp only [limitedAnswer, last, if_neg (Nat.not_lt.mpr short), headerEq, built, bind, Except.bind]
    refine ⟨_, rfl, ?_, rfl, rfl⟩
    rintro given ⟨⟩
    simp [Header.isAnsweredBy]

/-- Three bytes fit into one packet of 66 bytes, which the link refuses. -/
theorem succeeds_within_limit_threeBytes :
    let upload := { threeBytes with mtu := 66 }
    let answer := limitedAnswer upload.scheme 65 { held := [9] }
    (upload.Representable ∧ upload.data ≠ [] ∧
      (∃ length, (upload.below 65).chunkLength 0 0 = .ok length) ∧
      Control.start {} = .ok { phase := .active } ∧ LimitedLink upload.scheme 65 { held := [9] } answer) ∧
    ∃ beginning ending, (settled (.start upload 2 0 0 {}) [] [] [] []).ComesTo machine answer
        beginning ∧
      beginning.state.state.attempt ≤ 1 ∧ Succeeds answer 65 beginning ending ∧
        (Storage.within upload.scheme 65 { held := [9] } ending.device).held = [1, 2, 3] := by
  intro upload answer
  have representable : upload.Representable := ⟨by decide, by decide⟩
  have nonempty : upload.data ≠ [] := by decide
  have fits : ∃ length, (upload.below 65).chunkLength 0 0 = .ok length := by
    have sized : ((upload.below 65).chunkLength 0 0).toOption = some 1 := by decide +kernel
    cases lengthEq : (upload.below 65).chunkLength 0 0 with
    | error failure =>
        rw [lengthEq] at sized
        cases sized
    | ok length => exact ⟨length, rfl⟩
  have link : LimitedLink upload.scheme 65 { held := [9] } answer := limitedLink_limitedAnswer _ _ _
  exact ⟨⟨representable, nonempty, fits, rfl, link⟩,
    succeeds_within_limit upload representable nonempty 65 fits rfl link 2 0 0⟩

end UploadJob

end SmpClient
