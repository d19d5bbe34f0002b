import SmpClient.Proofs.Transfer.WindowSteps

/-!
# Windowed uploads over links that keep the order

On a link that keeps the order of requests and acknowledgements, requests of older generations
are all ahead of those of the current one.  So a device that has reported everything stored sees no
first chunk any more, whatever it held at first, and however much of each chunk it takes.
-/

namespace SmpClient

namespace Window

open Storage

/-- A request of the current generation. -/
def Live (reckoning : Reckoning) (ticket : Ticket) : Prop :=
  ticket.attempt = reckoning.attempt ∧ ticket.generation = reckoning.generation

/-- The requests that are out, in order: those of the current generation come last, and none goes
back. -/
structure Queue (reckoning : Reckoning) (tickets : List Ticket) : Prop where
  attempt_le : ∀ ticket ∈ tickets, ticket.attempt ≤ reckoning.attempt
  generation_le : ∀ ticket ∈ tickets, ticket.attempt = reckoning.attempt →
    ticket.generation ≤ reckoning.generation
  length_pos : ∀ ticket ∈ tickets, 0 < ticket.length
  ordered : tickets.Pairwise fun earlier later =>
    Live reckoning earlier →
      Live reckoning later ∧ earlier.offset + earlier.length ≤ later.offset
  live_le : ∀ ticket ∈ tickets, Live reckoning ticket →
    ticket.offset + ticket.length ≤ reckoning.next

namespace Queue

variable {reckoning : Reckoning} {ticket : Ticket} {tickets : List Ticket}

theorem tail (queue : Queue reckoning (ticket :: tickets)) : Queue reckoning tickets where
  attempt_le := (List.forall_mem_cons.mp queue.attempt_le).2
  generation_le := (List.forall_mem_cons.mp queue.generation_le).2
  length_pos := (List.forall_mem_cons.mp queue.length_pos).2
  ordered := (List.pairwise_cons.mp queue.ordered).2
  live_le := (List.forall_mem_cons.mp queue.live_le).2

/-- What follows a request of the current generation is not a first chunk. -/
theorem offset_ne_zero {first last : List Ticket} (queue : Queue reckoning (first ++ last))
    {earlier later : Ticket} (earlierMember : earlier ∈ first) (live : Live reckoning earlier)
    (laterMember : later ∈ last) : later.offset ≠ 0 := by
  have length_pos := queue.length_pos earlier (List.mem_append_left _ earlierMember)
  obtain ⟨-, follows⟩ :=
    (List.pairwise_append.mp queue.ordered).2.2 earlier earlierMember later laterMember live
  omega

/-- Where requests of older generations and attempts are does not matter. -/
theorem of_not_live (length_pos : ∀ ticket ∈ tickets, 0 < ticket.length)
    (attempt_le : ∀ ticket ∈ tickets, ticket.attempt ≤ reckoning.attempt)
    (generation_le : ∀ ticket ∈ tickets, ticket.attempt = reckoning.attempt →
      ticket.generation ≤ reckoning.generation)
    (dead : ∀ ticket ∈ tickets, ¬ Live reckoning ticket) : Queue reckoning tickets where
  attempt_le := attempt_le
  generation_le := generation_le
  length_pos := length_pos
  ordered := by
    rw [List.pairwise_iff_forall_sublist]
    intro earlier later sublist live
    exact absurd live (dead earlier (sublist.subset (by simp)))
  live_le ticket member live := absurd live (dead ticket member)

theorem not_live_restart (queue : Queue reckoning tickets) (offset : Nat) :
    ∀ ticket ∈ tickets, ¬ Live (reckoning.restart offset) ticket := by
  rintro ticket member ⟨attemptEq, generationEq⟩
  have generation_le := queue.generation_le ticket member attemptEq
  rw [generationEq] at generation_le
  exact Nat.not_succ_le_self _ generation_le

theorem restart (queue : Queue reckoning tickets) (offset : Nat) :
    Queue (reckoning.restart offset) tickets :=
  of_not_live queue.length_pos queue.attempt_le
    (fun ticket member attemptEq =>
      Nat.le_succ_of_le (queue.generation_le ticket member attemptEq))
    (queue.not_live_restart offset)

theorem free (queue : Queue reckoning tickets) : Queue reckoning.free tickets :=
  ⟨queue.attempt_le, queue.generation_le, queue.length_pos, queue.ordered, queue.live_le⟩

theorem moveTo (queue : Queue reckoning tickets) (offset : Nat) :
    Queue (reckoning.moveTo offset) tickets :=
  ⟨queue.attempt_le, queue.generation_le, queue.length_pos, queue.ordered, queue.live_le⟩

theorem post (queue : Queue reckoning tickets) {packet : Bytes}
    (issues : reckoning.Issues packet ticket) :
    Queue (reckoning.post ticket) (tickets ++ [ticket]) where
  attempt_le := by
    simpa [or_imp, forall_and] using ⟨queue.attempt_le, Nat.le_of_eq issues.attempt_eq⟩
  generation_le := by
    simpa [or_imp, forall_and] using
      ⟨queue.generation_le, fun _ => Nat.le_of_eq issues.generation_eq⟩
  length_pos := by
    simpa [or_imp, forall_and] using ⟨queue.length_pos, issues.length_pos⟩
  ordered := by
    rw [List.pairwise_append]
    refine ⟨queue.ordered, List.pairwise_singleton _ _, ?_⟩
    intro earlier member last lastMember live
    rw [List.mem_singleton.mp lastMember]
    refine ⟨⟨issues.attempt_eq, issues.generation_eq⟩, ?_⟩
    rw [issues.offset_eq]
    exact queue.live_le earlier member live
  live_le := by
    intro other member live
    change _ ≤ reckoning.next + ticket.length
    rcases List.mem_append.mp member with earlier | last
    · exact Nat.le_add_right_of_le (queue.live_le other earlier live)
    · rw [List.mem_singleton.mp last, issues.offset_eq]

end Queue

/-! ## What the upload may know of the device -/

section

variable (data : Bytes) (reckoning : Reckoning) (device : Storage)
  (posted : List Network.Posted) (answered : List Network.Answered)

/-- The device has come to a first chunk: it holds a prefix of the data, and all of it if an
acknowledgement that counts says so. -/
structure Started : Prop where
  held : device.held <+: data
  honest : ∀ answer ∈ answered, Live reckoning answer.ticket →
    ∀ response, answer.outcome = .ok response →
      ∃ held, acknowledges held answer.outcome ∧ (held = data.length → device.held = data)

/-- No acknowledgement counts yet, and the first one that will is that of a first chunk. -/
structure Awaiting : Prop where
  acked : reckoning.acked = 0
  noAnswer : ∀ answer ∈ answered, ¬ Live reckoning answer.ticket
  first : (∃ request ∈ posted, Live reckoning request.ticket ∧ request.ticket.offset = 0) ∨
    (∀ request ∈ posted, ¬ Live reckoning request.ticket) ∧ reckoning.next = 0

/-- The first acknowledgement that counts is a failure. -/
structure Failing : Prop where
  acked : reckoning.acked = 0
  failed : ∃ dead failure rest, answered = dead ++ failure :: rest ∧
    (∀ answer ∈ dead, ¬ Live reckoning answer.ticket) ∧ Live reckoning failure.ticket ∧
    ∃ error, failure.outcome = .error error

/-- Any of these. -/
inductive Standing : Prop
  | started (started : Started data reckoning device answered)
  | awaiting (awaiting : Awaiting reckoning posted answered)
  | failing (failing : Failing reckoning answered)

end

section

variable {data : Bytes} {reckoning : Reckoning} {device : Storage}
  {posted : List Network.Posted} {answered : List Network.Answered}

/-- A standing only depends on which requests count, on what was acknowledged and, before the
device has started, on what comes next. -/
theorem Standing.restart (standing : Standing data reckoning device posted answered)
    (queue : Queue reckoning (answered.map (·.ticket) ++ posted.map (·.ticket))) :
    Standing data (reckoning.restart reckoning.acked) device posted answered := by
  have dead := queue.not_live_restart reckoning.acked
  have noAnswer : ∀ answer ∈ answered,
      ¬ Live (reckoning.restart reckoning.acked) answer.ticket := fun answer member =>
    dead _ (List.mem_append_left _ (List.mem_map_of_mem member))
  have noRequest : ∀ request ∈ posted,
      ¬ Live (reckoning.restart reckoning.acked) request.ticket := fun request member =>
    dead _ (List.mem_append_right _ (List.mem_map_of_mem member))
  cases standing with
  | started started =>
      exact .started ⟨started.held, fun answer member live => absurd live (noAnswer answer member)⟩
  | awaiting awaiting => exact .awaiting ⟨awaiting.acked, noAnswer, .inr ⟨noRequest, awaiting.acked⟩⟩
  | failing failing => exact .awaiting ⟨failing.acked, noAnswer, .inr ⟨noRequest, failing.acked⟩⟩

theorem Standing.post (standing : Standing data reckoning device posted answered)
    {packet : Bytes} {ticket : Ticket} (issues : reckoning.Issues packet ticket) :
    Standing data (reckoning.post ticket) device (posted ++ [⟨packet, ticket⟩]) answered := by
  have live : Live (reckoning.post ticket) ticket := ⟨issues.attempt_eq, issues.generation_eq⟩
  cases standing with
  | started started => exact .started ⟨started.held, started.honest⟩
  | awaiting awaiting =>
      refine .awaiting ⟨awaiting.acked, awaiting.noAnswer, .inl ?_⟩
      rcases awaiting.first with ⟨request, member, found⟩ | ⟨-, nextEq⟩
      · exact ⟨request, List.mem_append_left _ member, found⟩
      · exact ⟨_, List.mem_append_right _ (List.mem_singleton_self _), live,
          issues.offset_eq.trans nextEq⟩
  | failing failing => exact .failing ⟨failing.acked, failing.failed⟩

theorem Failing.concat (failing : Failing reckoning answered) (answer : Network.Answered) :
    Failing reckoning (answered ++ [answer]) := by
  obtain ⟨dead, failure, rest, rfl, deadAll, live, failed⟩ := failing.failed
  exact ⟨failing.acked, dead, failure, rest ++ [answer], by simp, deadAll, live, failed⟩

/-- A request that does not count leaves the upload waiting. -/
theorem Awaiting.passOver {request : Network.Posted}
    (awaiting : Awaiting reckoning (request :: posted) answered)
    (dead : ¬ Live reckoning request.ticket) (outcome : Except Error Response) :
    Awaiting reckoning posted (answered ++ [{ ticket := request.ticket, outcome }]) := by
  refine ⟨awaiting.acked, ?_, ?_⟩
  · intro answer member
    rcases List.mem_append.mp member with earlier | last
    · exact awaiting.noAnswer answer earlier
    · rw [List.mem_singleton.mp last]
      exact dead
  · rcases awaiting.first with ⟨first, member, live, offsetEq⟩ | ⟨noRequest, nextEq⟩
    · rcases List.mem_cons.mp member with rfl | later
      · exact absurd live dead
      · exact .inl ⟨first, later, live, offsetEq⟩
    · exact .inr ⟨(List.forall_mem_cons.mp noRequest).2, nextEq⟩

/-- The request that an upload waits for, once it is the next one, is a first chunk. -/
theorem Awaiting.offset_eq_zero {request : Network.Posted}
    (awaiting : Awaiting reckoning (request :: posted) answered)
    (queue : Queue reckoning (answered.map (·.ticket) ++ (request :: posted).map (·.ticket)))
    (live : Live reckoning request.ticket) : request.ticket.offset = 0 := by
  rcases awaiting.first with ⟨first, member, -, offsetEq⟩ | ⟨noRequest, -⟩
  · rcases List.mem_cons.mp member with rfl | later
    · exact offsetEq
    · rw [List.map_cons, List.append_cons] at queue
      refine absurd offsetEq (queue.offset_ne_zero ?_ live (List.mem_map_of_mem later))
      exact List.mem_append_right _ (List.mem_singleton_self _)
  · exact absurd live (noRequest request List.mem_cons_self)

/-- The device processes the request that is next. -/
theorem Standing.process {upload : Upload} {request : Network.Posted}
    (standing : Standing upload.data reckoning device (request :: posted) answered)
    (queue : Queue reckoning (answered.map (·.ticket) ++ (request :: posted).map (·.ticket)))
    (carries : Carries upload request.packet request.ticket.offset request.ticket.length)
    {treatment : Treatment} {outcome : Except Error Response} {after : Storage}
    (conducted : storing upload.scheme treatment request.packet device = some (outcome, after)) :
    Standing upload.data reckoning after posted
      (answered ++ [{ ticket := request.ticket, outcome }]) := by
  rcases storing_of_carries carries conducted with
    ⟨⟨failure, rfl⟩, rfl⟩ | ⟨limit, afterEq, honest⟩
  · cases standing with
    | started started =>
        refine .started ⟨started.held, ?_⟩
        intro answer member live response outcomeEq
        rcases List.mem_append.mp member with earlier | last
        · exact started.honest answer earlier live response outcomeEq
        · rw [List.mem_singleton.mp last] at outcomeEq
          cases outcomeEq
    | awaiting awaiting =>
        by_cases live : Live reckoning request.ticket
        · exact .failing ⟨awaiting.acked, answered, _, [], rfl, awaiting.noAnswer, live,
            failure, rfl⟩
        · exact .awaiting (awaiting.passOver live _)
    | failing failing => exact .failing (failing.concat _)
  · have started_of_held (held : after.held <+: upload.data)
        (earlierHonest : ∀ answer ∈ answered, Live reckoning answer.ticket →
          ∀ response, answer.outcome = .ok response →
            ∃ number, acknowledges number answer.outcome ∧
              (number = upload.data.length → after.held = upload.data)) :
        Standing upload.data reckoning after posted
          (answered ++ [{ ticket := request.ticket, outcome }]) := by
      refine .started ⟨held, ?_⟩
      intro answer member live response outcomeEq
      rcases List.mem_append.mp member with earlier | last
      · exact earlierHonest answer earlier live response outcomeEq
      · rw [List.mem_singleton.mp last]
        exact ⟨_, honest, held.eq_of_length⟩
    cases standing with
    | started started =>
        refine started_of_held (afterEq ▸ store_isPrefix_data (.inl started.held)) ?_
        intro answer member live response outcomeEq
        obtain ⟨number, acknowledged, full⟩ := started.honest answer member live response outcomeEq
        have later : request.ticket.offset ≠ 0 :=
          queue.offset_ne_zero (List.mem_map_of_mem member) live
            (List.mem_map_of_mem List.mem_cons_self)
        exact ⟨number, acknowledged, fun numberEq =>
          afterEq ▸ store_eq_of_full (full numberEq) later⟩
    | awaiting awaiting =>
        -- Any first chunk makes the device start, also one of an older generation.
        by_cases first : request.ticket.offset = 0
        · refine started_of_held (afterEq ▸ store_isPrefix_data (.inr first)) ?_
          exact fun answer member live => absurd live (awaiting.noAnswer answer member)
        · exact .awaiting (awaiting.passOver
            (fun live => first (awaiting.offset_eq_zero queue live)) _)
    | failing failing => exact .failing (failing.concat _)

theorem Standing.free (standing : Standing data reckoning device posted answered) :
    Standing data reckoning.free device posted answered := by
  cases standing with
  | started started => exact .started ⟨started.held, started.honest⟩
  | awaiting awaiting => exact .awaiting ⟨awaiting.acked, awaiting.noAnswer, awaiting.first⟩
  | failing failing => exact .failing ⟨failing.acked, failing.failed⟩

/-- An acknowledgement that counts and does not fail comes from a device that has started. -/
theorem Standing.started_of_live {answer : Network.Answered}
    (standing : Standing data reckoning device posted (answer :: answered))
    (live : Live reckoning answer.ticket) {response : Response}
    (outcomeEq : answer.outcome = .ok response) :
    Started data reckoning device (answer :: answered) := by
  cases standing with
  | started started => exact started
  | awaiting awaiting => exact absurd live (awaiting.noAnswer answer List.mem_cons_self)
  | failing failing =>
      obtain ⟨passed, failure, rest, answeredEq, passedDead, -, error, failed⟩ := failing.failed
      cases passed with
      | nil =>
          obtain ⟨rfl, -⟩ := List.cons.inj answeredEq
          rw [outcomeEq] at failed
          cases failed
      | cons first passed =>
          obtain ⟨rfl, -⟩ := List.cons.inj answeredEq
          exact absurd live (passedDead answer List.mem_cons_self)

/-- An acknowledgement that does not count is passed over. -/
theorem Standing.passOver {answer : Network.Answered}
    (standing : Standing data reckoning device posted (answer :: answered))
    (dead : ¬ Live reckoning answer.ticket) : Standing data reckoning device posted answered := by
  cases standing with
  | started started =>
      exact .started ⟨started.held, (List.forall_mem_cons.mp started.honest).2⟩
  | awaiting awaiting =>
      exact .awaiting ⟨awaiting.acked, (List.forall_mem_cons.mp awaiting.noAnswer).2,
        awaiting.first⟩
  | failing failing =>
      obtain ⟨passed, failure, rest, answeredEq, passedDead, live, failed⟩ := failing.failed
      cases passed with
      | nil =>
          obtain ⟨rfl, rfl⟩ := List.cons.inj answeredEq
          exact absurd live dead
      | cons first passed =>
          obtain ⟨rfl, rfl⟩ := List.cons.inj answeredEq
          exact .failing ⟨failing.acked, passed, failure, rest, rfl,
            (List.forall_mem_cons.mp passedDead).2, live, failed⟩

end

/-! ## The whole network -/

/-- A windowed upload and what its link and the device have of it.  Only the upload's own state is
taken from elsewhere, so that this can be a part of a larger machine. -/
structure Tracked {σ : Type} (upload : Upload) (window : Window) (network : Network σ Storage) :
    Prop where
  upload_eq : ∃ mtu, window.upload = { upload with mtu }
  sound : window.Sound
  carries : ∀ request ∈ network.posted,
    Carries upload request.packet request.ticket.offset request.ticket.length
  queue : Queue window.reckoning
    (network.answered.map (·.ticket) ++ network.posted.map (·.ticket))
  standing : (∃ failure, window.phase = .ended (.error failure)) ∨
    Standing upload.data window.reckoning network.device network.posted network.answered
  finished : window.acked = upload.data.length →
    network.device.held = upload.data ∧
      ∀ request ∈ network.posted, request.ticket.offset ≠ 0

section

variable {σ : Type} {upload : Upload} {window : Window} {before : Network σ Storage}

theorem Tracked.total_eq {network : Network σ Storage} (tracked : Tracked upload window network) :
    window.reckoning.total = upload.data.length := by
  obtain ⟨mtu, uploadEq⟩ := tracked.upload_eq
  rw [Reckoning.total, reckoning, uploadEq]

/-- A new attempt starts with all requests of older attempts behind it. -/
theorem tracked_of_older (nonempty : upload.data ≠ [])
    (upload_eq : ∃ mtu, window.upload = { upload with mtu }) (sound : window.Sound)
    (next_eq : window.next = 0) (acked_eq : window.acked = 0)
    (carries : ∀ request ∈ before.posted,
      Carries upload request.packet request.ticket.offset request.ticket.length)
    (length_pos : ∀ ticket ∈ before.answered.map (·.ticket) ++ before.posted.map (·.ticket),
      0 < ticket.length)
    (older : ∀ ticket ∈ before.answered.map (·.ticket) ++ before.posted.map (·.ticket),
      ticket.attempt < window.attempt) : Tracked upload window before := by
  have dead : ∀ ticket ∈ before.answered.map (·.ticket) ++ before.posted.map (·.ticket),
      ¬ Live window.reckoning ticket :=
    fun ticket member live => Nat.ne_of_lt (older ticket member) live.1
  refine ⟨upload_eq, sound, carries, ?_, .inr (.awaiting ⟨acked_eq, ?_, .inr ⟨?_, next_eq⟩⟩), ?_⟩
  · exact .of_not_live length_pos (fun ticket member => Nat.le_of_lt (older ticket member))
      (fun ticket member same => absurd same (Nat.ne_of_lt (older ticket member))) dead
  · exact fun answer member => dead _ (List.mem_append_left _ (List.mem_map_of_mem member))
  · exact fun request member => dead _ (List.mem_append_right _ (List.mem_map_of_mem member))
  · rw [acked_eq]
    exact fun complete => absurd complete.symm (List.length_pos_iff.mpr nonempty).ne'

theorem Tracked.feed_own (tracked : Tracked upload window before) {reply : Reply}
    (own : Network.OwnReply (machine.need window) reply) (state : σ) :
    Tracked upload (window.feed reply) { before with state } := by
  rcases tracked.standing with ⟨failure, ended⟩ | standing
  · rw [feed_ended ended]
    exact ⟨tracked.upload_eq, tracked.sound, tracked.carries, tracked.queue, tracked.standing,
      tracked.finished⟩
  · have sound := tracked.sound.feed reply
    have fixedEq := fixed_feed reply window
    have reckoning := reckoning_feed_own own
    generalize window.feed reply = fed at sound fixedEq reckoning ⊢
    have uploadEq : fed.upload = window.upload := congrArg Prod.fst fixedEq
    refine ⟨uploadEq ▸ tracked.upload_eq, sound, tracked.carries, ?_, ?_, ?_⟩
    · rcases reckoning with same | restarted
      · rw [same]
        exact tracked.queue
      · rw [restarted]
        exact tracked.queue.restart window.acked
    · right
      rcases reckoning with same | restarted
      · rw [same]
        exact standing
      · rw [restarted]
        exact standing.restart tracked.queue
    · have ackedEq : fed.acked = window.acked :=
        reckoning.elim (congrArg Reckoning.acked) (congrArg Reckoning.acked)
      rw [ackedEq]
      exact tracked.finished

theorem Tracked.post (representable : upload.Representable)
    (tracked : Tracked upload window before) {packet : Bytes} {ticket : Ticket}
    (phaseEq : window.phase = .posting packet ticket) (state : σ) (issued : List Ticket) :
    Tracked upload (window.posted ticket)
      { before with state, posted := before.posted ++ [⟨packet, ticket⟩], issued } := by
  have promised := tracked.sound.promised
  rw [phaseEq] at promised
  obtain ⟨short, -, issues⟩ := promised
  have sound := tracked.sound.feed .ready
  rw [feed_posting phaseEq] at sound
  refine ⟨tracked.upload_eq, sound, ?_, ?_, ?_, ?_⟩
  · intro request member
    rcases List.mem_append.mp member with earlier | last
    · exact tracked.carries request earlier
    · rw [List.mem_singleton.mp last]
      exact issues.carries representable tracked.upload_eq
  · rw [reckoning_posted]
    simpa using tracked.queue.post issues
  · rcases tracked.standing with ⟨failure, ended⟩ | standing
    · rw [phaseEq] at ended
      cases ended
    · exact .inr (standing.post issues)
  · intro ackedEq
    rw [tracked.total_eq] at short
    exact absurd ackedEq (Nat.ne_of_lt short)

theorem Tracked.process {request : Network.Posted} {rest : List Network.Posted}
    (tracked : Tracked upload window before) (postedEq : before.posted = request :: rest)
    {treatment : Treatment} {outcome : Except Error Response} {device : Storage}
    (conducted : storing upload.scheme treatment request.packet before.device =
      some (outcome, device)) :
    Tracked upload window
      { before with
        device
        posted := rest
        answered := before.answered ++ [{ ticket := request.ticket, outcome }] } := by
  obtain ⟨upload_eq, sound, carries, queue, standing, finished⟩ := tracked
  rw [postedEq] at carries queue standing finished
  obtain ⟨carriesFirst, carriesRest⟩ := List.forall_mem_cons.mp carries
  refine ⟨upload_eq, sound, carriesRest, ?_, ?_, ?_⟩
  · rw [List.map_cons, List.append_cons] at queue
    simpa using queue
  · exact standing.imp id fun standing => standing.process queue carriesFirst conducted
  · intro ackedEq
    obtain ⟨full, noFirst⟩ := finished ackedEq
    obtain ⟨later, noFirstRest⟩ := List.forall_mem_cons.mp noFirst
    refine ⟨?_, noFirstRest⟩
    rcases storing_of_carries carriesFirst conducted with ⟨-, rfl⟩ | ⟨limit, rfl, -⟩
    · exact full
    · exact store_eq_of_full full later

theorem Tracked.standing_of_collecting {network : Network σ Storage}
    (tracked : Tracked upload window network) (phaseEq : window.phase = .collecting) :
    Standing upload.data window.reckoning network.device network.posted network.answered := by
  refine tracked.standing.resolve_left ?_
  rintro ⟨failure, ended⟩
  rw [phaseEq] at ended
  cases ended

/-- The upload moves to the offset that the device reports in an acknowledgement that counts: from
then on the device has started, and if it has everything no first chunk is on its way to it. -/
theorem Tracked.reported {answer : Network.Answered} {rest : List Network.Answered}
    (tracked : Tracked upload window before) (answeredEq : before.answered = answer :: rest)
    (phaseEq : window.phase = .collecting) (live : Live window.reckoning answer.ticket)
    {response : Response} (outcomeEq : answer.outcome = .ok response) {offset : Nat}
    (acknowledged : window.upload.acknowledged response = .ok offset) {settled : Window}
    (upload_eq : ∃ mtu, settled.upload = { upload with mtu }) (sound : settled.Sound)
    (moved : settled.reckoning = window.reckoning.free.moveTo offset ∨
      settled.reckoning = (window.reckoning.free.restart offset).moveTo offset) (state : σ) :
    Tracked upload settled { before with state, answered := rest } := by
  have standing := tracked.standing_of_collecting phaseEq
  have queue := tracked.queue
  rw [answeredEq] at standing queue
  have started := standing.started_of_live live outcomeEq
  obtain ⟨number, honest, full⟩ := started.honest answer List.mem_cons_self live response outcomeEq
  rw [outcomeEq] at honest
  have offsetEq := offset_eq_of_acknowledges honest acknowledged
  have restHonest := (List.forall_mem_cons.mp started.honest).2
  have ackedEq : settled.acked = offset :=
    moved.elim (congrArg Reckoning.acked) (congrArg Reckoning.acked)
  refine ⟨upload_eq, sound, tracked.carries, ?_, .inr (.started ?_), ?_⟩
  · rcases moved with reached | resynced
    · rw [reached]
      exact queue.tail.free.moveTo offset
    · rw [resynced]
      exact (queue.tail.free.restart offset).moveTo offset
  · rcases moved with reached | resynced
    · rw [reached]
      exact ⟨started.held, restHonest⟩
    · rw [resynced]
      refine ⟨started.held, fun other member otherLive => ?_⟩
      exact absurd otherLive (queue.tail.free.not_live_restart offset other.ticket
        (List.mem_append_left _ (List.mem_map_of_mem member)))
  · rw [ackedEq]
    intro total
    refine ⟨full (offsetEq.symm.trans total), fun request member => ?_⟩
    exact queue.offset_ne_zero List.mem_cons_self live (List.mem_map_of_mem member)

theorem Tracked.collect {answer : Network.Answered} {rest : List Network.Answered}
    (tracked : Tracked upload window before) (answeredEq : before.answered = answer :: rest)
    (phaseEq : window.phase = .collecting) (state : σ) :
    Tracked upload (window.acknowledge answer.ticket answer.outcome)
      { before with state, answered := rest } := by
  have fixedEq := fixed_feed (.acknowledgement answer.ticket answer.outcome) window
  rw [feed_collecting phaseEq] at fixedEq
  have uploadEq : (window.acknowledge answer.ticket answer.outcome).upload = window.upload :=
    congrArg Prod.fst fixedEq
  have upload_eq := tracked.upload_eq
  rw [← uploadEq] at upload_eq
  have sound := tracked.sound.acknowledge answer.outcome answer.ticket
  have standing := tracked.standing_of_collecting phaseEq
  have queue := tracked.queue
  rw [answeredEq] at standing queue
  by_cases own : answer.ticket.attempt = window.attempt
  · by_cases current : answer.ticket.generation = window.generation
    · rcases acknowledge_current answer.outcome own current with
        ⟨failed, freed⟩ | ⟨offset, reported, -, moved⟩
      · refine ⟨upload_eq, sound, tracked.carries, ?_, .inl failed, ?_⟩
        · rw [freed]
          exact queue.tail.free
        · have ackedEq : (window.acknowledge answer.ticket answer.outcome).acked = window.acked :=
            congrArg Reckoning.acked freed
          rw [ackedEq]
          exact tracked.finished
      · obtain ⟨response, outcomeEq, acknowledged⟩ := reported_eq_ok reported
        exact tracked.reported answeredEq phaseEq ⟨own, current⟩ outcomeEq acknowledged upload_eq
          sound (moved.imp And.right id) state
    · rw [acknowledge_old answer.outcome own current] at sound upload_eq ⊢
      have dead : ¬ Live window.reckoning answer.ticket := fun live => current live.2
      exact ⟨upload_eq, sound, tracked.carries, queue.tail.free,
        .inr (standing.passOver dead).free, tracked.finished⟩
  · rw [acknowledge_foreign answer.outcome own] at sound upload_eq ⊢
    have dead : ¬ Live window.reckoning answer.ticket := fun live => own live.1
    exact ⟨upload_eq, sound, tracked.carries, queue.tail, .inr (standing.passOver dead),
      tracked.finished⟩

end

end Window

end SmpClient
