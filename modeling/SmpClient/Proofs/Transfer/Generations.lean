import SmpClient.Proofs.Transfer.WindowSteps

/-!
# Generations of a windowed upload

Each generation of a windowed upload starts at one offset and sends its chunks from there without
gaps.  This file follows an upload over a network on which the device may answer anything, in any
order, at any time, while its owner pauses and resumes it: the requests in flight are exactly
those whose acknowledgements are still to come, and the upload never waits without one.
-/

namespace SmpClient

namespace Window

/-- Chunks that follow one another from `start` to `stop`. -/
def Contiguous : (start : Nat) → List Ticket → (stop : Nat) → Prop
  | start, [], stop => start = stop
  | start, ticket :: tickets, stop =>
      ticket.offset = start ∧ Contiguous (start + ticket.length) tickets stop

theorem Contiguous.concat {start stop : Nat} {tickets : List Ticket}
    (contiguous : Contiguous start tickets stop) {ticket : Ticket} (follows : ticket.offset = stop) :
    Contiguous start (tickets ++ [ticket]) (stop + ticket.length) := by
  induction tickets generalizing start with
  | nil =>
      have startEq : start = stop := contiguous
      rw [startEq]
      exact ⟨follows, rfl⟩
  | cons first tickets ih => exact ⟨contiguous.1, ih contiguous.2⟩

/-- The chunks of a generation. -/
def chunksOf (generation : Nat) (issued : List Ticket) : List Ticket :=
  issued.filter fun ticket => ticket.generation = generation

/-- Generations that start at `origins`, of which the latest has come as far as `next`. -/
structure Traced (origins : List Nat) (issued : List Ticket) (generation next : Nat) : Prop where
  length_origins : origins.length = generation + 1
  generation_le : ∀ ticket ∈ issued, ticket.generation ≤ generation
  contiguous : ∀ index origin, origins[index]? = some origin →
    ∃ stop, Contiguous origin (chunksOf index issued) stop
  current : ∃ origin, origins[generation]? = some origin ∧
    Contiguous origin (chunksOf generation issued) next

theorem traced_nil : Traced [0] [] 0 0 where
  length_origins := rfl
  generation_le := by simp
  contiguous _ origin _ := ⟨origin, rfl⟩
  current := ⟨0, rfl, rfl⟩

section

variable {origins : List Nat} {issued : List Ticket} {generation next : Nat}

theorem Traced.chunksOf_succ (traced : Traced origins issued generation next) :
    chunksOf (generation + 1) issued = [] := by
  rw [chunksOf, List.filter_eq_nil_iff]
  intro ticket member
  have := traced.generation_le ticket member
  simp only [decide_eq_true_eq]
  omega

/-- A new generation starts without chunks. -/
theorem Traced.restart (traced : Traced origins issued generation next) (offset : Nat) :
    Traced (origins ++ [offset]) issued (generation + 1) offset where
  length_origins := by rw [List.length_append, traced.length_origins]; rfl
  generation_le ticket member := Nat.le_succ_of_le (traced.generation_le ticket member)
  contiguous index origin originEq := by
    rcases Nat.lt_or_ge index origins.length with earlier | last
    · rw [List.getElem?_append_left earlier] at originEq
      exact traced.contiguous index origin originEq
    · have index_lt := (List.getElem?_eq_some_iff.mp originEq).1
      have indexEq : index = generation + 1 := by
        rw [List.length_append, List.length_singleton, traced.length_origins] at index_lt
        rw [traced.length_origins] at last
        omega
      rw [indexEq, traced.chunksOf_succ]
      exact ⟨origin, rfl⟩
  current := by
    refine ⟨offset, ?_, ?_⟩
    · rw [← traced.length_origins, List.getElem?_concat_length]
    · rw [traced.chunksOf_succ]
      rfl

/-- The next chunk continues the current generation. -/
theorem Traced.post (traced : Traced origins issued generation next) {ticket : Ticket}
    (generationEq : ticket.generation = generation) (offsetEq : ticket.offset = next) :
    Traced origins (issued ++ [ticket]) generation (next + ticket.length) := by
  have currentEq : chunksOf generation (issued ++ [ticket]) =
      chunksOf generation issued ++ [ticket] := by
    simp [chunksOf, generationEq]
  obtain ⟨current, currentOrigin, sent⟩ := traced.current
  refine
    { length_origins := traced.length_origins
      generation_le := ?_
      contiguous := ?_
      current := ⟨current, currentOrigin, by rw [currentEq]; exact sent.concat offsetEq⟩ }
  · intro other member
    rcases List.mem_append.mp member with earlier | last
    · exact traced.generation_le other earlier
    · exact Nat.le_of_eq (List.mem_singleton.mp last ▸ generationEq)
  · intro index origin originEq
    by_cases same : index = generation
    · subst same
      have originSame : origin = current := Option.some.inj (originEq.symm.trans currentOrigin)
      rw [currentEq, originSame]
      exact ⟨_, sent.concat offsetEq⟩
    · have unchanged : chunksOf index (issued ++ [ticket]) = chunksOf index issued := by
        have other : ticket.generation ≠ index := by
          rw [generationEq]
          exact Ne.symm same
        simp [chunksOf, other]
      rw [unchanged]
      exact traced.contiguous index origin originEq

end

/-! ## Where generations start -/

section

variable {δ χ : Type}

/-- The offset at which a move made the upload start a new generation, if it did: the one that the
device reported in the acknowledgement that was collected, or what the device had acknowledged
before, if the upload went on by itself. -/
def resumption? (move : Network.Move χ) (before after : Network Window δ) : Option Nat :=
  if after.state.generation = before.state.generation then none
  else match move with
    | .collect position =>
        match before.answered[position]? with
        | some { outcome := .ok response, .. } => response.offset
        | _ => none
    | _ => some before.state.acked

/-- The offsets at which the upload starts new generations during a schedule, in order. -/
def resumptions (conduct : Conduct δ χ) :
    List (Network.Move χ) → Network Window δ → List Nat
  | [], _ => []
  | move :: schedule, network =>
      let after := network.apply machine conduct move
      (resumption? move network after).toList ++ resumptions conduct schedule after

theorem resumptions_concat (conduct : Conduct δ χ) (schedule : List (Network.Move χ))
    (move : Network.Move χ) (network : Network Window δ) :
    resumptions conduct (schedule ++ [move]) network =
      resumptions conduct schedule network ++
        (resumption? move (network.run machine conduct schedule)
          ((network.run machine conduct schedule).apply machine conduct move)).toList := by
  induction schedule generalizing network with
  | nil => simp [resumptions]
  | cons first schedule ih =>
      have runEq : network.run machine conduct (first :: schedule) =
          (network.apply machine conduct first).run machine conduct schedule := rfl
      rw [List.cons_append, resumptions, resumptions, ih, runEq, List.append_assoc]

/-- What every windowed upload on a network keeps to, given where its generations started. -/
structure OnNetwork (origins : List Nat) (network : Network Window δ) : Prop where
  sound : network.state.Sound
  inFlight_eq : network.state.inFlight = network.posted.length + network.answered.length
  posted_own : ∀ posted ∈ network.posted, posted.ticket.attempt = network.state.attempt
  answered_own : ∀ answered ∈ network.answered, answered.ticket.attempt = network.state.attempt
  length_pos : ∀ ticket ∈ network.issued, 0 < ticket.length
  traced : Traced origins network.issued network.state.generation network.state.next

variable {conduct : Conduct δ χ} {move : Network.Move χ} {before after : Network Window δ}
  {origins : List Nat}

theorem OnNetwork.of_generation_eq (same : after.state.generation = before.state.generation)
    (holds : OnNetwork origins after) :
    OnNetwork (origins ++ (resumption? move before after).toList) after := by
  unfold resumption?
  rw [if_pos same, Option.toList_none, List.append_nil]
  exact holds

theorem OnNetwork.of_advance (other : after.state.generation ≠ before.state.generation)
    (holds : OnNetwork (origins ++ [before.state.acked]) after) :
    OnNetwork (origins ++ (resumption? (.advance : Network.Move χ) before after).toList)
      after := by
  unfold resumption?
  rw [if_neg other]
  exact holds

theorem OnNetwork.of_collect {position offset : Nat} {ticket : Ticket} {response : Response}
    (answeredEq : before.answered[position]? = some { ticket, outcome := .ok response })
    (reported : response.offset = some offset)
    (other : after.state.generation ≠ before.state.generation)
    (holds : OnNetwork (origins ++ [offset]) after) :
    OnNetwork (origins ++ (resumption? (.collect position : Network.Move χ) before after).toList)
      after := by
  unfold resumption?
  simp only [if_neg other, answeredEq, reported, Option.toList_some]
  exact holds

/-- The upload has moved on, and perhaps acknowledgements were collected. -/
theorem OnNetwork.goOn (holds : OnNetwork origins before) {origins' : List Nat} {state : Window}
    {answered : List Network.Answered} (sound : state.Sound)
    (attemptEq : state.attempt = before.state.attempt)
    (inFlightEq : state.inFlight = before.posted.length + answered.length)
    (collected : ∀ other ∈ answered, other ∈ before.answered)
    (traced : Traced origins' before.issued state.generation state.next) :
    OnNetwork origins' { before with state, answered } where
  sound := sound
  inFlight_eq := inFlightEq
  posted_own := by
    rw [attemptEq]
    exact holds.posted_own
  answered_own := by
    rw [attemptEq]
    exact fun other member => holds.answered_own other (collected other member)
  length_pos := holds.length_pos
  traced := traced

theorem OnNetwork.fed (holds : OnNetwork origins before) {reply : Reply}
    (own : Network.OwnReply (machine.need before.state) reply) :
    let after : Network Window δ := { before with state := before.state.feed reply }
    OnNetwork (origins ++ (resumption? (.advance : Network.Move χ) before after).toList)
      after := by
  have sound := holds.sound.feed reply
  have reckoning := reckoning_feed_own own
  generalize before.state.feed reply = state at sound reckoning ⊢
  have attemptEq : state.attempt = before.state.attempt :=
    reckoning.elim (congrArg Reckoning.attempt) (congrArg Reckoning.attempt)
  have inFlightEq : state.inFlight = before.state.inFlight :=
    reckoning.elim (congrArg Reckoning.inFlight) (congrArg Reckoning.inFlight)
  have inFlight_eq := inFlightEq.trans holds.inFlight_eq
  rcases reckoning with same | restarted
  · have generationEq : state.generation = before.state.generation :=
      congrArg Reckoning.generation same
    have nextEq : state.next = before.state.next := congrArg Reckoning.next same
    refine .of_generation_eq generationEq
      (holds.goOn sound attemptEq inFlight_eq (fun _ member => member) ?_)
    rw [generationEq, nextEq]
    exact holds.traced
  · have generationEq : state.generation = before.state.generation + 1 :=
      congrArg Reckoning.generation restarted
    have nextEq : state.next = before.state.acked := congrArg Reckoning.next restarted
    refine .of_advance (generationEq ▸ Nat.succ_ne_self _)
      (holds.goOn sound attemptEq inFlight_eq (fun _ member => member) ?_)
    rw [generationEq, nextEq]
    exact holds.traced.restart before.state.acked

theorem OnNetwork.post (holds : OnNetwork origins before) {packet : Bytes} {ticket : Ticket}
    (phaseEq : before.state.phase = .posting packet ticket) :
    OnNetwork origins
      { before with
        state := before.state.posted ticket
        posted := before.posted ++ [⟨packet, ticket⟩]
        issued := before.issued ++ [ticket] } := by
  have promised := holds.sound.promised
  rw [phaseEq] at promised
  obtain ⟨-, -, issues⟩ := promised
  have sound := holds.sound.feed .ready
  rw [feed_posting phaseEq] at sound
  have inFlight_eq := holds.inFlight_eq
  refine ⟨sound, ?_, ?_, holds.answered_own, ?_, ?_⟩
  · simp only [List.length_append, List.length_singleton, Window.posted]
    omega
  · intro posted member
    rcases List.mem_append.mp member with earlier | last
    · exact holds.posted_own posted earlier
    · rw [List.mem_singleton.mp last]
      exact issues.attempt_eq
  · intro issued member
    rcases List.mem_append.mp member with earlier | last
    · exact holds.length_pos issued earlier
    · rw [List.mem_singleton.mp last]
      exact issues.length_pos
  · exact holds.traced.post issues.generation_eq issues.offset_eq

theorem OnNetwork.process (holds : OnNetwork origins before) {position : Nat}
    {posted : Network.Posted} (postedEq : before.posted[position]? = some posted)
    (outcome : Except Error Response) (device : δ) :
    OnNetwork origins
      { before with
        device
        posted := before.posted.eraseIdx position
        answered := before.answered ++ [⟨posted.ticket, outcome⟩] } := by
  obtain ⟨position_lt, -⟩ := List.getElem?_eq_some_iff.mp postedEq
  have inFlight_eq := holds.inFlight_eq
  refine ⟨holds.sound, ?_, ?_, ?_, holds.length_pos, holds.traced⟩
  · simp only [List.length_append, List.length_singleton, List.length_eraseIdx_of_lt position_lt]
    omega
  · exact fun other member => holds.posted_own other (List.mem_of_mem_eraseIdx member)
  · intro answered member
    rcases List.mem_append.mp member with earlier | last
    · exact holds.answered_own answered earlier
    · rw [List.mem_singleton.mp last]
      exact holds.posted_own posted (List.mem_of_getElem? postedEq)

theorem OnNetwork.collect (holds : OnNetwork origins before) {position : Nat} {ticket : Ticket}
    {outcome : Except Error Response}
    (answeredEq : before.answered[position]? = some { ticket, outcome }) :
    let after : Network Window δ :=
      { before with
        state := before.state.acknowledge ticket outcome
        answered := before.answered.eraseIdx position }
    OnNetwork (origins ++ (resumption? (.collect position : Network.Move χ) before after).toList)
      after := by
  have own : ticket.attempt = before.state.attempt :=
    holds.answered_own _ (List.mem_of_getElem? answeredEq)
  obtain ⟨position_lt, -⟩ := List.getElem?_eq_some_iff.mp answeredEq
  have sound := holds.sound.acknowledge outcome ticket
  have reckoning := reckoning_acknowledge outcome own
  generalize before.state.acknowledge ticket outcome = state at sound reckoning ⊢
  have attemptEq : state.attempt = before.state.attempt := by
    rcases reckoning with ⟨acked, moved⟩ | ⟨response, offset, -, -, resynced⟩
    · exact congrArg Reckoning.attempt moved
    · exact congrArg Reckoning.attempt resynced
  have freed : state.inFlight = before.state.inFlight - 1 := by
    rcases reckoning with ⟨acked, moved⟩ | ⟨response, offset, -, -, resynced⟩
    · exact congrArg Reckoning.inFlight moved
    · exact congrArg Reckoning.inFlight resynced
  have inFlightEq : state.inFlight =
      before.posted.length + (before.answered.eraseIdx position).length := by
    have inFlight_eq := holds.inFlight_eq
    rw [List.length_eraseIdx_of_lt position_lt]
    omega
  have collected : ∀ other ∈ before.answered.eraseIdx position, other ∈ before.answered :=
    fun _ member => List.mem_of_mem_eraseIdx member
  rcases reckoning with ⟨acked, moved⟩ | ⟨response, offset, outcomeEq, offsetEq, resynced⟩
  · have generationEq : state.generation = before.state.generation :=
      congrArg Reckoning.generation moved
    have nextEq : state.next = before.state.next := congrArg Reckoning.next moved
    refine .of_generation_eq generationEq (holds.goOn sound attemptEq inFlightEq collected ?_)
    rw [generationEq, nextEq]
    exact holds.traced
  · have generationEq : state.generation = before.state.generation + 1 :=
      congrArg Reckoning.generation resynced
    have nextEq : state.next = offset := congrArg Reckoning.next resynced
    rw [outcomeEq] at answeredEq
    refine .of_collect answeredEq offsetEq (generationEq ▸ Nat.succ_ne_self _)
      (holds.goOn sound attemptEq inFlightEq collected ?_)
    rw [generationEq, nextEq]
    exact holds.traced.restart offset

theorem OnNetwork.step (holds : OnNetwork origins before)
    (effect : Network.Effect machine conduct before move after) :
    OnNetwork (origins ++ (resumption? move before after).toList) after := by
  cases effect with
  | none move => exact .of_generation_eq rfl holds
  | fed own => exact holds.fed own
  | posted needEq =>
      have phaseEq := (need_eq_post_iff.mp needEq).1
      rw [machine_feed, feed_posting phaseEq]
      exact .of_generation_eq rfl (holds.post phaseEq)
  | exchanged needEq conducted => exact absurd needEq need_ne_exchange
  | @processed position choice posted outcome device postedEq conducted =>
      exact .of_generation_eq rfl (holds.process postedEq outcome device)
  | collected needEq answeredEq =>
      rw [machine_feed, feed_collecting (need_eq_collect_iff.mp needEq)]
      exact holds.collect answeredEq
  | signaled signal =>
      exact .of_generation_eq rfl ⟨holds.sound.signal signal, holds.inFlight_eq,
        holds.posted_own, holds.answered_own, holds.length_pos, holds.traced⟩

theorem onNetwork_run (conduct : Conduct δ χ) (upload : Upload) (capacity attempt : Nat)
    (seq : UInt8) (control : Control) (device : δ) (schedule : List (Network.Move χ)) :
    let start : Network Window δ := { state := fresh upload capacity attempt seq control, device }
    OnNetwork (0 :: resumptions conduct schedule start) (start.run machine conduct schedule) := by
  intro start
  induction schedule using List.reverseRecOn with
  | nil =>
      exact
        { sound := sound_fresh upload capacity attempt seq control
          inFlight_eq := rfl
          posted_own := by simp [start]
          answered_own := by simp [start]
          length_pos := by simp [start]
          traced := traced_nil }
  | append_singleton schedule move holds =>
      rw [resumptions_concat, Network.run_concat, ← List.cons_append]
      exact holds.step (Network.apply_effect machine conduct _ move)

/-! ## Issuing comes to an end -/

/-- An upload that has failed, or that waits while something is in flight. -/
def HasIssued (window : Window) : Prop :=
  (∃ failure, window.phase = .ended (.error failure)) ∨
    window.phase = .collecting ∧ 0 < window.inFlight

/-- Issuing sends one chunk more while there is room, and else leaves something in flight unless it
fails. -/
theorem issue_of_issuing {window : Window} (sound : window.Sound)
    (phaseEq : window.phase = .issuing) :
    window.issue.HasIssued ∨
      window.inFlight < window.capacity ∧
        ∃ packet ticket, window.issue.phase = .posting packet ticket := by
  have promised := sound.promised
  rw [phaseEq] at promised
  obtain ⟨short, idleNext⟩ := promised
  rcases window.issue_cases with
    ⟨room, -, failed | ⟨packet, ticket, posting, -⟩⟩ | ⟨full, collects⟩
  · exact .inl (.inl failed)
  · exact .inr ⟨room, packet, ticket, posting⟩
  · have outstanding : window.inFlight ≠ 0 := by
      intro idle
      have capacity_pos := sound.bounded.capacity_pos
      exact full ⟨idle.symm ▸ capacity_pos, idleNext idle⟩
    have collectsEq : window.issue = { window with phase := .collecting } := by
      rw [collects, afterIssuing, if_pos outstanding]
    rw [collectsEq]
    exact .inl (.inr ⟨rfl, Nat.pos_of_ne_zero outstanding⟩)

theorem state_advance {network : Network Window δ}
    (going : network.state.phase = .turning ∨ network.state.phase = .issuing ∨
      ∃ packet ticket, network.state.phase = .posting packet ticket) :
    (network.apply machine conduct .advance).state = network.state.feed .ready := by
  rcases going with phaseEq | phaseEq | ⟨packet, ticket, phaseEq⟩ <;>
    simp only [Network.apply, Network.advance, machine, need, phaseEq]

theorem advance_of_issuing {network : Network Window δ} (phaseEq : network.state.phase = .issuing) :
    (network.apply machine conduct .advance).state = network.state.issue := by
  rw [state_advance (.inr (.inl phaseEq))]
  simp only [feed, phaseEq]

theorem run_replicate_succ (count : Nat) (move : Network.Move χ) (network : Network Window δ) :
    network.run machine conduct (List.replicate (count + 1) move) =
      (network.apply machine conduct move).run machine conduct (List.replicate count move) := by
  rw [List.replicate_succ]
  rfl

/-- Every chunk that is sent takes up room, so that issuing comes to an end. -/
theorem exists_hasIssued_of_issuing (room : Nat) (network : Network Window δ)
    (sound : network.state.Sound) (phaseEq : network.state.phase = .issuing)
    (room_lt : network.state.capacity - network.state.inFlight < room) :
    ∃ count, (network.run machine conduct (List.replicate count .advance)).state.HasIssued := by
  induction room generalizing network with
  | zero => exact absurd room_lt (Nat.not_lt_zero _)
  | succ room ih =>
      have issued : (network.apply machine conduct .advance).state = network.state.issue :=
        advance_of_issuing phaseEq
      rcases issue_of_issuing sound phaseEq with hasIssued | ⟨hasRoom, packet, ticket, posting⟩
      · rw [← issued] at hasIssued
        exact ⟨1, hasIssued⟩
      · have issuedSound : network.state.issue.Sound := by
          have fed := sound.feed .ready
          simp only [feed, phaseEq] at fed
          exact fed
        have sent : ((network.apply machine conduct .advance).apply machine conduct
            .advance).state = network.state.issue.posted ticket := by
          rw [state_advance, issued, feed_posting posting]
          rw [issued]
          exact .inr (.inr ⟨packet, ticket, posting⟩)
        have reckoningEq := congrArg (Reckoning.post ticket) network.state.reckoning_issue
        have capacityEq : (network.state.issue.posted ticket).capacity = network.state.capacity :=
          congrArg Reckoning.capacity reckoningEq
        have inFlightEq : (network.state.issue.posted ticket).inFlight =
            network.state.inFlight + 1 := congrArg Reckoning.inFlight reckoningEq
        have sentSound := issuedSound.feed .ready
        rw [feed_posting posting] at sentSound
        obtain ⟨count, hasIssued⟩ := ih
          ((network.apply machine conduct .advance).apply machine conduct .advance)
          (sent ▸ sentSound) (sent ▸ rfl) (by rw [sent, capacityEq, inFlightEq]; omega)
        refine ⟨count + 1 + 1, ?_⟩
        rw [run_replicate_succ, run_replicate_succ]
        exact hasIssued

/-- A turn of an active upload with something left to acknowledge issues, unless the upload was
canceled. -/
theorem turn_of_active {window : Window} (active : window.control.phase = .active)
    (short : window.acked < window.total) :
    (∃ failure, window.turn.phase = .ended (.error failure)) ∨ window.turn.phase = .issuing := by
  rw [turn, if_neg (Nat.not_le_of_lt short)]
  split
  · exact .inl ⟨_, rfl⟩
  · dsimp only
    rw [control_notePause, if_pos active]
    split
    · exact .inr rfl
    · exact .inr rfl

/-- Whatever an active upload sends in a turn, it fails or waits for something that is in
flight. -/
theorem exists_hasIssued {network : Network Window δ}
    (sound : network.state.Sound) (phaseEq : network.state.phase = .turning)
    (active : network.state.control.phase = .active)
    (short : network.state.acked < network.state.total) :
    ∃ count, (network.run machine conduct (List.replicate count .advance)).state.HasIssued := by
  have turned : (network.apply machine conduct .advance).state = network.state.turn := by
    rw [state_advance (.inl phaseEq)]
    simp only [feed, phaseEq]
  rcases turn_of_active active short with ⟨failure, ended⟩ | issuing
  · refine ⟨1, .inl ⟨failure, ?_⟩⟩
    rw [← turned] at ended
    exact ended
  · have turnedSound : network.state.turn.Sound := by
      have fed := sound.feed .ready
      simp only [feed, phaseEq] at fed
      exact fed
    obtain ⟨count, hasIssued⟩ := exists_hasIssued_of_issuing _
      (network.apply machine conduct .advance) (turned ▸ turnedSound)
      (turned ▸ issuing) (Nat.lt_succ_self _)
    refine ⟨count + 1, ?_⟩
    rw [run_replicate_succ]
    exact hasIssued

/-! ## The whole run -/

/-- After every schedule of a windowed upload: the requests in flight are those whose
acknowledgement is still to come, and never more than the window holds; no chunk is empty; every
generation starts where `resumption?` says and goes on from there without gaps; an acknowledgement
of another generation only frees its place; the upload never collects without a request in flight;
and issuing, to which every turn of an active upload comes, ends with one in flight unless it
fails. -/
theorem orderly_run (conduct : Conduct δ χ) (upload : Upload) (capacity attempt : Nat)
    (seq : UInt8) (control : Control) (device : δ) (schedule : List (Network.Move χ)) :
    let start : Network Window δ := { state := fresh upload capacity attempt seq control, device }
    let network := start.run machine conduct schedule
    let origins := 0 :: resumptions conduct schedule start
    network.state.inFlight = network.posted.length + network.answered.length ∧
    network.state.inFlight ≤ max capacity 1 ∧
    (∀ ticket ∈ network.issued,
      0 < ticket.length ∧ ticket.generation ≤ network.state.generation) ∧
    origins.length = network.state.generation + 1 ∧
    (∀ generation origin, origins[generation]? = some origin →
      ∃ stop, Contiguous origin (chunksOf generation network.issued) stop) ∧
    (∀ position answered, network.state.phase = .collecting →
      network.answered[position]? = some answered →
      answered.ticket.generation ≠ network.state.generation →
      network.apply machine conduct (.collect position) =
        { network with
          state := { network.state with
            inFlight := network.state.inFlight - 1, phase := .turning }
          answered := network.answered.eraseIdx position }) ∧
    (network.state.phase = .collecting → 0 < network.state.inFlight) ∧
    (network.state.phase = .issuing →
      (network.apply machine conduct .advance).state.HasIssued ∨
        ∃ packet ticket,
          (network.apply machine conduct .advance).state.phase = .posting packet ticket) ∧
    (network.state.phase = .turning → network.state.control.phase = .active →
      network.state.acked < network.state.total →
      ∃ count, (network.run machine conduct (List.replicate count .advance)).state.HasIssued) := by
  intro start network origins
  have holds : OnNetwork origins network :=
    onNetwork_run conduct upload capacity attempt seq control device schedule
  have fixedEq : network.state.reckoning.fixed = (upload, max capacity 1, attempt) :=
    Network.run_state_invariant
      (fun state => state.reckoning.fixed = (upload, max capacity 1, attempt)) rfl
      (fun reply state fixed => (fixed_feed reply state).trans fixed)
      (fun _ _ fixed => fixed) schedule
  have capacityEq : network.state.capacity = max capacity 1 := congrArg (·.2.1) fixedEq
  refine ⟨holds.inFlight_eq, ?_, ?_, holds.traced.length_origins, holds.traced.contiguous, ?_, ?_,
    ?_, ?_⟩
  · rw [← capacityEq]
    exact holds.sound.bounded.inFlight_le
  · exact fun ticket member =>
      ⟨holds.length_pos ticket member, holds.traced.generation_le ticket member⟩
  · intro position answered phaseEq answeredEq old
    have own := holds.answered_own answered (List.mem_of_getElem? answeredEq)
    rw [← acknowledge_old answered.outcome own old, ← feed_collecting phaseEq]
    simp only [Network.apply, Network.collect, need_eq_collect_iff.mpr phaseEq, answeredEq,
      machine_feed]
  · intro phaseEq
    have promised := holds.sound.promised
    rw [phaseEq] at promised
    exact promised.2
  · intro phaseEq
    rw [advance_of_issuing phaseEq]
    exact (issue_of_issuing holds.sound phaseEq).imp id fun sends => sends.2
  · exact fun phaseEq active short => exists_hasIssued holds.sound phaseEq active short

end

open Storage

/-- Both chunks are sent.  The device takes only one byte of the first, and the upload is about to go
on at that byte. -/
def partlyTaken : List (Network.Move Treatment) :=
  List.replicate 7 .advance ++ [taken 0 (some 1) 1 1, .collect 0, .advance]

/-- The rest is sent in a new generation, and the device processes the second chunk of the old one. -/
def sentAgain : List (Network.Move Treatment) :=
  partlyTaken ++ List.replicate 4 .advance ++ [taken 0 none 3 1]

instance (phase : Phase) : Decidable (phase = .turning) :=
  decidable_of_iff (phase matches .turning) (by cases phase <;> simp)

instance (phase : Phase) : Decidable (phase = .issuing) :=
  decidable_of_iff (phase matches .issuing) (by cases phase <;> simp)

instance (phase : Phase) : Decidable (phase = .collecting) :=
  decidable_of_iff (phase matches .collecting) (by cases phase <;> simp)

/-- The upload turns, issues and collects in its second generation, and what it collects there is of
the first. -/
theorem orderly_run_sentAgain :
    let turning := threeBytesStart.run machine (storing .ble) partlyTaken
    let issuing := threeBytesStart.run machine (storing .ble) (partlyTaken ++ [.advance])
    let collecting := threeBytesStart.run machine (storing .ble) sentAgain
    ((turning.state.phase = .turning ∧ turning.state.control.phase = .active ∧
        turning.state.acked < turning.state.total) ∧
      issuing.state.phase = .issuing ∧
      (collecting.state.phase = .collecting ∧ collecting.state.generation = 1 ∧
        collecting.answered.map (·.ticket.generation) = [0]) ∧
      resumptions (storing .ble) sentAgain threeBytesStart = [1] ∧
      collecting.issued.map (fun ticket => (ticket.generation, ticket.offset, ticket.length)) =
        [(0, 0, 2), (0, 2, 1), (1, 1, 2)]) ∧
    (∃ count,
      (turning.run machine (storing .ble) (List.replicate count .advance)).state.HasIssued) ∧
    ((issuing.apply machine (storing .ble) .advance).state.HasIssued ∨
      ∃ packet ticket,
        (issuing.apply machine (storing .ble) .advance).state.phase = .posting packet ticket) ∧
    (∃ stop, Contiguous 1 (chunksOf 1 collecting.issued) stop) ∧
    0 < collecting.state.inFlight ∧
    collecting.apply machine (storing .ble) (.collect 0) =
      { collecting with
        state := { collecting.state with
          inFlight := collecting.state.inFlight - 1, phase := .turning }
        answered := collecting.answered.eraseIdx 0 } := by
  intro turning issuing collecting
  have turns : turning.state.phase = .turning ∧ turning.state.control.phase = .active ∧
      turning.state.acked < turning.state.total := by decide +kernel
  have issues : issuing.state.phase = .issuing := by decide +kernel
  have collects : collecting.state.phase = .collecting ∧ collecting.state.generation = 1 ∧
      collecting.answered.map (·.ticket.generation) = [0] := by decide +kernel
  have resumed : resumptions (storing .ble) sentAgain threeBytesStart = [1] := by decide +kernel
  have chunks : collecting.issued.map
      (fun ticket => (ticket.generation, ticket.offset, ticket.length)) =
        [(0, 0, 2), (0, 2, 1), (1, 1, 2)] := by decide +kernel
  obtain ⟨late, lateEq, generationEq⟩ := List.map_eq_singleton_iff.mp collects.2.2
  have lateFirst : collecting.answered[0]? = some late := by rw [lateEq]; rfl
  have old : late.ticket.generation ≠ collecting.state.generation := by
    rw [generationEq, collects.2.1]
    decide
  have orderly (schedule : List (Network.Move Treatment)) :=
    orderly_run (storing .ble) threeBytes 2 0 0 {} { held := [] } schedule
  obtain ⟨-, -, -, -, -, -, -, -, turned⟩ := orderly partlyTaken
  obtain ⟨-, -, -, -, -, -, -, issued, -⟩ := orderly (partlyTaken ++ [.advance])
  obtain ⟨-, -, -, -, contiguous, freed, outstanding, -, -⟩ := orderly sentAgain
  have second : (0 :: resumptions (storing .ble) sentAgain threeBytesStart)[1]? = some 1 := by
    rw [resumed]
    rfl
  exact ⟨⟨turns, issues, collects, resumed, chunks⟩, turned turns.1 turns.2.1 turns.2.2,
    issued issues, contiguous 1 1 second, outstanding collects.1,
    freed 0 late collects.1 lateFirst old⟩

end Window

end SmpClient
