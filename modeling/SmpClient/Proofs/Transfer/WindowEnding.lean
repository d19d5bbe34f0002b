import SmpClient.Proofs.Transfer.Advancing
import SmpClient.Proofs.Transfer.Generations

/-!
# Windowed uploads against devices that do not move backwards

The acknowledgements that lie ready for a windowed upload are in the order of its requests: first those
of attempts before it, then those of generations that are void, then those that count.  Each that counts
brings the upload ahead or is one of at most eight stalls in a row, and voids no more requests than the
window holds.
-/

namespace SmpClient

open Network

namespace Window

variable {upload : Upload} {answer : List Bytes → Except Error Response}
  {attempt capacity start : Nat}

/-- The steps that are left at most until the next request or acknowledgement. -/
def Phase.rank : Phase → Nat
  | .starting => 6
  | .telling => 5
  | .turning => 4
  | .issuing => 3
  | .posting _ _ => 2
  | .collecting => 1
  | .resting | .ended _ => 0

theorem Phase.GoesOn.rank_le {phase : Phase} (goesOn : phase.GoesOn) : phase.rank ≤ 5 := by
  rcases goesOn with rfl | rfl
  · decide
  · decide

theorem Phase.GoesOn.ne_resting {phase : Phase} (goesOn : phase.GoesOn) : phase ≠ .resting := by
  rcases goesOn with rfl | rfl
  · exact nofun
  · exact nofun

/-! ## What lies ready -/

/-- The acknowledgements that lie ready: those of attempts before, those of void generations, and those
that count.  Every request has been paid for by progress, by a stall or by counting. -/
structure Lying (upload : Upload) (answer : List Bytes → Except Error Response) (start stalls : Nat)
    (reckoning : Reckoning) (sent : List Bytes) (ready late void live : List Answered) :
    Prop where
  ready_eq : ready = late ++ (void ++ live)
  late_lt : ∀ answered ∈ late, answered.ticket.attempt < reckoning.attempt
  own : ∀ answered ∈ void ++ live, answered.ticket.attempt = reckoning.attempt
  void_lt : ∀ answered ∈ void, answered.ticket.generation < reckoning.generation
  live_eq : ∀ answered ∈ live, answered.ticket.generation = reckoning.generation
  length_pos : ∀ answered ∈ live, 0 < answered.ticket.length
  inFlight_eq : reckoning.inFlight = (void ++ live).length
  contiguous : Contiguous reckoning.acked (live.map Answered.ticket) reckoning.next
  rising : upload.Rising answer sent reckoning.acked ((void ++ live).map Answered.outcome)
  spent : sent.length ≤
    start + (reckoning.capacity * (9 * reckoning.acked + stalls) + live.length)

section

variable {stalls : Nat} {reckoning : Reckoning} {sent : List Bytes}
  {ready late void live : List Answered}

theorem Lying.answered_le
    (lying : Lying upload answer start stalls reckoning sent ready late void live) :
    ∀ answered ∈ ready, answered.ticket.attempt ≤ reckoning.attempt := by
  intro found member
  rw [lying.ready_eq] at member
  rcases List.mem_append.mp member with early | mine
  · exact Nat.le_of_lt (lying.late_lt found early)
  · exact Nat.le_of_eq (lying.own found mine)

/-- The requests of an attempt stay within nine for each byte and nine more, for each place in the
window. -/
theorem Lying.length_le
    (lying : Lying upload answer start stalls reckoning sent ready late void live)
    (bounded : reckoning.Bounded) (stalls_le : stalls ≤ maxStalls) :
    sent.length ≤ start + 9 * (reckoning.total + 1) * reckoning.capacity := by
  have inFlight_le := bounded.inFlight_le
  have acked_le := bounded.acked_le
  have spent := lying.spent
  rw [lying.inFlight_eq, List.length_append] at inFlight_le
  rw [maxStalls] at stalls_le
  have paid : reckoning.capacity * (9 * reckoning.acked + stalls + 1) ≤
      reckoning.capacity * (9 * (reckoning.total + 1)) := by
    apply Nat.mul_le_mul_left
    omega
  rw [Nat.mul_add_one] at paid
  rw [Nat.mul_comm (9 * (reckoning.total + 1))]
  omega

/-- A tail that was voided is issued again when nothing is in flight. -/
theorem Lying.restart
    (lying : Lying upload answer start stalls reckoning sent ready late void live)
    (idle : reckoning.inFlight = 0) :
    Lying upload answer start stalls (reckoning.restart reckoning.acked) sent ready late [] [] := by
  have empty : void ++ live = [] := List.eq_nil_of_length_eq_zero (lying.inFlight_eq.symm.trans idle)
  obtain ⟨rfl, rfl⟩ := List.append_eq_nil_iff.mp empty
  exact
    { lying with
      void_lt := List.forall_mem_nil _
      live_eq := List.forall_mem_nil _
      contiguous := rfl }

theorem Lying.post
    (lying : Lying upload answer start stalls reckoning sent ready late void live)
    (advancing : upload.Advancing answer sent) {packet : Bytes} {ticket : Ticket}
    (issues : reckoning.Issues packet ticket) :
    Lying upload answer start stalls (reckoning.post ticket) (sent ++ [packet])
      (ready ++ [⟨ticket, answer (sent ++ [packet])⟩]) late void
      (live ++ [⟨ticket, answer (sent ++ [packet])⟩]) where
  ready_eq := by simp [lying.ready_eq]
  late_lt := lying.late_lt
  own := by
    rw [← List.append_assoc]
    intro found member
    rcases List.mem_append.mp member with earlier | last
    · exact lying.own found earlier
    · rw [List.mem_singleton.mp last]
      exact issues.attempt_eq
  void_lt := lying.void_lt
  live_eq := by
    intro found member
    rcases List.mem_append.mp member with earlier | last
    · exact lying.live_eq found earlier
    · rw [List.mem_singleton.mp last]
      exact issues.generation_eq
  length_pos := by
    intro found member
    rcases List.mem_append.mp member with earlier | last
    · exact lying.length_pos found earlier
    · rw [List.mem_singleton.mp last]
      exact issues.length_pos
  inFlight_eq := by
    have inFlight_eq := lying.inFlight_eq
    simp only [Reckoning.post, List.length_append, List.length_singleton] at inFlight_eq ⊢
    omega
  contiguous := by
    rw [List.map_append]
    exact lying.contiguous.concat issues.offset_eq
  rising := by
    rw [← List.append_assoc, List.map_append]
    exact lying.rising.concat advancing packet
  spent := by
    have spent := lying.spent
    simp only [Reckoning.post, List.length_append, List.length_singleton]
    omega

/-- An acknowledgement of an attempt before is of no consequence. -/
theorem Lying.collect_late {first : Answered}
    (lying : Lying upload answer start stalls reckoning sent ready (first :: late) void live) :
    Lying upload answer start stalls reckoning sent (late ++ (void ++ live)) late void live :=
  { lying with
    ready_eq := rfl
    late_lt := fun found member => lying.late_lt found (List.mem_cons_of_mem _ member) }

/-- An acknowledgement of a void generation frees its place. -/
theorem Lying.collect_void {first : Answered}
    (lying : Lying upload answer start stalls reckoning sent ready [] (first :: void) live) :
    Lying upload answer start stalls reckoning.free sent (void ++ live) [] void live :=
  { lying with
    ready_eq := rfl
    own := fun found member => lying.own found (List.mem_cons_of_mem _ member)
    void_lt := fun found member => lying.void_lt found (List.mem_cons_of_mem _ member)
    inFlight_eq := congrArg Nat.pred lying.inFlight_eq
    rising := lying.rising.1 }

/-- Nothing that counts is behind what the device has acknowledged. -/
theorem Lying.acked_le {first : Answered}
    (lying : Lying upload answer start stalls reckoning sent ready [] [] (first :: live))
    {offset : Nat} (confirms : upload.Confirms first.outcome offset) : reckoning.acked ≤ offset :=
  (lying.rising.2 offset confirms).1

/-- The device has reached the end of the chunk: all that follows still counts. -/
theorem Lying.confirm {first : Answered}
    (lying : Lying upload answer start stalls reckoning sent ready [] [] (first :: live))
    (capacity_pos : 0 < reckoning.capacity) (stalls_le : stalls ≤ maxStalls)
    (confirms : upload.Confirms first.outcome (first.ticket.offset + first.ticket.length)) :
    Lying upload answer start 0
      (reckoning.free.moveTo (first.ticket.offset + first.ticket.length)) sent live [] [] live := by
  obtain ⟨offsetEq, contiguous⟩ := lying.contiguous
  have pos := lying.length_pos first List.mem_cons_self
  exact
    { ready_eq := rfl
      late_lt := List.forall_mem_nil _
      own := fun found member => lying.own found (List.mem_cons_of_mem _ member)
      void_lt := List.forall_mem_nil _
      live_eq := fun found member => lying.live_eq found (List.mem_cons_of_mem _ member)
      length_pos := fun found member => lying.length_pos found (List.mem_cons_of_mem _ member)
      inFlight_eq := congrArg Nat.pred lying.inFlight_eq
      contiguous := by
        rw [← offsetEq] at contiguous
        exact contiguous
      rising := (lying.rising.2 _ confirms).2
      spent := by
        have spent := lying.spent
        rw [maxStalls] at stalls_le
        -- the chunk has a byte at least, so that the stalls before it are paid for
        have paid : reckoning.capacity * (9 * reckoning.acked + stalls + 1) ≤
            reckoning.capacity * (9 * (first.ticket.offset + first.ticket.length)) := by
          apply Nat.mul_le_mul_left
          omega
        rw [Nat.mul_add_one] at paid
        rw [List.length_cons] at spent
        simp only [Reckoning.moveTo, Reckoning.free, Nat.add_zero]
        omega }

/-- The device is elsewhere: all that follows is void. -/
theorem Lying.resync {first : Answered}
    (lying : Lying upload answer start stalls reckoning sent ready [] [] (first :: live))
    (bounded : reckoning.Bounded) {offset : Nat} (confirms : upload.Confirms first.outcome offset)
    {counted : Nat} (counts : 9 * reckoning.acked + stalls + 1 ≤ 9 * offset + counted) :
    Lying upload answer start counted ((reckoning.free.restart offset).moveTo offset) sent live []
      live [] where
  ready_eq := by simp
  late_lt := List.forall_mem_nil _
  own := by
    rw [List.append_nil]
    exact fun found member => lying.own found (List.mem_cons_of_mem _ member)
  void_lt found member :=
    Nat.lt_succ_of_le (Nat.le_of_eq (lying.live_eq found (List.mem_cons_of_mem _ member)))
  live_eq := List.forall_mem_nil _
  length_pos := List.forall_mem_nil _
  inFlight_eq := by
    rw [List.append_nil]
    exact congrArg Nat.pred lying.inFlight_eq
  contiguous := rfl
  rising := by
    rw [List.append_nil]
    exact (lying.rising.2 offset confirms).2
  spent := by
    have spent := lying.spent
    have inFlight_le := bounded.inFlight_le
    rw [lying.inFlight_eq, List.nil_append] at inFlight_le
    -- all that is in flight becomes void at once, which is no more than the window holds
    have paid : reckoning.capacity * (9 * reckoning.acked + stalls + 1) ≤
        reckoning.capacity * (9 * offset + counted) :=
      Nat.mul_le_mul_left _ counts
    rw [Nat.mul_add_one] at paid
    simp only [Reckoning.moveTo, Reckoning.restart, Reckoning.free, List.length_nil]
    omega

end

/-! ## What the steps leave as it is -/

theorem exists_issue_eq (window : Window) :
    ∃ seq phase, window.issue = { window with seq, phase } := by
  rw [issue]
  split
  · split
    · exact ⟨_, _, rfl⟩
    · split
      · exact ⟨_, _, rfl⟩
      · exact ⟨_, _, rfl⟩
  · rw [afterIssuing]
    split
    · exact ⟨_, _, rfl⟩
    · exact ⟨_, _, rfl⟩

theorem exists_moveTo_eq (offset : Nat) (window : Window) :
    ∃ phase : Phase, phase.GoesOn ∧
      window.moveTo offset = { window with acked := offset, phase } := by
  rw [moveTo]
  split
  · rename_i same
    rw [same]
    exact ⟨.turning, .inl rfl, rfl⟩
  · exact ⟨.telling, .inr rfl, rfl⟩

/-- A reported offset ends the upload, confirms the chunk, or is where the upload starts again; then a
stall is counted if the offset is not ahead. -/
theorem settle_eq (ticket : Ticket) (offset : Nat) (window : Window) :
    (∃ failure, window.settle ticket offset = window.finish (.error failure)) ∨
    ∃ phase : Phase, phase.GoesOn ∧
      (offset = ticket.offset + ticket.length ∧
          window.settle ticket offset = { window with stalls := 0, acked := offset, phase } ∨
        ∃ stalls ≤ maxStalls,
          stalls = (if offset ≤ window.acked then window.stalls + 1 else 0) ∧
          window.settle ticket offset =
            { window.restart offset with stalls, acked := offset, phase }) := by
  rw [settle]
  split
  · rename_i reached
    obtain ⟨phase, goesOn, movedEq⟩ := exists_moveTo_eq offset { window with stalls := 0 }
    exact .inr ⟨phase, goesOn, .inl ⟨reached, movedEq⟩⟩
  · dsimp only
    generalize (if offset ≤ window.acked then window.stalls + 1 else 0) = stalls
    split
    · exact .inl ⟨_, rfl⟩
    · rename_i bearable
      obtain ⟨phase, goesOn, movedEq⟩ :=
        exists_moveTo_eq offset ({ window with stalls }.restart offset)
      exact .inr ⟨phase, goesOn, .inr ⟨stalls, Nat.le_of_not_lt bearable, rfl, movedEq⟩⟩

/-! ## An attempt -/

/-- A windowed upload on its way that began after `start` packets. -/
structure Advances (upload : Upload) (answer : List Bytes → Except Error Response)
    (capacity attempt start : Nat) (network : Network Window (List Bytes)) : Prop where
  fixed_eq : network.state.reckoning.fixed = (upload, capacity, attempt)
  sound : network.state.Sound
  wasPaused_eq : network.state.wasPaused = false
  begun : network.state.phase = .starting ∨ network.state.control.phase = .active ∨
    network.state.control.canceled = true
  awake : network.state.phase ≠ .resting
  stalls_le : network.state.stalls ≤ maxStalls
  advancing : upload.Advancing answer network.device
  lying : ∃ late void live, Lying upload answer start network.state.stalls network.state.reckoning
    network.device network.answered late void live

/-- The requests that have been sent when a windowed upload has ended, at most. -/
def limit (upload : Upload) (capacity start : Nat) : Nat :=
  start + 9 * (upload.data.length + 1) * capacity

/-- The steps that are left at most until an attempt has ended. -/
def stepsLeft (upload : Upload) (capacity start : Nat) (network : Network Window (List Bytes)) :
    Nat :=
  7 * (limit upload capacity start - network.device.length) + 5 * network.answered.length +
    network.state.phase.rank

/-- A windowed upload that has ended, or has so many steps to go at most. -/
def Nearing (upload : Upload) (answer : List Bytes → Except Error Response)
    (capacity attempt start left : Nat) (network : Network Window (List Bytes)) : Prop :=
  UploadEngine.Within upload attempt (limit upload capacity start) (.windowed network.state)
      network ∧
    ((∃ result, network.state.phase = .ended result) ∨
      Advances upload answer capacity attempt start network ∧
        stepsLeft upload capacity start network ≤ left)

section

variable {network : Network Window (List Bytes)}

theorem Advances.length_le (advances : Advances upload answer capacity attempt start network) :
    network.device.length ≤ limit upload capacity start := by
  obtain ⟨late, void, live, lying⟩ := advances.lying
  have lengthLe := lying.length_le advances.sound.bounded advances.stalls_le
  have totalEq : network.state.reckoning.total = upload.data.length :=
    congrArg (fun fixed => fixed.1.data.length) advances.fixed_eq
  have capacityEq : network.state.reckoning.capacity = capacity :=
    congrArg (fun fixed => fixed.2.1) advances.fixed_eq
  rwa [totalEq, capacityEq] at lengthLe

theorem Advances.answered_le (advances : Advances upload answer capacity attempt start network) :
    ∀ answered ∈ network.answered, answered.ticket.attempt ≤ attempt := by
  obtain ⟨late, void, live, lying⟩ := advances.lying
  have attemptEq : network.state.reckoning.attempt = attempt :=
    congrArg (fun fixed => fixed.2.2) advances.fixed_eq
  rw [← attemptEq]
  exact lying.answered_le

theorem Advances.nearing (advances : Advances upload answer capacity attempt start network)
    (unpaused : network.state.control.phase ≠ .paused) {left : Nat}
    (enough : stepsLeft upload capacity start network ≤ left) :
    Nearing upload answer capacity attempt start left network :=
  ⟨⟨congrArg Prod.fst advances.fixed_eq, unpaused, advances.answered_le, advances.length_le⟩,
    .inr ⟨advances, enough⟩⟩

/-- An upload that goes on while nothing is sent. -/
theorem Advances.goOn (advances : Advances upload answer capacity attempt start network)
    {state : Window} {ready : List Answered} (sound : state.Sound)
    (fixedEq : state.reckoning.fixed = network.state.reckoning.fixed)
    (wasPausedEq : state.wasPaused = network.state.wasPaused)
    (begun : state.control.phase = .active ∨ state.control.canceled = true)
    (awake : state.phase ≠ .resting) (stalls_le : state.stalls ≤ maxStalls)
    (lying : ∃ late void live, Lying upload answer start state.stalls state.reckoning
      network.device ready late void live) :
    Advances upload answer capacity attempt start { network with state, answered := ready } where
  fixed_eq := fixedEq.trans advances.fixed_eq
  sound := sound
  wasPaused_eq := wasPausedEq.trans advances.wasPaused_eq
  begun := .inr begun
  awake := awake
  stalls_le := stalls_le
  advancing := advances.advancing
  lying := lying

variable {left : Nat}
  (within : UploadEngine.Within upload attempt (limit upload capacity start)
    (.windowed network.state) network)
  (advances : Advances upload answer capacity attempt start network)
  (enough : stepsLeft upload capacity start network ≤ left)

include within advances enough

/-- A step that only changes the phase leaves less to go. -/
theorem nearing_phase {seq : UInt8} {phase : Phase}
    (sound : { network.state with seq, phase : Window }.Sound)
    (begun : network.state.control.phase = .active ∨ network.state.control.canceled = true)
    (awake : phase ≠ .resting) (lower : phase.rank < network.state.phase.rank) :
    ∃ fewer < left, Nearing upload answer capacity attempt start fewer
      { network with state := { network.state with seq, phase } } := by
  rw [stepsLeft] at enough
  refine ⟨left - 1, by omega, ?_⟩
  apply (advances.goOn sound rfl rfl begun awake advances.stalls_le
    advances.lying).nearing within.unpaused
  simp only [stepsLeft]
  omega

theorem nearing_starting (phaseEq : network.state.phase = .starting) :
    ∃ fewer < left, Nearing upload answer capacity attempt start fewer
      (network.plainStep machine answer) := by
  have stepEq : network.plainStep machine answer =
      { network with state := network.state.begin } := by
    simp [plainStep, machine, need, feed, phaseEq]
  have sound := advances.sound.feed .ready
  simp only [feed, phaseEq] at sound
  have unpaused : network.state.control.phase ≠ .paused := within.unpaused
  rw [stepsLeft, phaseEq, Phase.rank] at enough
  refine ⟨left - 1, by omega, ?_⟩
  rw [stepEq]
  rw [begin] at sound ⊢
  cases started : network.state.control.start with
  | error failure => exact ⟨{ within with }, .inl ⟨_, rfl⟩⟩
  | ok control =>
      have active := Control.active_of_start unpaused started
      rw [started] at sound
      apply (advances.goOn sound rfl rfl (.inl active) (by simp) advances.stalls_le
        advances.lying).nearing
      · change control.phase ≠ .paused
        rw [active]
        decide
      · simp only [stepsLeft, Phase.rank]
        omega

theorem nearing_telling (phaseEq : network.state.phase = .telling) :
    ∃ fewer < left, Nearing upload answer capacity attempt start fewer
      (network.plainStep machine answer) := by
  have stepEq : network.plainStep machine answer =
      { network with state := { network.state with phase := .turning } } := by
    simp [plainStep, machine, need, feed, phaseEq]
  have sound := advances.sound.feed .ready
  simp only [feed, phaseEq] at sound
  have begun := advances.begun.resolve_left (by simp [phaseEq])
  rw [stepEq]
  apply nearing_phase within advances enough sound begun
  · simp
  · simp [phaseEq, Phase.rank]

/-- A turn of an upload that is not paused issues, if it does not end the upload. -/
theorem nearing_turning (phaseEq : network.state.phase = .turning) :
    ∃ fewer < left, Nearing upload answer capacity attempt start fewer
      (network.plainStep machine answer) := by
  have stepEq : network.plainStep machine answer =
      { network with state := network.state.turn } := by
    simp [plainStep, machine, need, feed, phaseEq]
  have sound := advances.sound.feed .ready
  simp only [feed, phaseEq] at sound
  have begun := advances.begun.resolve_left (by simp [phaseEq])
  have unpaused : network.state.control.phase ≠ .paused := within.unpaused
  have noted : network.state.notePause = network.state := by
    rw [notePause, if_neg (by simpa [Control.isPaused] using unpaused),
      if_neg (by simp [advances.wasPaused_eq])]
  have later : 0 < left := by
    rw [stepsLeft, phaseEq, Phase.rank] at enough
    omega
  rw [stepEq]
  rw [turn] at sound ⊢
  split at sound
  · rename_i complete
    rw [if_pos complete]
    exact ⟨0, later, { within with unpaused := network.state.control.close_ne_paused },
      .inl ⟨_, rfl⟩⟩
  · rename_i short
    rw [if_neg short]
    split at sound
    · rename_i canceled
      rw [if_pos canceled]
      exact ⟨0, later, { within with }, .inl ⟨_, rfl⟩⟩
    · rename_i uncanceled
      have active := begun.resolve_right uncanceled
      rw [if_neg uncanceled]
      simp only [noted, if_pos active] at sound ⊢
      split at sound
      · rename_i voided
        rw [if_pos voided]
        obtain ⟨late, void, live, lying⟩ := advances.lying
        rw [stepsLeft, phaseEq, Phase.rank] at enough
        refine ⟨left - 1, Nat.sub_one_lt_of_lt later, ?_⟩
        apply (advances.goOn sound rfl rfl begun (by simp) advances.stalls_le
          ⟨late, [], [], lying.restart voided.2⟩).nearing unpaused
        simp only [stepsLeft, Phase.rank]
        omega
      · rename_i kept
        rw [if_neg kept]
        apply nearing_phase within advances enough sound begun
        · simp
        · simp [phaseEq, Phase.rank]

theorem nearing_issuing (phaseEq : network.state.phase = .issuing) :
    ∃ fewer < left, Nearing upload answer capacity attempt start fewer
      (network.plainStep machine answer) := by
  have stepEq : network.plainStep machine answer =
      { network with state := network.state.issue } := by
    simp [plainStep, machine, need, feed, phaseEq]
  have sound := advances.sound.feed .ready
  simp only [feed, phaseEq] at sound
  have begun := advances.begun.resolve_left (by simp [phaseEq])
  have promised := advances.sound.promised
  rw [phaseEq] at promised
  have reckoningEq := network.state.reckoning_issue
  have cases := network.state.issue_cases
  obtain ⟨seq, phase, issueEq⟩ := network.state.exists_issue_eq
  rw [issueEq] at sound reckoningEq
  rw [stepEq, issueEq]
  rcases cases with ⟨-, -, ⟨failure, ended⟩ | ⟨packet, ticket, posting, -⟩⟩ | ⟨full, collects⟩
  · rw [issueEq] at ended
    rw [stepsLeft, phaseEq, Phase.rank] at enough
    exact ⟨left - 1, by omega, { within with }, .inl ⟨_, ended⟩⟩
  · rw [issueEq] at posting
    obtain rfl : phase = .posting packet ticket := posting
    apply nearing_phase within advances enough sound begun
    · simp
    · simp [phaseEq, Phase.rank]
  · have busy : network.state.inFlight ≠ 0 := by
      intro idle
      have room := advances.sound.bounded.capacity_pos
      rw [← idle] at room
      exact full ⟨room, promised.2 idle⟩
    rw [issueEq, afterIssuing, if_pos busy] at collects
    obtain rfl : phase = .collecting := congrArg Window.phase collects
    apply nearing_phase within advances enough sound begun
    · simp
    · simp [phaseEq, Phase.rank]

theorem nearing_posting {packet : Bytes} {ticket : Ticket}
    (phaseEq : network.state.phase = .posting packet ticket) :
    ∃ fewer < left, Nearing upload answer capacity attempt start fewer
      (network.plainStep machine answer) := by
  have stepEq : network.plainStep machine answer =
      { network with
        state := network.state.posted ticket
        device := network.device ++ [packet]
        answered := network.answered ++ [⟨ticket, answer (network.device ++ [packet])⟩]
        issued := network.issued ++ [ticket] } := by
    simp [plainStep, machine, need, feed, phaseEq]
  have sound := advances.sound.feed .ready
  simp only [feed, phaseEq] at sound
  have begun := advances.begun.resolve_left (by simp [phaseEq])
  have promised := advances.sound.promised
  rw [phaseEq] at promised
  obtain ⟨-, -, issues⟩ := promised
  obtain ⟨late, void, live, lying⟩ := advances.lying
  have after : Advances upload answer capacity attempt start
      { network with
        state := network.state.posted ticket
        device := network.device ++ [packet]
        answered := network.answered ++ [⟨ticket, answer (network.device ++ [packet])⟩]
        issued := network.issued ++ [ticket] } :=
    ⟨advances.fixed_eq, sound, advances.wasPaused_eq, .inr begun, by simp [Window.posted],
      advances.stalls_le, advances.advancing.append _, late, void, _, lying.post advances.advancing issues⟩
  have length_le := after.length_le
  rw [stepsLeft, phaseEq, Phase.rank] at enough
  simp only [List.length_append, List.length_singleton] at length_le
  refine ⟨left - 1, by omega, ?_⟩
  rw [stepEq]
  apply after.nearing within.unpaused
  simp only [stepsLeft, Window.posted, Phase.rank, List.length_append, List.length_singleton]
  omega

omit enough in
/-- An acknowledgement that counts ends the upload, or makes it go on ahead or count a stall. -/
theorem nearing_counting {first : Answered} {live : List Answered}
    (lying : Lying upload answer start network.state.stalls network.state.reckoning network.device
      (first :: live) [] [] (first :: live))
    (begun : network.state.control.phase = .active ∨ network.state.control.canceled = true)
    (answered_le : ∀ answered ∈ live, answered.ticket.attempt ≤ attempt)
    (sound : (network.state.acknowledge first.ticket first.outcome).Sound)
    (enough : 7 * (limit upload capacity start - network.device.length) + 5 * live.length + 5 ≤
      left) :
    Nearing upload answer capacity attempt start left
      { network with
        state := network.state.acknowledge first.ticket first.outcome
        answered := live } := by
  have uploadEq : network.state.upload = upload := congrArg Prod.fst advances.fixed_eq
  have own : first.ticket.attempt = network.state.attempt := lying.own first List.mem_cons_self
  have current : first.ticket.generation = network.state.generation :=
    lying.live_eq first List.mem_cons_self
  have unpaused : network.state.control.phase ≠ .paused := within.unpaused
  have stalls_le := advances.stalls_le
  rw [acknowledge, if_neg (not_not_intro own)] at sound ⊢
  dsimp only at sound ⊢
  rw [if_neg (not_not_intro current)] at sound ⊢
  cases reported : Window.reported { network.state with inFlight := network.state.inFlight - 1 }
      first.ticket first.outcome with
  | error failure => exact ⟨{ within with answered_le }, .inl ⟨_, rfl⟩⟩
  | ok offset =>
      obtain ⟨response, outcomeEq, acknowledged⟩ := reported_eq_ok reported
      dsimp only at acknowledged
      rw [uploadEq] at acknowledged
      have confirms : upload.Confirms first.outcome offset := ⟨response, outcomeEq, acknowledged⟩
      rw [reported] at sound
      dsimp only at sound ⊢
      rcases settle_eq first.ticket offset
        { network.state with inFlight := network.state.inFlight - 1 } with
        ⟨failure, settledEq⟩ |
          ⟨phase, goesOn, ⟨rfl, settledEq⟩ | ⟨stalls, bearable, countedEq, settledEq⟩⟩
      · rw [settledEq]
        exact ⟨{ within with answered_le }, .inl ⟨_, rfl⟩⟩
      · rw [settledEq] at sound ⊢
        have confirmed := lying.confirm advances.sound.bounded.capacity_pos stalls_le confirms
        apply (advances.goOn sound rfl rfl begun goesOn.ne_resting (Nat.zero_le _)
          ⟨[], [], live, confirmed⟩).nearing unpaused
        have rank_le := goesOn.rank_le
        simp only [stepsLeft]
        omega
      · rw [settledEq] at sound ⊢
        have acked_le : network.state.acked ≤ offset := lying.acked_le confirms
        have countedEq : stalls =
          if offset ≤ network.state.acked then network.state.stalls + 1 else 0 := countedEq
        have counts : 9 * network.state.acked + network.state.stalls + 1 ≤ 9 * offset + stalls := by
          rw [maxStalls] at stalls_le
          rw [countedEq]
          split <;> omega
        have resynced := lying.resync advances.sound.bounded confirms counts
        apply (advances.goOn sound rfl rfl begun goesOn.ne_resting bearable
          ⟨[], live, [], resynced⟩).nearing unpaused
        have rank_le := goesOn.rank_le
        simp only [stepsLeft]
        omega

/-- An acknowledgement is taken in: it is of no consequence, frees a place, ends the upload, or makes
it go on ahead or count a stall. -/
theorem nearing_collecting (phaseEq : network.state.phase = .collecting) :
    ∃ fewer < left, Nearing upload answer capacity attempt start fewer
      (network.plainStep machine answer) := by
  have begun := advances.begun.resolve_left (by simp [phaseEq])
  have promised := advances.sound.promised
  rw [phaseEq] at promised
  obtain ⟨late, void, live, lying⟩ := advances.lying
  have attemptEq : network.state.attempt = network.state.reckoning.attempt := rfl
  have readyEq := lying.ready_eq
  -- something is in flight, and on this link it has been answered
  obtain ⟨first, rest, firstEq⟩ : ∃ first rest, network.answered = first :: rest := by
    apply List.exists_cons_of_ne_nil
    intro empty
    have inFlight_eq := lying.inFlight_eq
    rw [empty] at readyEq
    obtain ⟨-, ownEq⟩ := List.append_eq_nil_iff.mp readyEq.symm
    rw [ownEq] at inFlight_eq
    exact absurd inFlight_eq (Nat.ne_of_gt promised.2)
  have stepEq : network.plainStep machine answer =
      { network with
        state := network.state.acknowledge first.ticket first.outcome
        answered := rest } := by
    simp [plainStep, machine, need, feed, phaseEq, firstEq]
  have sound := advances.sound.feed (.acknowledgement first.ticket first.outcome)
  simp only [feed, phaseEq] at sound
  have answered_le : ∀ answered ∈ rest, answered.ticket.attempt ≤ attempt := by
    intro found member
    exact within.answered_le found (firstEq ▸ List.mem_cons_of_mem _ member)
  rw [stepsLeft, phaseEq, Phase.rank, firstEq, List.length_cons] at enough
  refine ⟨left - 1, by omega, ?_⟩
  rw [stepEq]
  rw [firstEq] at readyEq lying
  cases late with
  | cons early late =>
      obtain rfl : first = early := (List.cons.inj readyEq).1
      obtain rfl : rest = late ++ (void ++ live) := (List.cons.inj readyEq).2
      have foreign := Nat.ne_of_lt (lying.late_lt first List.mem_cons_self)
      rw [acknowledge_foreign _ foreign] at sound ⊢
      apply (advances.goOn sound rfl rfl begun advances.awake advances.stalls_le
        ⟨late, void, live, lying.collect_late⟩).nearing within.unpaused
      simp only [stepsLeft, phaseEq, Phase.rank]
      omega
  | nil =>
      cases void with
      | cons old void =>
          obtain rfl : first = old := (List.cons.inj readyEq).1
          obtain rfl : rest = void ++ live := (List.cons.inj readyEq).2
          have own := lying.own first List.mem_cons_self
          have void_ne := Nat.ne_of_lt (lying.void_lt first List.mem_cons_self)
          rw [acknowledge_old _ own void_ne] at sound ⊢
          apply (advances.goOn sound rfl rfl begun (by simp) advances.stalls_le
            ⟨[], void, live, lying.collect_void⟩).nearing within.unpaused
          simp only [stepsLeft, Phase.rank]
          omega
      | nil =>
          cases live with
          | nil => cases readyEq
          | cons counting live =>
              obtain ⟨rfl, rfl⟩ := List.cons.inj readyEq
              exact nearing_counting within advances lying begun answered_le sound (by omega)

end

theorem Advances.signaled {network : Network Window (List Bytes)}
    (advances : Advances upload answer capacity attempt start network) {signal : Signal}
    (other : signal ≠ .pause) :
    Advances upload answer capacity attempt start (network.signaled machine signal) where
  fixed_eq := advances.fixed_eq
  sound := advances.sound.signal signal
  wasPaused_eq := advances.wasPaused_eq
  begun := by
    rcases advances.begun with starting | active | canceled
    · exact .inl starting
    · exact .inr (Control.active_or_canceled_signal other active)
    · exact .inr (.inr (Control.canceled_signal signal canceled))
  awake := advances.awake
  stalls_le := advances.stalls_le
  advancing := advances.advancing
  lying := advances.lying

/-- Whatever its owner does but pausing, a windowed upload nears its end with every step. -/
theorem nears (upload : Upload) (answer : List Bytes → Except Error Response)
    (capacity attempt start : Nat) :
    Nears machine answer (Nearing upload answer capacity attempt start)
      fun window => ∃ result, window.phase = .ended result where
  signaled := by
    rintro signal left network other ⟨within, ended | ⟨advances, enough⟩⟩
    · exact ⟨{ within with unpaused := Control.unpaused_signal other within.unpaused }, .inl ended⟩
    · exact (advances.signaled other).nearing (Control.unpaused_signal other within.unpaused) enough
  done_of_signal signal window ended := ended
  stepped := by
    rintro left network ⟨within, ended | ⟨advances, enough⟩⟩ undone
    · exact absurd ended undone
    · cases phaseEq : network.state.phase with
      | starting => exact nearing_starting within advances enough phaseEq
      | turning => exact nearing_turning within advances enough phaseEq
      | issuing => exact nearing_issuing within advances enough phaseEq
      | posting packet ticket => exact nearing_posting within advances enough phaseEq
      | resting => exact absurd phaseEq advances.awake
      | collecting => exact nearing_collecting within advances enough phaseEq
      | telling => exact nearing_telling within advances enough phaseEq
      | ended result => exact absurd ⟨result, phaseEq⟩ undone

theorem nearing_fresh {upload : Upload} (capacity : Nat) (seq : UInt8) {control : Control}
    (unpaused : control.phase ≠ .paused) {answer : List Bytes → Except Error Response}
    {sent : List Bytes} (advancing : upload.Advancing answer sent) {ready : List Answered}
    (late : ∀ answered ∈ ready, answered.ticket.attempt < attempt) (issued : List Ticket) :
    Nearing upload answer (max capacity 1) attempt sent.length
      (63 * (upload.data.length + 1) * max capacity 1 + 5 * ready.length + 6)
      { state := fresh upload capacity attempt seq control, device := sent, answered := ready,
        issued } := by
  have lying : Lying upload answer sent.length 0
      (fresh upload capacity attempt seq control).reckoning sent ready ready [] [] :=
    { ready_eq := by simp
      late_lt := late
      own := List.forall_mem_nil _
      void_lt := List.forall_mem_nil _
      live_eq := List.forall_mem_nil _
      length_pos := List.forall_mem_nil _
      inFlight_eq := rfl
      contiguous := rfl
      rising := upload.rising_zero answer sent
      spent := Nat.le_add_right _ _ }
  have advances : Advances upload answer (max capacity 1) attempt sent.length
      { state := fresh upload capacity attempt seq control, device := sent, answered := ready,
        issued } :=
    ⟨rfl, sound_fresh _ _ _ _ _, rfl, .inl rfl, nofun, Nat.zero_le _, advancing, ready, [], [],
      lying⟩
  apply advances.nearing unpaused
  have priceEq : 63 * (upload.data.length + 1) * max capacity 1 =
      7 * (9 * (upload.data.length + 1) * max capacity 1) := by
    ring
  have rankEq : (fresh upload capacity attempt seq control).phase.rank = 6 := rfl
  simp only [stepsLeft, limit, rankEq]
  omega

end Window

end SmpClient
