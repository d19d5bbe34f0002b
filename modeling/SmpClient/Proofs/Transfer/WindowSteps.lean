import Mathlib.Tactic.SplitIfs
import SmpClient.Proofs.Transfer.Storage
import SmpClient.Transfer.Window

/-!
# The steps of a windowed upload

Of a windowed upload on its way only a few numbers count: its generation, where its next chunk
starts, what the device has acknowledged, and how many requests are out.  This file says what each
step does to this reckoning, and what every phase promises about it.
-/

namespace SmpClient

namespace Window

/-- Windowed uploads as machines. -/
def machine : Machine Window Progress (Except Error Unit) where
  need := need
  feed := feed
  signal := signal
  seq := Window.seq

@[simp]
theorem machine_feed (reply : Reply) (window : Window) :
    machine.feed reply window = window.feed reply :=
  rfl

/-- A windowed upload before it begins. -/
def fresh (upload : Upload) (capacity attempt : Nat) (seq : UInt8) (control : Control) : Window :=
  { upload, capacity := max capacity 1, attempt, seq, control }

/-- What a windowed upload reckons with. -/
structure Reckoning where
  upload : Upload
  capacity : Nat
  attempt : Nat
  generation : Nat
  next : Nat
  acked : Nat
  inFlight : Nat

/-- The reckoning of an upload. -/
def reckoning (window : Window) : Reckoning :=
  { upload := window.upload, capacity := window.capacity, attempt := window.attempt,
    generation := window.generation, next := window.next, acked := window.acked,
    inFlight := window.inFlight }

namespace Reckoning

/-- The length of the data. -/
def total (reckoning : Reckoning) : Nat :=
  reckoning.upload.data.length

/-- The reckoning with a new generation that starts at an offset. -/
def restart (offset : Nat) (reckoning : Reckoning) : Reckoning :=
  { reckoning with generation := reckoning.generation + 1, next := offset }

/-- The reckoning with one request more in flight. -/
def post (ticket : Ticket) (reckoning : Reckoning) : Reckoning :=
  { reckoning with
    inFlight := reckoning.inFlight + 1, next := reckoning.next + ticket.length }

/-- The reckoning with one request less in flight. -/
def free (reckoning : Reckoning) : Reckoning :=
  { reckoning with inFlight := reckoning.inFlight - 1 }

/-- The reckoning with an offset that the device has acknowledged. -/
def moveTo (offset : Nat) (reckoning : Reckoning) : Reckoning :=
  { reckoning with acked := offset }

/-- A packet that may be sent ahead: it stores the chunk that is next, which is not empty. -/
structure Issues (reckoning : Reckoning) (packet : Bytes) (ticket : Ticket) : Prop where
  attempt_eq : ticket.attempt = reckoning.attempt
  generation_eq : ticket.generation = reckoning.generation
  offset_eq : ticket.offset = reckoning.next
  length_pos : 0 < ticket.length
  within : ticket.offset + ticket.length ≤ reckoning.total
  built : ∃ seq, reckoning.upload.chunkPacket seq ticket.offset ticket.length = .ok packet

theorem Issues.exists_built {reckoning : Reckoning} {packet : Bytes} {ticket : Ticket}
    (issues : reckoning.Issues packet ticket) {upload : Upload}
    (upload_eq : ∃ mtu, reckoning.upload = { upload with mtu }) :
    ∃ seq, ticket.offset + ticket.length ≤ upload.data.length ∧
      upload.chunkPacket seq ticket.offset ticket.length = .ok packet := by
  obtain ⟨mtu, uploadEq⟩ := upload_eq
  obtain ⟨seq, built⟩ := issues.built
  have within := issues.within
  rw [total, uploadEq] at within
  rw [uploadEq] at built
  exact ⟨seq, within, built⟩

theorem Issues.carries {reckoning : Reckoning} {packet : Bytes} {ticket : Ticket}
    (issues : reckoning.Issues packet ticket) {upload : Upload}
    (representable : upload.Representable)
    (upload_eq : ∃ mtu, reckoning.upload = { upload with mtu }) :
    Storage.Carries upload packet ticket.offset ticket.length := by
  obtain ⟨seq, within, built⟩ := issues.exists_built upload_eq
  exact Storage.carries_of_chunkPacket representable within built

/-- What every reckoning keeps to. -/
structure Bounded (reckoning : Reckoning) : Prop where
  capacity_pos : 0 < reckoning.capacity
  inFlight_le : reckoning.inFlight ≤ reckoning.capacity
  next_le : reckoning.next ≤ reckoning.total
  acked_le : reckoning.acked ≤ reckoning.total

variable {reckoning : Reckoning}

theorem Bounded.restart (bounded : reckoning.Bounded) {offset : Nat}
    (within : offset ≤ reckoning.total) : (reckoning.restart offset).Bounded :=
  ⟨bounded.capacity_pos, bounded.inFlight_le, within, bounded.acked_le⟩

theorem Bounded.free (bounded : reckoning.Bounded) : reckoning.free.Bounded where
  capacity_pos := bounded.capacity_pos
  inFlight_le := Nat.le_trans (Nat.sub_le _ _) bounded.inFlight_le
  next_le := bounded.next_le
  acked_le := bounded.acked_le

theorem Bounded.moveTo (bounded : reckoning.Bounded) {offset : Nat}
    (within : offset ≤ reckoning.total) : (reckoning.moveTo offset).Bounded :=
  ⟨bounded.capacity_pos, bounded.inFlight_le, bounded.next_le, within⟩

theorem Bounded.post (bounded : reckoning.Bounded) (room : reckoning.inFlight < reckoning.capacity)
    {packet : Bytes} {ticket : Ticket} (issues : reckoning.Issues packet ticket) :
    (reckoning.post ticket).Bounded where
  capacity_pos := bounded.capacity_pos
  inFlight_le := room
  next_le := by
    have within := issues.within
    rwa [issues.offset_eq] at within
  acked_le := bounded.acked_le

end Reckoning

/-- What a phase promises about the reckoning. -/
def Phase.Promises : Phase → Reckoning → Prop
  | .issuing, reckoning =>
      reckoning.acked < reckoning.total ∧
        (reckoning.inFlight = 0 → reckoning.next < reckoning.total)
  | .posting packet ticket, reckoning =>
      reckoning.acked < reckoning.total ∧ reckoning.inFlight < reckoning.capacity ∧
        reckoning.Issues packet ticket
  | .resting, reckoning => reckoning.inFlight = 0
  | .collecting, reckoning =>
      reckoning.acked < reckoning.total ∧ 0 < reckoning.inFlight
  | .ended (.ok ()), reckoning => reckoning.acked = reckoning.total
  | _, _ => True

/-- What is true of every windowed upload on its way. -/
structure Sound (window : Window) : Prop where
  bounded : window.reckoning.Bounded
  promised : window.phase.Promises window.reckoning

theorem sound_fresh (upload : Upload) (capacity attempt : Nat) (seq : UInt8)
    (control : Control) : (fresh upload capacity attempt seq control).Sound where
  bounded := ⟨Nat.lt_of_lt_of_le Nat.zero_lt_one (Nat.le_max_right _ _), Nat.zero_le _,
    Nat.zero_le _, Nat.zero_le _⟩
  promised := trivial

section

variable {window : Window} {packet : Bytes} {ticket : Ticket} {kind : ResponseKind}

theorem need_eq_collect_iff : machine.need window = .collect ↔ window.phase = .collecting := by
  simp only [machine, need]
  cases window.phase <;> simp
  split <;> simp

theorem need_eq_post_iff : machine.need window = .post packet kind ticket ↔
    window.phase = .posting packet ticket ∧ kind = .uploadAck := by
  simp only [machine, need]
  cases window.phase <;> simp
  · constructor
    · rintro ⟨rfl, rfl, rfl⟩
      exact ⟨⟨rfl, rfl⟩, rfl⟩
    · rintro ⟨⟨rfl, rfl⟩, rfl⟩
      exact ⟨rfl, rfl, rfl⟩
  · split <;> simp

theorem need_eq_finished_iff {result : Except Error Unit} :
    machine.need window = .finished result ↔ window.phase = .ended result := by
  simp only [machine, need]
  cases window.phase <;> simp
  split <;> simp

theorem need_ne_exchange : machine.need window ≠ .exchange packet kind := by
  simp only [machine, need]
  cases window.phase <;> simp
  split <;> simp

end

/-! ## A turn -/

theorem reckoning_notePause (window : Window) :
    window.notePause.reckoning = window.reckoning ∨
      window.notePause.reckoning = window.reckoning.restart window.acked := by
  rw [notePause]
  split
  · exact .inl rfl
  · split
    · exact .inr rfl
    · exact .inl rfl

@[simp]
theorem reckoning_afterIssuing (paused : Bool) (window : Window) :
    (window.afterIssuing paused).reckoning = window.reckoning := by
  rw [afterIssuing]
  split
  · rfl
  · split <;> rfl

/-- After its requests a turn collects, if anything is in flight. -/
theorem promises_afterIssuing (paused : Bool) {window : Window}
    (short : window.acked < window.total) :
    (window.afterIssuing paused).phase.Promises window.reckoning := by
  rw [afterIssuing]
  split
  · rename_i outstanding
    exact ⟨short, Nat.pos_of_ne_zero outstanding⟩
  · rename_i idle
    split
    · have inFlightEq : window.inFlight = 0 := by simpa using idle
      exact inFlightEq
    · exact trivial

/-- A turn goes on where the upload is, or starts a new generation at what the device has
acknowledged. -/
theorem reckoning_turn (window : Window) :
    window.turn.reckoning = window.reckoning ∨
      window.turn.reckoning = window.reckoning.restart window.acked := by
  rw [turn]
  split
  · exact .inl rfl
  · rename_i short
    split
    · exact .inl rfl
    · have noted := window.reckoning_notePause
      generalize window.notePause = paused at noted
      dsimp only
      split
      · split
        · rename_i dropped
          rcases noted with same | restarted
          · have ackedEq : paused.acked = window.acked := congrArg Reckoning.acked same
            right
            calc
              (paused.restart paused.acked).reckoning =
                  paused.reckoning.restart paused.acked := rfl
              _ = window.reckoning.restart window.acked := by rw [same, ackedEq]
          · -- What restarts after a pause has its tail before it, so it does not restart twice.
            have nextEq : paused.next = window.acked := congrArg Reckoning.next restarted
            have totalEq : paused.total = window.total := congrArg Reckoning.total restarted
            rw [nextEq, totalEq] at dropped
            exact absurd dropped.1 short
        · exact noted
      · rw [reckoning_afterIssuing]
        exact noted

/-- The phases that a turn can lead to. -/
inductive Turned (window : Window) : Phase → Prop
  | completed : Turned window (.ended (.ok ()))
  | aborted (canceled : window.control.canceled = true) : Turned window (.ended (.error .aborted))
  | issuing : Turned window .issuing
  | collecting : Turned window .collecting
  | resting : Turned window .resting
  | turning : Turned window .turning

theorem turned_turn (window : Window) : Turned window window.turn.phase := by
  rw [turn]
  split
  · exact .completed
  · split
    · rename_i canceled
      exact .aborted canceled
    · dsimp only
      generalize window.notePause = paused
      split
      · split
        · exact .issuing
        · exact .issuing
      · rw [afterIssuing]
        split
        · exact .collecting
        · split
          · exact .resting
          · exact .turning

theorem promises_turn {window : Window} (sound : window.Sound) :
    window.turn.phase.Promises window.turn.reckoning := by
  rw [turn]
  split
  · rename_i done
    exact Nat.le_antisymm sound.bounded.acked_le done
  · rename_i short
    split
    · exact trivial
    · have noted := window.reckoning_notePause
      generalize window.notePause = paused at noted
      have left : paused.acked < paused.total := by
        have ackedEq : paused.acked = window.acked :=
          noted.elim (congrArg Reckoning.acked) (congrArg Reckoning.acked)
        have totalEq : paused.total = window.total :=
          noted.elim (congrArg Reckoning.total) (congrArg Reckoning.total)
        rw [ackedEq, totalEq]
        exact Nat.lt_of_not_le short
      dsimp only
      split
      · split
        · exact ⟨left, fun _ => left⟩
        · rename_i kept
          exact ⟨left, fun idle => Nat.lt_of_not_le fun passed => kept ⟨passed, idle⟩⟩
      · rw [reckoning_afterIssuing]
        exact promises_afterIssuing _ left

/-! ## Issuing -/

@[simp]
theorem reckoning_issue (window : Window) : window.issue.reckoning = window.reckoning := by
  rw [issue]
  split
  · split
    · rfl
    · split <;> rfl
  · exact reckoning_afterIssuing _ _

/-- An upload with room in its window and data to send fails or sends a chunk; else it goes on to
collect. -/
theorem issue_cases (window : Window) :
    (window.inFlight < window.capacity ∧ window.next < window.total ∧
      ((∃ failure, window.issue.phase = .ended (.error failure)) ∨
        ∃ packet ticket, window.issue.phase = .posting packet ticket ∧
          window.reckoning.Issues packet ticket)) ∨
    (¬ (window.inFlight < window.capacity ∧ window.next < window.total) ∧
      window.issue = window.afterIssuing false) := by
  rw [issue]
  split
  · rename_i room
    refine .inl ⟨room.1, room.2, ?_⟩
    cases chunkEq : window.upload.nextChunk window.seq window.next with
    | mk result seq =>
        cases result with
        | error failure => exact .inl ⟨failure, rfl⟩
        | ok chunk =>
            dsimp only
            split
            · rename_i failure headerEq
              exact .inl ⟨failure, rfl⟩
            · rename_i request headerEq
              obtain ⟨sized, built⟩ := Upload.nextChunk_eq_ok chunkEq
              obtain ⟨length_le, length_pos⟩ := Upload.chunkLength_bounds sized
              have within : window.next + chunk.length ≤ window.total := by
                have := room.2
                rw [total] at this ⊢
                omega
              exact .inr ⟨_, _, rfl, rfl, rfl, rfl, length_pos room.2, within, _, built⟩
  · rename_i full
    exact .inr ⟨full, rfl⟩

theorem promises_issue {window : Window} (short : window.acked < window.total) :
    window.issue.phase.Promises window.reckoning := by
  rcases window.issue_cases with ⟨room, -, ⟨failure, ended⟩ | ⟨packet, ticket, posting, issues⟩⟩ |
    ⟨-, collects⟩
  · rw [ended]
    exact trivial
  · rw [posting]
    exact ⟨short, room, issues⟩
  · rw [collects]
    exact promises_afterIssuing _ short

/-! ## Acknowledgements -/

section

variable {window : Window} {ticket : Ticket} (outcome : Except Error Response)

theorem acknowledge_foreign (other : ticket.attempt ≠ window.attempt) :
    window.acknowledge ticket outcome = window := by
  rw [acknowledge, if_pos other]

/-- An acknowledgement of an older generation only frees its place, whatever came back. -/
theorem acknowledge_old (own : ticket.attempt = window.attempt)
    (old : ticket.generation ≠ window.generation) :
    window.acknowledge ticket outcome =
      { window with inFlight := window.inFlight - 1, phase := .turning } := by
  rw [acknowledge, if_neg (not_not_intro own)]
  dsimp only
  rw [if_pos old]

/-- An offset that is reported for a request is the one that the response acknowledges. -/
theorem reported_eq_ok {outcome : Except Error Response} {offset : Nat}
    (reported : window.reported ticket outcome = .ok offset) :
    ∃ response, outcome = .ok response ∧ window.upload.acknowledged response = .ok offset := by
  cases outcome with
  | error failure => cases reported
  | ok response =>
      refine ⟨response, rfl, ?_⟩
      simp only [Window.reported, bind, Except.bind] at reported
      split at reported
      · split at reported
        · cases reported
        · exact reported
      · exact reported

/-- What an acknowledgement leads to: a turn, or a note of the progress first. -/
def Phase.GoesOn (phase : Phase) : Prop :=
  phase = .turning ∨ phase = .telling

theorem goesOn_moveTo (offset : Nat) (window : Window) : (window.moveTo offset).phase.GoesOn := by
  rw [moveTo]
  split
  · exact .inl rfl
  · exact .inr rfl

@[simp]
theorem reckoning_moveTo (offset : Nat) (window : Window) :
    (window.moveTo offset).reckoning = window.reckoning.moveTo offset := by
  rw [moveTo]
  split
  · rename_i same
    rw [same]
    rfl
  · rfl

/-- A reported offset is moved to, unless the device is stuck there; where it is not the end of the
chunk a new generation starts. -/
theorem settle_cases (ticket : Ticket) (offset : Nat) (window : Window) :
    ((∃ failure, (window.settle ticket offset).phase = .ended (.error failure)) ∧
      (window.settle ticket offset).reckoning = window.reckoning) ∨
    ((window.settle ticket offset).phase.GoesOn ∧
      (offset = ticket.offset + ticket.length ∧
          (window.settle ticket offset).reckoning = window.reckoning.moveTo offset ∨
        (window.settle ticket offset).reckoning =
          (window.reckoning.restart offset).moveTo offset)) := by
  rw [settle]
  split
  · rename_i reached
    exact .inr ⟨goesOn_moveTo _ _, .inl ⟨reached, reckoning_moveTo _ _⟩⟩
  · dsimp only
    generalize (if offset ≤ window.acked then window.stalls + 1 else 0) = stalls
    split
    · exact .inl ⟨⟨_, rfl⟩, rfl⟩
    · exact .inr ⟨goesOn_moveTo _ _, .inr (reckoning_moveTo _ _)⟩

/-- An acknowledgement of the current generation ends the upload, or moves it to the offset that it
reports. -/
theorem acknowledge_current (own : ticket.attempt = window.attempt)
    (current : ticket.generation = window.generation) :
    ((∃ failure, (window.acknowledge ticket outcome).phase = .ended (.error failure)) ∧
      (window.acknowledge ticket outcome).reckoning = window.reckoning.free) ∨
    ∃ offset, window.reported ticket outcome = .ok offset ∧
      (window.acknowledge ticket outcome).phase.GoesOn ∧
      (offset = ticket.offset + ticket.length ∧
          (window.acknowledge ticket outcome).reckoning = window.reckoning.free.moveTo offset ∨
        (window.acknowledge ticket outcome).reckoning =
          (window.reckoning.free.restart offset).moveTo offset) := by
  rw [acknowledge, if_neg (not_not_intro own)]
  dsimp only
  rw [if_neg (not_not_intro current)]
  have reportedEq : Window.reported { window with inFlight := window.inFlight - 1 } ticket outcome =
      window.reported ticket outcome := rfl
  rw [reportedEq]
  cases reported : window.reported ticket outcome with
  | error failure => exact .inl ⟨⟨failure, rfl⟩, rfl⟩
  | ok offset =>
      exact (settle_cases ticket offset { window with inFlight := window.inFlight - 1 }).imp id
        fun ⟨phase, moved⟩ => ⟨offset, rfl, phase, moved⟩

theorem promises_of_goesOn {phase : Phase} (goesOn : phase.GoesOn) (reckoning : Reckoning) :
    phase.Promises reckoning := by
  rcases goesOn with rfl | rfl <;> exact trivial

/-- An acknowledgement frees a place; a new generation starts at the offset that it reports. -/
theorem reckoning_acknowledge (own : ticket.attempt = window.attempt) :
    (∃ acked, (window.acknowledge ticket outcome).reckoning =
      window.reckoning.free.moveTo acked) ∨
    ∃ response offset, outcome = .ok response ∧ response.offset = some offset ∧
      (window.acknowledge ticket outcome).reckoning =
        (window.reckoning.free.restart offset).moveTo offset := by
  by_cases current : ticket.generation = window.generation
  · rcases acknowledge_current outcome own current with
      ⟨-, failed⟩ | ⟨offset, reported, -, ⟨-, reached⟩ | resynced⟩
    · exact .inl ⟨window.acked, failed⟩
    · exact .inl ⟨offset, reached⟩
    · obtain ⟨response, outcomeEq, acknowledged⟩ := reported_eq_ok reported
      have offsetEq := (Upload.acknowledged_eq_ok acknowledged).2.1
      exact .inr ⟨response, offset, outcomeEq, offsetEq, resynced⟩
  · rw [acknowledge_old outcome own current]
    exact .inl ⟨window.acked, rfl⟩

theorem Sound.acknowledge (sound : window.Sound) (ticket : Ticket) :
    (window.acknowledge ticket outcome).Sound := by
  by_cases own : ticket.attempt = window.attempt
  · by_cases current : ticket.generation = window.generation
    · rcases acknowledge_current outcome own current with
        ⟨⟨failure, ended⟩, same⟩ | ⟨offset, reported, goesOn, moved⟩
      · refine ⟨?_, ?_⟩
        · rw [same]
          exact sound.bounded.free
        · rw [ended]
          exact trivial
      · obtain ⟨response, -, acknowledged⟩ := reported_eq_ok reported
        have within : offset ≤ window.reckoning.total :=
          (Upload.acknowledged_eq_ok acknowledged).2.2
        refine ⟨?_, promises_of_goesOn goesOn _⟩
        rcases moved with ⟨-, movedEq⟩ | movedEq
        · rw [movedEq]
          exact sound.bounded.free.moveTo within
        · rw [movedEq]
          exact (sound.bounded.free.restart within).moveTo within
    · rw [acknowledge_old outcome own current]
      exact ⟨sound.bounded.free, trivial⟩
  · rw [acknowledge_foreign outcome own]
    exact sound

end

/-! ## What an upload leaves of its control -/

@[simp]
theorem control_notePause (window : Window) : window.notePause.control = window.control := by
  rw [notePause]
  split_ifs <;> rfl

@[simp]
theorem control_afterIssuing (paused : Bool) (window : Window) :
    (window.afterIssuing paused).control = window.control := by
  rw [afterIssuing]
  split_ifs <;> rfl

@[simp]
theorem control_issue (window : Window) : window.issue.control = window.control := by
  rw [issue]
  split
  · split
    · rfl
    · split <;> rfl
  · simp

@[simp]
theorem control_moveTo (offset : Nat) (window : Window) :
    (window.moveTo offset).control = window.control := by
  rw [moveTo]
  split_ifs <;> rfl

@[simp]
theorem control_settle (ticket : Ticket) (offset : Nat) (window : Window) :
    (window.settle ticket offset).control = window.control := by
  rw [settle]
  split
  · simp
  · dsimp only
    generalize (if offset ≤ window.acked then window.stalls + 1 else 0) = stalls
    split
    · rfl
    · simp [restart]

@[simp]
theorem control_acknowledge (ticket : Ticket) (outcome : Except Error Response)
    (window : Window) : (window.acknowledge ticket outcome).control = window.control := by
  rw [acknowledge]
  split
  · rfl
  · dsimp only
    split
    · rfl
    · split
      · rfl
      · simp

/-! ## Every reply and signal -/

section

variable {window : Window}

theorem reckoning_begin (window : Window) : window.begin.reckoning = window.reckoning := by
  rw [begin]
  split <;> rfl

theorem reckoning_rise (window : Window) : window.rise.reckoning = window.reckoning := by
  rw [rise]
  split
  · rfl
  · split <;> rfl

theorem reckoning_posted (ticket : Ticket) (window : Window) :
    (window.posted ticket).reckoning = window.reckoning.post ticket :=
  rfl

/-- By itself an upload goes on where it is, or starts a new generation at what the device has
acknowledged. -/
theorem reckoning_feed_own {reply : Reply}
    (own : Network.OwnReply (machine.need window) reply) :
    (window.feed reply).reckoning = window.reckoning ∨
      (window.feed reply).reckoning = window.reckoning.restart window.acked := by
  cases own with
  | ready noPost =>
      unfold feed
      split
      · exact .inl window.reckoning_begin
      · exact window.reckoning_turn
      · exact .inl window.reckoning_issue
      · rename_i packet ticket phaseEq _
        exact absurd (need_eq_post_iff.mpr ⟨phaseEq, rfl⟩) (noPost packet .uploadAck ticket)
      · exact .inl window.reckoning_rise
      · rename_i impossible
        cases impossible
      · rename_i impossible
        cases impossible
      · exact .inl rfl
      · exact .inl rfl
  | silence collects =>
      simp only [feed, need_eq_collect_iff.mp collects]
      exact .inl rfl

theorem feed_posting {packet : Bytes} {ticket : Ticket}
    (phaseEq : window.phase = .posting packet ticket) :
    window.feed .ready = window.posted ticket := by
  simp only [feed, phaseEq]

theorem feed_collecting (phaseEq : window.phase = .collecting) (ticket : Ticket)
    (outcome : Except Error Response) :
    window.feed (.acknowledgement ticket outcome) = window.acknowledge ticket outcome := by
  simp only [feed, phaseEq]

theorem feed_ended {result : Except Error Unit} (phaseEq : window.phase = .ended result)
    (reply : Reply) : window.feed reply = window := by
  simp only [feed, phaseEq]

theorem Sound.feed (sound : window.Sound) (reply : Reply) : (window.feed reply).Sound := by
  have promised := sound.promised
  unfold Window.feed
  split
  · refine ⟨by rw [reckoning_begin]; exact sound.bounded, ?_⟩
    rw [begin]
    split <;> exact trivial
  · refine ⟨?_, promises_turn sound⟩
    rcases window.reckoning_turn with same | restarted
    · rw [same]
      exact sound.bounded
    · rw [restarted]
      exact sound.bounded.restart sound.bounded.acked_le
  · rename_i phaseEq
    rw [phaseEq] at promised
    refine ⟨by rw [reckoning_issue]; exact sound.bounded, ?_⟩
    rw [reckoning_issue]
    exact promises_issue promised.1
  · rename_i phaseEq
    rw [phaseEq] at promised
    obtain ⟨short, room, issues⟩ := promised
    exact ⟨sound.bounded.post room issues, short, fun idle => absurd idle (Nat.succ_ne_zero _)⟩
  · rename_i phaseEq
    refine ⟨by rw [reckoning_rise]; exact sound.bounded, ?_⟩
    rw [reckoning_rise, rise]
    split
    · exact promised
    · split <;> exact trivial
  · exact ⟨sound.bounded, trivial⟩
  · exact sound.acknowledge _ _
  · exact ⟨sound.bounded, trivial⟩
  · exact sound

/-- What stays the same during an attempt. -/
def Reckoning.fixed (reckoning : Reckoning) : Upload × Nat × Nat :=
  (reckoning.upload, reckoning.capacity, reckoning.attempt)

theorem fixed_feed (reply : Reply) (window : Window) :
    (window.feed reply).reckoning.fixed = window.reckoning.fixed := by
  unfold feed
  split
  · rw [reckoning_begin]
  · rcases window.reckoning_turn with same | restarted
    · rw [same]
    · rw [restarted]
      rfl
  · rw [reckoning_issue]
  · rfl
  · rw [reckoning_rise]
  · rfl
  · rename_i ticket outcome _
    by_cases own : ticket.attempt = window.attempt
    · rcases reckoning_acknowledge outcome own with ⟨acked, moved⟩ | ⟨_, offset, -, -, resynced⟩
      · rw [moved]
        rfl
      · rw [resynced]
        rfl
    · rw [acknowledge_foreign outcome own]
  · rfl
  · rfl

theorem Sound.signal (sound : window.Sound) (signal : Signal) :
    (window.signal signal).2.Sound :=
  ⟨sound.bounded, sound.promised⟩

end

/-- The upload of three bytes, with a window of two, to a device that holds nothing. -/
def threeBytesStart : Network Window Storage :=
  { state := fresh Storage.threeBytes 2 0 0 {}, device := { held := [] } }

end Window

end SmpClient
