import SmpClient.Proofs.Machine.AtOnce
import SmpClient.Proofs.Transfer.Bounds
import SmpClient.Proofs.Transfer.FirstChunk

/-!
# The course of a transfer that goes one request at a time

A stepwise transfer sends for the offset that it is at, and is then where the answer has put it.  So all
that a run does follows from its sends alone: it ends at the first one that fails, at the first that
completes it, or at the ninth in a row that does not move it, and tells of each one before.
-/

namespace SmpClient

open Network

/-- Stepwise transfers as machines. -/
def Stepwise.machine {τ : Type} (kind : LinkTransfer τ) (seq : τ → UInt8) :
    Machine (Stepwise τ Exchange) Progress (Except Error Unit) where
  need := Stepwise.need kind
  feed := Stepwise.feed kind
  signal := Stepwise.signal
  seq := fun run => seq run.transfer

/-- A transfer and the device that it sends to. -/
structure Drive (τ : Type) where
  kind : LinkTransfer τ
  /-- What comes back for the last of some packets. -/
  answer : List Bytes → Except Error Response
  start : τ

namespace Drive

variable {τ : Type}

/-- Where a transfer is, and all packets that were sent for it. -/
structure Sent (τ : Type) where
  transfer : τ
  packets : List Bytes := []

section

variable (drive : Drive τ)

/-- One send: the chunk at the offset is asked for, and what comes back is taken in. -/
def send (sent : Sent τ) : Except Error Unit × Sent τ :=
  match drive.kind.request (drive.kind.offset sent.transfer) sent.transfer with
  | (.error failure, transfer) => (.error failure, { sent with transfer })
  | (.ok request, transfer) =>
      let packets := sent.packets ++ [request.packet]
      let (result, transfer) := drive.kind.accept request (drive.answer packets) transfer
      (result, { transfer, packets })

/-- What is there after so many sends. -/
def sent : Nat → Sent τ
  | 0 => { transfer := drive.start }
  | count + 1 => (drive.send (sent count)).2

/-- The result of the send that comes after so many. -/
def result (count : Nat) : Except Error Unit :=
  (drive.send (drive.sent count)).1

/-- Where the transfer is after so many sends. -/
def position (count : Nat) : Nat :=
  drive.kind.offset (drive.sent count).transfer

/-- The length, if it is known after so many sends. -/
def length? (count : Nat) : Option Nat :=
  drive.kind.length? (drive.sent count).transfer

/-- The length is known, and reached. -/
def Complete (count : Nat) : Prop :=
  drive.length? count = some (drive.position count)

/-- The last nine sends have left the position as it was. -/
def Stuck (count : Nat) : Prop :=
  9 ≤ count ∧ ∀ back ≤ 9, drive.position (count - back) = drive.position count

instance (count : Nat) : Decidable (drive.Complete count) :=
  inferInstanceAs (Decidable (drive.length? count = some (drive.position count)))

instance (count : Nat) : Decidable (drive.Stuck count) :=
  inferInstanceAs (Decidable (9 ≤ count ∧ ∀ back ≤ 9, drive.position (count - back) = _))

/-- What ends a run after so many sends: it is complete, or the next send fails, or leaves it stuck. -/
def verdict? (count : Nat) : Option (Except Error Unit) :=
  if drive.Complete count then some (.ok ())
  else
    match drive.result count with
    | .error failure => some (.error failure)
    | .ok () =>
        if drive.Stuck (count + 1) then
          some (.error (.malformedResponse (.stuck (drive.position (count + 1)))))
        else none

/-- Nothing has ended the run before so many sends. -/
def GoesOn (count : Nat) : Prop :=
  ∀ earlier < count, drive.verdict? earlier = none

/-- The progress after each of so many sends. -/
def notes (count : Nat) : List Progress :=
  (List.range count).map fun earlier =>
    { current := drive.position (earlier + 1), total := (drive.length? (earlier + 1)).getD 0 }

/-- A run before it begins, with a control that nobody has touched. -/
def beginning : Network (Logged (Stepwise τ Exchange) Progress) (List Bytes) :=
  settled { transfer := drive.start, control := {} } [] [] [] []

/-- How many of the last sends have left the position as it was. -/
def standing : Nat → Nat
  | 0 => 0
  | count + 1 => if drive.position (count + 1) = drive.position count then standing count + 1 else 0

/-- The run when it chooses what to do after so many sends. -/
def choosing (count : Nat) : Stepwise τ Exchange :=
  { transfer := (drive.sent count).transfer, control := { phase := .active },
    stalls := drive.standing count, phase := .choosing }

/-- The network then. -/
def arrived (count : Nat) : Network (Logged (Stepwise τ Exchange) Progress) (List Bytes) :=
  settled (drive.choosing count) (drive.notes count) (drive.sent count).packets [] []

end

variable {drive : Drive τ}

theorem le_standing_iff {least count : Nat} : least ≤ drive.standing count ↔
    least ≤ count ∧ ∀ back ≤ least, drive.position (count - back) = drive.position count := by
  induction count generalizing least with
  | zero => simp [standing]
  | succ count ih =>
      cases least with
      | zero => simp
      | succ least =>
          rw [standing]
          split
          · rename_i same
            rw [Nat.add_le_add_iff_right, ih]
            constructor
            · rintro ⟨least_le, unmoved⟩
              refine ⟨by omega, fun back back_le => ?_⟩
              cases back with
              | zero => rfl
              | succ back => rw [Nat.add_sub_add_right, unmoved back (by omega), same]
            · rintro ⟨least_le, unmoved⟩
              refine ⟨by omega, fun back back_le => ?_⟩
              rw [← same, ← unmoved (back + 1) (by omega), Nat.add_sub_add_right]
          · rename_i moved
            refine ⟨fun impossible => absurd impossible (Nat.not_succ_le_zero _), ?_⟩
            rintro ⟨-, unmoved⟩
            exact absurd (unmoved 1 (by omega)).symm moved

theorem maxStalls_lt_standing_iff {count : Nat} :
    maxStalls < drive.standing count ↔ drive.Stuck count :=
  le_standing_iff

/-! ## From send to send -/

variable {seq : τ → UInt8} {count : Nat}

theorem isFinished_iff : drive.kind.isFinished (drive.sent count).transfer = true ↔
    drive.Complete count := by
  simp only [Transfer.isFinished, Complete, length?, position]
  cases drive.kind.length? (drive.sent count).transfer with
  | none => simp
  | some length => simpa using eq_comm

theorem need_choosing (seq : τ → UInt8) :
    (Stepwise.machine drive.kind seq).need (drive.choosing count) = .step := by
  simp [Stepwise.machine, choosing, Stepwise.need, Stepwise.isBlocked, Control.isPaused]

/-- What a run is to do when the next send has come to its end. -/
def after (drive : Drive τ) (count : Nat) : Stepwise.Phase Exchange :=
  match drive.result count with
  | .error failure => .ended (.error failure)
  | .ok () =>
      if drive.Stuck (count + 1) then
        .ended (.error (.malformedResponse (.stuck (drive.position (count + 1)))))
      else .telling

theorem sent_succ (drive : Drive τ) (count : Nat) :
    drive.sent (count + 1) = (drive.send (drive.sent count)).2 :=
  rfl

/-- A run that is not complete asks for the chunk at its position, or fails to. -/
theorem feed_choosing (incomplete : ¬ drive.Complete count) :
    (Stepwise.machine drive.kind seq).feed .ready (drive.choosing count) =
      match drive.kind.request (drive.position count) (drive.sent count).transfer with
      | (.error failure, transfer) =>
          { drive.choosing count with transfer, phase := .ended (.error failure) }
      | (.ok request, transfer) =>
          { drive.choosing count with transfer, phase := .sending (drive.position count) request } := by
  have unfinished : drive.kind.isFinished (drive.sent count).transfer = false :=
    Bool.eq_false_iff.mpr (mt isFinished_iff.mp incomplete)
  simp only [Stepwise.machine, Stepwise.feed, Stepwise.advance, choosing, unfinished,
    Control.isPaused, Control.isAborted, position]
  cases drive.kind.request (drive.kind.offset (drive.sent count).transfer)
      (drive.sent count).transfer with
  | mk outcome asked => cases outcome <;> rfl

/-- A send that succeeds counts as a stall if it has not moved the transfer. -/
theorem settle_sent (succeeded : drive.result count = .ok ()) (phase : Stepwise.Phase Exchange) :
    Stepwise.settle drive.kind (drive.position count)
        { transfer := (drive.sent (count + 1)).transfer, control := { phase := .active },
          stalls := drive.standing count, phase } =
      { transfer := (drive.sent (count + 1)).transfer, control := { phase := .active },
        stalls := drive.standing (count + 1), phase := drive.after count } := by
  have stallsEq : (if drive.kind.offset (drive.sent (count + 1)).transfer = drive.position count then
      drive.standing count + 1 else 0) = drive.standing (count + 1) := rfl
  simp only [Stepwise.settle, stallsEq, after, succeeded, maxStalls_lt_standing_iff]
  by_cases stuck : drive.Stuck (count + 1)
  · have same : drive.position count = drive.position (count + 1) := stuck.2 1 (by omega)
    simp [stuck, same]
  · simp [stuck]

/-- A run that is not complete sends. -/
theorem comesTo_send (seq : τ → UInt8) (incomplete : ¬ drive.Complete count) :
    ∃ stalls, (drive.arrived count).ComesTo (Stepwise.machine drive.kind seq) drive.answer
        (settled
          { transfer := (drive.sent (count + 1)).transfer, control := { phase := .active }, stalls,
            phase := drive.after count }
          (drive.notes count) (drive.sent (count + 1)).packets [] []) ∧
      (drive.after count = .telling → stalls = drive.standing (count + 1)) := by
  have asks : (drive.arrived count).ComesTo (Stepwise.machine drive.kind seq) drive.answer _ :=
    comesTo_of_step (need_choosing seq)
  rw [feed_choosing incomplete] at asks
  cases requested : drive.kind.request (drive.position count) (drive.sent count).transfer with
  | mk outcome asked =>
      rw [requested] at asks
      cases outcome with
      | error failure =>
          have sendEq : drive.send (drive.sent count) =
              (.error failure, { drive.sent count with transfer := asked }) := by
            rw [position] at requested
            simp only [send, requested]
          have afterEq : drive.after count = .ended (.error failure) := by
            simp only [after, result, sendEq]
          refine ⟨drive.standing count, ?_, by simp [afterEq]⟩
          rw [afterEq, sent_succ, sendEq]
          exact asks
      | ok request =>
          have sends := asks.trans (comesTo_of_exchange rfl)
          cases accepted : drive.kind.accept request
              (drive.answer ((drive.sent count).packets ++ [request.packet])) asked with
          | mk outcome moved =>
              have sendEq : drive.send (drive.sent count) = (outcome,
                  { transfer := moved, packets := (drive.sent count).packets ++ [request.packet] }) := by
                rw [position] at requested
                simp only [send, requested, accepted]
              simp only [Stepwise.machine, Stepwise.feed, Stepwise.answer, accepted, choosing] at sends
              cases outcome with
              | error failure =>
                  have afterEq : drive.after count = .ended (.error failure) := by
                    simp only [after, result, sendEq]
                  refine ⟨drive.standing count, ?_, by simp [afterEq]⟩
                  rw [afterEq, sent_succ, sendEq]
                  exact sends
              | ok =>
                  have succeeded : drive.result count = .ok () := by simp only [result, sendEq]
                  have transferEq : (drive.sent (count + 1)).transfer = moved := by
                    rw [sent_succ, sendEq]
                  have packetsEq : (drive.sent (count + 1)).packets =
                      (drive.sent count).packets ++ [request.packet] := by
                    rw [sent_succ, sendEq]
                  refine ⟨drive.standing (count + 1), ?_, fun _ => rfl⟩
                  rw [← settle_sent succeeded (.sending (drive.position count) request), transferEq,
                    packetsEq]
                  exact sends

theorem after_of_verdict? (incomplete : ¬ drive.Complete count) :
    drive.after count =
      match drive.verdict? count with
      | some result => .ended result
      | none => .telling := by
  simp only [after, verdict?, if_neg incomplete]
  cases drive.result count with
  | error failure => rfl
  | ok =>
      dsimp only
      split <;> rfl

theorem notes_succ (drive : Drive τ) (count : Nat) : drive.notes (count + 1) =
    drive.notes count ++
      [{ current := drive.position (count + 1), total := (drive.length? (count + 1)).getD 0 }] := by
  simp [notes, List.range_succ]

theorem comesTo_next (undecided : drive.verdict? count = none) :
    (drive.arrived count).ComesTo (Stepwise.machine drive.kind seq) drive.answer
      (drive.arrived (count + 1)) := by
  have incomplete : ¬ drive.Complete count := by
    intro complete
    simp [verdict?, complete] at undecided
  have afterEq : drive.after count = .telling := by
    rw [after_of_verdict? incomplete, undecided]
  obtain ⟨stalls, sends, stallsEq⟩ := comesTo_send seq incomplete
  rw [stallsEq afterEq, afterEq] at sends
  have tells := sends.trans (comesTo_of_tell rfl)
  simp only [arrived, notes_succ] at tells ⊢
  exact tells

/-! ## The end -/

/-- A run that has ended after so many sends that went well: what it has told and sent, and how it
leaves its control. -/
structure Ended (drive : Drive τ) (seq : τ → UInt8) (count : Nat) (result : Except Error Unit)
    (network : Network (Logged (Stepwise τ Exchange) Progress) (List Bytes)) : Prop where
  finished : (Stepwise.machine drive.kind seq).need network.state.state = .finished result
  told : network.state.told = drive.notes count
  /-- The send that fails, or leaves the transfer stuck, is one more. -/
  sent : network.device =
    match result with
    | .ok () => (drive.sent count).packets
    | .error _ => (drive.sent (count + 1)).packets
  closed : network.state.state.control.phase = .closed ↔ result = .ok ()
  /-- A second attempt can begin. -/
  restarts : ∀ failure, result = .error failure →
    network.state.state.control.start = .ok network.state.state.control

theorem comesTo_end (seq : τ → UInt8) {result : Except Error Unit}
    (decided : drive.verdict? count = some result) :
    ∃ finish, (drive.arrived count).ComesTo (Stepwise.machine drive.kind seq) drive.answer finish ∧
      drive.Ended seq count result finish := by
  by_cases complete : drive.Complete count
  · obtain rfl : .ok () = result := by simpa [verdict?, complete] using decided
    have finished := isFinished_iff.mpr complete
    have ends : (drive.arrived count).ComesTo (Stepwise.machine drive.kind seq) drive.answer _ :=
      comesTo_of_step (need_choosing seq)
    simp only [Stepwise.machine, Stepwise.feed, Stepwise.advance, choosing, finished, if_true] at ends
    exact ⟨_, ends, rfl, rfl, rfl, by simp [settled, Control.close], by simp⟩
  · obtain ⟨failure, rfl⟩ : ∃ failure, result = .error failure := by
      simp only [verdict?, if_neg complete] at decided
      split at decided
      · exact ⟨_, (Option.some.inj decided).symm⟩
      · split at decided
        · exact ⟨_, (Option.some.inj decided).symm⟩
        · cases decided
    obtain ⟨stalls, sends, -⟩ := comesTo_send seq complete
    rw [after_of_verdict? complete, decided] at sends
    exact ⟨_, sends, rfl, rfl, rfl, by simp [settled], fun _ _ => rfl⟩

theorem comesTo_arrived (goesOn : drive.GoesOn count) :
    drive.beginning.ComesTo (Stepwise.machine drive.kind seq) drive.answer (drive.arrived count) := by
  induction count with
  | zero => exact comesTo_of_step rfl
  | succ count ih =>
      have earlier : drive.GoesOn count := fun before lt => goesOn before (Nat.lt_succ_of_lt lt)
      exact (ih earlier).trans (comesTo_next (goesOn count (Nat.lt_succ_self count)))

/-- A run that has finished has ended as the first send says that decides. -/
theorem ended_of_finished {finish : Network (Logged (Stepwise τ Exchange) Progress) (List Bytes)}
    {result : Except Error Unit}
    (comes : drive.beginning.ComesTo (Stepwise.machine drive.kind seq) drive.answer finish)
    (needEq : (Stepwise.machine drive.kind seq).need finish.state.state = .finished result) :
    ∃ count, drive.GoesOn count ∧ drive.verdict? count = some result ∧
      drive.Ended seq count result finish := by
  by_cases decides : ∃ count, drive.verdict? count ≠ none
  · have goesOn : drive.GoesOn (Nat.find decides) := fun earlier lt =>
      not_not.mp (Nat.find_min decides lt)
    obtain ⟨verdict, decided⟩ := Option.ne_none_iff_exists'.mp (Nat.find_spec decides)
    obtain ⟨other, otherComes, ended⟩ := comesTo_end seq decided
    have same : finish = other :=
      eq_of_finished comes ((comesTo_arrived goesOn).trans otherComes) needEq ended.finished
    subst same
    obtain rfl : verdict = result := Need.finished.inj (ended.finished.symm.trans needEq)
    exact ⟨_, goesOn, decided, ended⟩
  · -- A run that goes on for ever has told more than this one.
    have goesOn : drive.GoesOn (finish.state.told.length + 1) := fun earlier _ =>
      not_not.mp (not_exists.mp decides earlier)
    rcases comes.total (comesTo_arrived goesOn) with later | earlier
    · have same := later.eq_of_finished needEq
      rw [← same] at needEq
      exact nomatch (need_choosing seq).symm.trans needEq
    · have longer := (told_isPrefix_of_comesTo earlier).length_le
      simp [arrived, settled, notes] at longer

/-! ## Uploads and downloads -/

/-- A kind of transfer that knows its length when a send has gone well, and keeps to it. -/
structure Steady (kind : LinkTransfer τ) : Prop where
  asked : ∀ state, kind.length? (kind.request (kind.offset state) state).2 = kind.length? state
  accepted : ∀ request outcome before after,
    kind.accept request outcome before = (.ok (), after) →
      ∃ length, kind.length? after = some length ∧
        ∀ known, kind.length? before = some known → known = length

theorem Steady.length?_succ (steady : Steady drive.kind) (succeeded : drive.result count = .ok ()) :
    ∃ length, drive.length? (count + 1) = some length ∧
      ∀ known, drive.length? count = some known → known = length := by
  have asked := steady.asked (drive.sent count).transfer
  simp only [length?, sent_succ, ← asked]
  rw [result] at succeeded
  simp only [send] at succeeded ⊢
  cases requested : drive.kind.request (drive.kind.offset (drive.sent count).transfer)
      (drive.sent count).transfer with
  | mk outcome asked =>
      cases outcome with
      | error failure => simp [requested] at succeeded
      | ok request =>
          rw [requested] at succeeded
          simp only at succeeded ⊢
          exact steady.accepted request _ asked _ (Prod.ext succeeded rfl)

theorem of_verdict?_eq_none (undecided : drive.verdict? count = none) :
    ¬ drive.Complete count ∧ drive.result count = .ok () := by
  rw [verdict?] at undecided
  split at undecided
  · cases undecided
  · rename_i incomplete
    refine ⟨incomplete, ?_⟩
    cases resultEq : drive.result count with
    | error failure =>
        rw [resultEq] at undecided
        cases undecided
    | ok => rfl

/-- What a run does, by what its sends do. -/
structure Follows (drive : Drive τ) (seq : τ → UInt8) : Prop where
  starts : drive.position 0 = 0
  /-- The length that is told of is known. -/
  known : ∀ count, drive.GoesOn (count + 1) → ∃ length, drive.length? (count + 1) = some length
  /-- The send that completes a transfer does not leave it stuck. -/
  prompt : ∀ count, drive.GoesOn count → ¬ drive.Complete count → drive.Complete (count + 1) →
    drive.result count = .ok () → drive.verdict? count = none
  /-- As long as nothing has ended it a run makes the sends, and tells of each. -/
  goesOn : ∀ count, drive.GoesOn count →
    drive.beginning.ComesTo (Stepwise.machine drive.kind seq) drive.answer (drive.arrived count)
  ends : ∀ count result, drive.GoesOn count → drive.verdict? count = some result →
    ∃ finish, drive.beginning.ComesTo (Stepwise.machine drive.kind seq) drive.answer finish ∧
      drive.Ended seq count result finish
  /-- Nothing else ends a run. -/
  ended : ∀ finish result,
    drive.beginning.ComesTo (Stepwise.machine drive.kind seq) drive.answer finish →
      (Stepwise.machine drive.kind seq).need finish.state.state = .finished result →
        ∃ count, drive.GoesOn count ∧ drive.verdict? count = some result ∧
          drive.Ended seq count result finish

theorem follows_of_steady (steady : Steady drive.kind) (starts : drive.position 0 = 0) :
    drive.Follows seq where
  starts := starts
  known count goesOn := by
    have undecided := goesOn count (Nat.lt_succ_self count)
    obtain ⟨length, known, -⟩ := steady.length?_succ (of_verdict?_eq_none undecided).2
    exact ⟨length, known⟩
  prompt count goesOn incomplete complete succeeded := by
    rw [verdict?, if_neg incomplete, succeeded]
    refine if_neg fun stuck => ?_
    -- A send before this one went well too, so the length was known, and reached.
    obtain ⟨before, rfl⟩ : ∃ before, count = before + 1 := ⟨count - 1, by have := stuck.1; omega⟩
    have undecided := goesOn before (Nat.lt_succ_self before)
    obtain ⟨length, known, -⟩ := steady.length?_succ (of_verdict?_eq_none undecided).2
    obtain ⟨later, laterKnown, kept⟩ := steady.length?_succ succeeded
    obtain rfl := kept length known
    have unmoved : drive.position (before + 1) = drive.position (before + 1 + 1) :=
      stuck.2 1 (by omega)
    have reached : length = drive.position (before + 1 + 1) :=
      Option.some.inj (laterKnown.symm.trans complete)
    exact incomplete (known.trans (congrArg some (reached.trans unmoved.symm)))
  goesOn _ goesOn := comesTo_arrived goesOn
  ends _ _ goesOn decided :=
    let ⟨finish, comes, ended⟩ := comesTo_end seq decided
    ⟨finish, (comesTo_arrived goesOn).trans comes, ended⟩
  ended _ _ comes needEq := ended_of_finished comes needEq

end Drive

theorem SingleUpload.steady : Drive.Steady SingleUpload.transfer where
  asked _ := rfl
  accepted request outcome before after accepted := by
    have uploadEq := upload_accept accepted
    refine ⟨before.upload.data.length, ?_, fun _ known => (Option.some.inj known).symm⟩
    rw [← uploadEq]
    rfl

theorem Download.steady : Drive.Steady Download.transfer where
  asked _ := rfl
  accepted request outcome before after accepted := by
    rcases accept_cases request outcome before with ⟨failure, -, failed⟩ | ⟨chunk, -, stored⟩
    · cases failed.symm.trans accepted
    · rw [accepted] at stored
      cases stored with
      | placed opens takes =>
          refine ⟨_, rfl, fun known knownEq => ?_⟩
          rw [takes.length_eq]
          rcases opens with bufferEq | ⟨bufferEq, -⟩
          · simpa [Download.transfer, bufferEq] using knownEq.symm
          · simp [Download.transfer, bufferEq] at knownEq

/-- A run of an upload or a download with a fresh control, without signals, sends for every position
that the device moves it to, in turn.  It ends well as soon as the length is known and reached; else with
the error of the first send that fails, or as stuck after the ninth in a row that did not move it.  It
tells of every send before, and closes its control only if it ends well. -/
theorem Stepwise.follows_device (answer : List Bytes → Except Error Response) :
    (∀ upload seq, Drive.Follows
      { kind := SingleUpload.transfer, answer, start := { upload, seq } } SingleUpload.seq) ∧
    ∀ scheme path seq, Drive.Follows
      { kind := Download.transfer, answer, start := { scheme, path, seq } } Download.seq :=
  ⟨fun _ _ => Drive.follows_of_steady SingleUpload.steady rfl,
    fun _ _ _ => Drive.follows_of_steady Download.steady rfl⟩

open Storage (threeBytes acknowledgement)

/-- Three bytes for a device that answers every chunk, and takes none. -/
def Drive.unmoved : Drive SingleUpload :=
  { kind := SingleUpload.transfer
    answer := fun sent => acknowledgement (UInt8.ofNat (2 * sent.length - 1)) 0
    start := { upload := threeBytes, seq := 0 } }

example : Drive.unmoved.Stuck 9 ∧ (∀ count < 8, (Drive.unmoved.verdict? count).isNone) ∧
    (Drive.unmoved.verdict? 8).any fun result => !result.isOk := by
  decide +kernel

end SmpClient
