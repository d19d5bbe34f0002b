import SmpClient.Proofs.Machine.Rounds
import SmpClient.Proofs.Transfer.Agreement
import SmpClient.Proofs.Transfer.Cancellation

/-!
# Devices that do not move backwards

A device may acknowledge the same offset again and again, or jump ahead, without ever going back
behind an offset that it has acknowledged.  An upload bears eight such repetitions in a row, so that
nine requests for each byte and nine more are all that a plain upload sends.
-/

namespace SmpClient

open Network

namespace Upload

variable {upload : Upload} {answer : List Bytes → Except Error Response} {sent : List Bytes}

/-- What comes back for a chunk makes the upload move to an offset. -/
def Confirms (upload : Upload) (outcome : Except Error Response) (offset : Nat) : Prop :=
  ∃ response, outcome = .ok response ∧ upload.acknowledged response = .ok offset

/-- From now on the device does not acknowledge less than it has acknowledged from now on. -/
def Advancing (upload : Upload) (answer : List Bytes → Except Error Response)
    (sent : List Bytes) : Prop :=
  ∀ earlier later first second, earlier ≠ [] → earlier <+: later →
    upload.Confirms (answer (sent ++ earlier)) first →
    upload.Confirms (answer (sent ++ later)) second → first ≤ second

theorem Advancing.append (advancing : upload.Advancing answer sent) (more : List Bytes) :
    upload.Advancing answer (sent ++ more) := by
  intro earlier later first second nonempty isPrefix
  rw [List.append_assoc, List.append_assoc]
  apply advancing
  · simp [nonempty]
  · exact (List.prefix_append_right_inj more).mpr isPrefix

/-- Outcomes that are still to be taken in, and the answers after them, confirm no less than `floor`
and no less than one another in turn. -/
def Rising (upload : Upload) (answer : List Bytes → Except Error Response) (sent : List Bytes) :
    (floor : Nat) → List (Except Error Response) → Prop
  | floor, [] => ∀ more offset, more ≠ [] → upload.Confirms (answer (sent ++ more)) offset →
      floor ≤ offset
  | floor, outcome :: outcomes => Rising upload answer sent floor outcomes ∧
      ∀ offset, upload.Confirms outcome offset →
        floor ≤ offset ∧ Rising upload answer sent offset outcomes

theorem rising_zero (upload : Upload) (answer : List Bytes → Except Error Response)
    (sent : List Bytes) : upload.Rising answer sent 0 [] := by
  intro more offset nonempty confirms
  exact Nat.zero_le offset

/-- The answer to one more packet comes after all others. -/
theorem Rising.concat {floor : Nat} {outcomes : List (Except Error Response)}
    (rising : upload.Rising answer sent floor outcomes) (advancing : upload.Advancing answer sent)
    (packet : Bytes) :
    upload.Rising answer (sent ++ [packet]) floor (outcomes ++ [answer (sent ++ [packet])]) := by
  induction outcomes generalizing floor with
  | nil =>
      constructor
      · intro more offset _ confirms
        rw [List.append_assoc] at confirms
        exact rising _ offset (by simp) confirms
      · intro offset confirms
        constructor
        · exact rising [packet] offset (by simp) confirms
        · intro more later _ confirmsLater
          rw [List.append_assoc] at confirmsLater
          exact advancing [packet] _ offset later (by simp) ⟨more, rfl⟩ confirms confirmsLater
  | cons outcome outcomes ih =>
      constructor
      · exact ih rising.1
      · intro offset confirms
        obtain ⟨above, risingAbove⟩ := rising.2 offset confirms
        exact ⟨above, ih risingAbove⟩

end Upload

theorem Control.unpaused_signal {signal : Signal} {control : Control} (other : signal ≠ .pause)
    (unpaused : control.phase ≠ .paused) : (control.signal signal).2.phase ≠ .paused := by
  obtain ⟨phase, canceled⟩ := control
  cases signal <;> cases phase <;>
    simp_all [Control.signal, Control.resume, Control.cancel]

theorem Control.close_ne_paused (control : Control) : control.close.phase ≠ .paused := by
  simp [Control.close]

theorem Control.active_or_canceled_signal {signal : Signal} {control : Control}
    (other : signal ≠ .pause) (active : control.phase = .active) :
    (control.signal signal).2.phase = .active ∨ (control.signal signal).2.canceled = true := by
  obtain ⟨phase, canceled⟩ := control
  cases active
  cases signal
  · exact absurd rfl other
  · exact .inl rfl
  · exact .inr rfl
  · exact .inl rfl

theorem Control.active_of_start {control started : Control} (unpaused : control.phase ≠ .paused)
    (startEq : control.start = .ok started) : started.phase = .active := by
  obtain ⟨phase, canceled⟩ := control
  cases phase
  · cases startEq
    rfl
  · cases startEq
    rfl
  · exact absurd rfl unpaused
  · simp only [Control.start] at startEq
    split at startEq <;> cases startEq

/-- An attempt of an upload that is not paused and has not used up its requests. -/
structure UploadEngine.Within {σ : Type} (upload : Upload) (attempt limit : Nat)
    (engine : UploadEngine) (network : Network σ (List Bytes)) : Prop where
  upload_eq : engine.upload = upload
  unpaused : engine.control.phase ≠ .paused
  answered_le : ∀ answered ∈ network.answered, answered.ticket.attempt ≤ attempt
  length_le : network.device.length ≤ limit

namespace SingleUpload

/-- The steps that are left at most until the next request. -/
def rank (phase : Stepwise.Phase Exchange) : Nat :=
  match phase with
  | .starting | .telling => 3
  | .choosing => 2
  | .sending _ _ => 1
  | .ended _ => 0

variable {upload : Upload} {answer : List Bytes → Except Error Response} {attempt start : Nat}
  {network : Network (Stepwise SingleUpload Exchange) (List Bytes)}

/-- A plain upload on its way that began after `start` packets. -/
structure Advances (upload : Upload) (answer : List Bytes → Except Error Response) (start : Nat)
    (network : Network (Stepwise SingleUpload Exchange) (List Bytes)) : Prop where
  offset_le : network.state.transfer.offset ≤ upload.data.length
  sending_eq : ∀ offset request, network.state.phase = .sending offset request →
    offset = network.state.transfer.offset
  stalls_le : network.state.stalls ≤ maxStalls
  advancing : upload.Advancing answer network.device
  rising : upload.Rising answer network.device network.state.transfer.offset []
  spent : network.device.length ≤
    start + (9 * network.state.transfer.offset + network.state.stalls)

/-- The requests that have been sent when a plain upload has ended, at most. -/
def limit (upload : Upload) (start : Nat) : Nat :=
  start + 9 * (upload.data.length + 1)

/-- A plain upload that has ended, or has so many steps to go at most. -/
def Nearing (upload : Upload) (answer : List Bytes → Except Error Response) (attempt start : Nat)
    (left : Nat) (network : Network (Stepwise SingleUpload Exchange) (List Bytes)) : Prop :=
  UploadEngine.Within upload attempt (limit upload start) (.single network.state) network ∧
    ((∃ result, network.state.phase = .ended result) ∨
      Advances upload answer start network ∧
        3 * (limit upload start - network.device.length) + rank network.state.phase ≤ left)

theorem Advances.length_lt (advances : Advances upload answer start network) :
    network.device.length < limit upload start := by
  have offset_le := advances.offset_le
  have stalls_le := advances.stalls_le
  have spent := advances.spent
  rw [maxStalls] at stalls_le
  rw [limit]
  omega

theorem nearing_of_ended {left : Nat} {result : Except Error Unit}
    (within : UploadEngine.Within upload attempt (limit upload start) (.single network.state)
      network)
    (phaseEq : network.state.phase = .ended result) :
    Nearing upload answer attempt start left network :=
  ⟨within, .inl ⟨result, phaseEq⟩⟩

section

variable {left : Nat}
  (within : UploadEngine.Within upload attempt (limit upload start) (.single network.state) network)
  (advances : Advances upload answer start network)
  (enough : 3 * (limit upload start - network.device.length) + rank network.state.phase ≤ left)

include within advances enough

theorem nearing_starting (phaseEq : network.state.phase = .starting) :
    ∃ fewer < left, Nearing upload answer attempt start fewer
      (network.plainStep machine answer) := by
  have stepEq : network.plainStep machine answer =
      { network with state := network.state.advance transfer } := by
    simp [plainStep, machine, Stepwise.need, Stepwise.feed, phaseEq]
  obtain ⟨uploadEq, unpaused, answered_le, length_le⟩ := within
  rw [phaseEq, rank] at enough
  refine ⟨left - 1, by omega, ?_⟩
  rw [stepEq, Stepwise.advance, phaseEq]
  dsimp only
  cases started : network.state.control.start with
  | error failure => exact nearing_of_ended ⟨uploadEq, unpaused, answered_le, length_le⟩ rfl
  | ok control =>
      have active := Control.active_of_start unpaused started
      have stillUnpaused : control.phase ≠ .paused := by
        rw [active]
        decide
      refine ⟨⟨uploadEq, stillUnpaused, answered_le, length_le⟩, .inr ⟨?_, ?_⟩⟩
      · exact { advances with sending_eq := by simp }
      · dsimp only [rank]
        omega

theorem nearing_telling (phaseEq : network.state.phase = .telling) :
    ∃ fewer < left, Nearing upload answer attempt start fewer
      (network.plainStep machine answer) := by
  have stepEq : network.plainStep machine answer =
      { network with state := { network.state with phase := .choosing } } := by
    simp [plainStep, machine, Stepwise.need, Stepwise.feed, Stepwise.advance, phaseEq]
  obtain ⟨uploadEq, unpaused, answered_le, length_le⟩ := within
  rw [phaseEq, rank] at enough
  refine ⟨left - 1, by omega, ?_⟩
  rw [stepEq]
  refine ⟨⟨uploadEq, unpaused, answered_le, length_le⟩, .inr ⟨?_, ?_⟩⟩
  · exact { advances with sending_eq := by simp }
  · dsimp only [rank]
    omega

theorem nearing_choosing (phaseEq : network.state.phase = .choosing) :
    ∃ fewer < left, Nearing upload answer attempt start fewer
      (network.plainStep machine answer) := by
  have stepEq : network.plainStep machine answer =
      { network with state := network.state.advance transfer } := by
    cases blocked : Stepwise.isBlocked transfer network.state <;>
      simp [plainStep, machine, Stepwise.need, Stepwise.feed, phaseEq, blocked]
  obtain ⟨uploadEq, unpaused, answered_le, length_le⟩ := within
  have unpaused : network.state.control.phase ≠ .paused := unpaused
  have unblocked : ¬ network.state.control.isPaused = true := by
    simpa [Control.isPaused] using unpaused
  rw [phaseEq, rank] at enough
  refine ⟨left - 1, by omega, ?_⟩
  simp only [stepEq, Stepwise.advance, phaseEq, if_neg unblocked]
  split
  · have closed := network.state.control.close_ne_paused
    exact nearing_of_ended ⟨uploadEq, closed, answered_le, length_le⟩ rfl
  · split
    · exact nearing_of_ended ⟨uploadEq, unpaused, answered_le, length_le⟩ rfl
    · cases requested : transfer.request (transfer.offset network.state.transfer)
        network.state.transfer with
      | mk result after =>
          cases result with
          | error failure =>
              obtain ⟨seq, rfl⟩ := request_eq_error requested
              exact nearing_of_ended ⟨uploadEq, unpaused, answered_le, length_le⟩ rfl
          | ok request =>
              obtain ⟨⟨seq, rfl⟩, -⟩ := request_eq_ok requested
              refine ⟨⟨uploadEq, unpaused, answered_le, length_le⟩, .inr ⟨?_, ?_⟩⟩
              · refine { advances with sending_eq := ?_ }
                rintro offset sent ⟨⟩
                rfl
              · dsimp only [rank]
                omega

/-- The device answers: the upload fails, moves ahead or counts a stall. -/
theorem nearing_sending {offset : Nat} {request : Exchange}
    (phaseEq : network.state.phase = .sending offset request) :
    ∃ fewer < left, Nearing upload answer attempt start fewer
      (network.plainStep machine answer) := by
  have stepEq : network.plainStep machine answer =
      { network with
        state := network.state.answer transfer (answer (network.device ++ [request.packet]))
        device := network.device ++ [request.packet] } := by
    simp [plainStep, machine, Stepwise.need, Stepwise.feed, phaseEq]
  have offsetEq := advances.sending_eq offset request phaseEq
  have length_lt := advances.length_lt
  obtain ⟨uploadEq, unpaused, answered_le, length_le⟩ := within
  have uploadEq : network.state.transfer.upload = upload := uploadEq
  have sent_le : (network.device ++ [request.packet]).length ≤ limit upload start := by
    rw [List.length_append, List.length_singleton]
    exact length_lt
  rw [phaseEq, rank] at enough
  refine ⟨left - 1, by omega, ?_⟩
  rw [stepEq, Stepwise.answer, phaseEq]
  dsimp only [transfer, accept]
  cases acknowledged : network.state.transfer.acknowledged request
    (answer (network.device ++ [request.packet])) with
  | error failure => exact nearing_of_ended ⟨uploadEq, unpaused, answered_le, sent_le⟩ rfl
  | ok reached =>
      obtain ⟨response, answerEq, acknowledgedEq⟩ := acknowledged_eq_ok acknowledged
      rw [uploadEq] at acknowledgedEq
      obtain ⟨-, -, reached_le⟩ := Upload.acknowledged_eq_ok acknowledgedEq
      have risen := advances.rising.concat advances.advancing request.packet
      obtain ⟨reached_ge, rising⟩ := risen.2 reached ⟨response, answerEq, acknowledgedEq⟩
      have spent := advances.spent
      have stalls_le := advances.stalls_le
      rw [maxStalls] at stalls_le
      dsimp only [Stepwise.settle]
      -- a byte of progress pays for the request and for the eight stalls that it forgets
      have counted : 9 * network.state.transfer.offset + network.state.stalls + 1 ≤
          9 * reached + if reached = offset then network.state.stalls + 1 else 0 := by
        split <;> omega
      generalize (if reached = offset then network.state.stalls + 1 else 0) = stalls at counted ⊢
      split
      · exact nearing_of_ended ⟨uploadEq, unpaused, answered_le, sent_le⟩ rfl
      · split
        · exact nearing_of_ended ⟨uploadEq, unpaused, answered_le, sent_le⟩ rfl
        · rename_i bearable
          refine ⟨⟨uploadEq, unpaused, answered_le, sent_le⟩, .inr ⟨?_, ?_⟩⟩
          · refine ⟨reached_le, by simp, Nat.le_of_not_lt bearable, advances.advancing.append _,
              rising, ?_⟩
            simp only [List.length_append, List.length_singleton]
            omega
          · simp only [rank, List.length_append, List.length_singleton]
            omega

end

/-- Whatever its owner does but pausing, a plain upload nears its end with every step. -/
theorem nears (upload : Upload) (answer : List Bytes → Except Error Response)
    (attempt start : Nat) :
    Nears machine answer (Nearing upload answer attempt start)
      fun run => ∃ result, run.phase = .ended result where
  signaled := by
    rintro signal left network other ⟨within, ended | ⟨advances, enough⟩⟩
    · exact ⟨{ within with unpaused := Control.unpaused_signal other within.unpaused }, .inl ended⟩
    · exact ⟨{ within with unpaused := Control.unpaused_signal other within.unpaused },
        .inr ⟨{ advances with }, enough⟩⟩
  done_of_signal signal run ended := ended
  stepped := by
    rintro left network ⟨within, ended | ⟨advances, enough⟩⟩ undone
    · exact absurd ended undone
    · cases phaseEq : network.state.phase with
      | starting => exact nearing_starting within advances enough phaseEq
      | choosing => exact nearing_choosing within advances enough phaseEq
      | sending offset request => exact nearing_sending within advances enough phaseEq
      | telling => exact nearing_telling within advances enough phaseEq
      | ended result => exact absurd ⟨result, phaseEq⟩ undone

theorem nearing_fresh {upload : Upload} (seq : UInt8) {control : Control}
    (unpaused : control.phase ≠ .paused) {answer : List Bytes → Except Error Response}
    {sent : List Bytes} (advancing : upload.Advancing answer sent) {ready : List Answered}
    (answered_le : ∀ answered ∈ ready, answered.ticket.attempt ≤ attempt)
    (issued : List Ticket) :
    Nearing upload answer attempt sent.length (27 * (upload.data.length + 1) + 3)
      { state := fresh upload seq control, device := sent, answered := ready, issued } := by
  refine ⟨⟨rfl, unpaused, answered_le, ?_⟩, .inr ⟨?_, ?_⟩⟩
  · exact Nat.le_add_right _ _
  · exact ⟨Nat.zero_le _, nofun, Nat.zero_le _, advancing,
      upload.rising_zero answer sent, Nat.le_add_right _ _⟩
  · simp only [limit, fresh, rank]
    omega

end SingleUpload

end SmpClient
