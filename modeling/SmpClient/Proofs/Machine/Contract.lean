import SmpClient.Proofs.Machine.Network
import SmpClient.Proofs.Machine.OpenLink

/-!
# Machines and devices that rely on each other

A machine that sends only packets of some kind as long as it gets only answers of some kind, and a
device that gives such answers to such packets, do so after every schedule, however long packets and
answers have been on their way.
-/

namespace SmpClient

namespace Network

variable {σ δ χ ν ρ : Type} {machine : Machine σ ν ρ} {conduct : Conduct δ χ}

/-- The choice that a move leaves to the device. -/
def Move.choice? : Move χ → Option χ
  | .exchange choice | .process _ choice => some choice
  | .advance | .collect _ | .signal _ => none

/-- What the machine, the packets on their way, the device and the answers on their way keep to, each
on its own. -/
structure Keeps (ready : σ → Prop) (allowed : Bytes → Prop) (sound : δ → Prop)
    (possible : Except Error Response → Prop) (network : Network σ δ) : Prop where
  ready : ready network.state
  allowed : ∀ posted ∈ network.posted, allowed posted.packet
  sound : sound network.device
  possible : ∀ answered ∈ network.answered, possible answered.outcome

variable {ready : σ → Prop} {allowed : Bytes → Prop} {sound : δ → Prop}
  {possible : Except Error Response → Prop}

/-- Machine and device keep to what they rely on, as long as the device is `expected`: which it was
before, if it is so after a packet. -/
theorem keeps_run {start : Network σ δ} (initially : start.Keeps ready allowed sound possible)
    (admitted : χ → Prop) (expected : δ → Prop)
    (fed : ∀ reply state, (∀ outcome ∈ reply.outcome?, possible outcome) → ready state →
      ready (machine.feed reply state))
    (signaled : ∀ signal state, ready state → ready (machine.signal signal state).2)
    (hands : ∀ state packet, ready state → (machine.need state).packet? = some packet →
      allowed packet)
    (expected_before : ∀ choice packet before outcome after,
      conduct choice packet before = some (outcome, after) → expected after → expected before)
    (received : ∀ choice packet before outcome after, admitted choice → allowed packet →
      sound before → conduct choice packet before = some (outcome, after) → expected after →
      sound after ∧ possible outcome)
    (schedule : List (Move χ))
    (moves : ∀ move ∈ schedule, ∀ choice ∈ move.choice?, admitted choice) :
    expected (start.run machine conduct schedule).device →
      (start.run machine conduct schedule).Keeps ready allowed sound possible := by
  refine run_invariant_of_forall
    (fun network => expected network.device → network.Keeps ready allowed sound possible)
    (fun _ => initially) (fun move => ∀ choice ∈ move.choice?, admitted choice) ?_ schedule moves
  intro before move after admits effect keeps
  cases effect with
  | none => exact keeps
  | fed own =>
      intro holds
      have keeps := keeps holds
      refine { keeps with ready := fed _ _ ?_ keeps.ready }
      cases own <;> simp [Reply.outcome?]
  | posted needEq =>
      intro holds
      have keeps := keeps holds
      refine
        { keeps with
          ready := fed _ _ (by simp [Reply.outcome?]) keeps.ready
          allowed := fun posted member => ?_ }
      rcases List.mem_append.mp member with earlier | last
      · exact keeps.allowed posted earlier
      · rw [List.mem_singleton.mp last]
        exact hands _ _ keeps.ready (by rw [needEq]; rfl)
  | exchanged needEq conducted =>
      intro holds
      have keeps := keeps (expected_before _ _ _ _ _ conducted holds)
      have allowedNow := hands _ _ keeps.ready (by rw [needEq]; rfl)
      obtain ⟨soundAfter, given⟩ :=
        received _ _ _ _ _ (admits _ rfl) allowedNow keeps.sound conducted holds
      exact
        { keeps with
          ready := fed _ _ (by simpa [Reply.outcome?] using given) keeps.ready
          sound := soundAfter }
  | processed postedEq conducted =>
      intro holds
      have keeps := keeps (expected_before _ _ _ _ _ conducted holds)
      have allowedNow := keeps.allowed _ (List.mem_of_getElem? postedEq)
      obtain ⟨soundAfter, given⟩ :=
        received _ _ _ _ _ (admits _ rfl) allowedNow keeps.sound conducted holds
      refine
        { ready := keeps.ready
          allowed := fun posted member => keeps.allowed posted (List.mem_of_mem_eraseIdx member)
          sound := soundAfter
          possible := fun answered member => ?_ }
      rcases List.mem_append.mp member with earlier | last
      · exact keeps.possible answered earlier
      · rw [List.mem_singleton.mp last]
        exact given
  | collected needEq answeredEq =>
      intro holds
      have keeps := keeps holds
      have given := keeps.possible _ (List.mem_of_getElem? answeredEq)
      exact
        { keeps with
          ready := fed _ _ (by simpa [Reply.outcome?] using given) keeps.ready
          possible := fun answered member =>
            keeps.possible answered (List.mem_of_mem_eraseIdx member) }
  | signaled =>
      intro holds
      have keeps := keeps holds
      exact { keeps with ready := signaled _ _ keeps.ready }

end Network

end SmpClient
