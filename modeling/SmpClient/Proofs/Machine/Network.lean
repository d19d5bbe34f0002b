import SmpClient.Machine.Basic
import Mathlib.Data.List.Induction

/-!
# Machines on a network

A machine meets its device over a network.  Packets that are sent ahead lie there until the device
processes them, and what comes back for them lies there until the machine collects it.  Which
packet is processed next and which acknowledgement comes next, how far the machine gets meanwhile
and when its owner signals is all left to a schedule, so that what holds after every schedule
holds for every order of these events.
-/

namespace SmpClient

/-- How a device conducts itself: what comes back for a packet, and what becomes of the device.
Where it has a choice of type `χ` the schedule makes it; none if the device never does so. -/
abbrev Conduct (δ χ : Type) := χ → Bytes → δ → Option (Except Error Response × δ)

/-- What came back from a device, if a reply brings it. -/
def Reply.outcome? : Reply → Option (Except Error Response)
  | .answer outcome | .acknowledgement _ outcome => some outcome
  | .ready | .silence | .connected _ => none

namespace Network

/-- A packet that was sent ahead and is not processed yet. -/
structure Posted where
  packet : Bytes
  ticket : Ticket
  deriving Inhabited

/-- What came back for a packet that was sent ahead, and is not collected yet. -/
structure Answered where
  ticket : Ticket
  outcome : Except Error Response
  deriving Inhabited

/-- What may happen next on a network. -/
inductive Move (χ : Type)
  /-- The machine goes on by itself: it takes a step, sends a packet ahead, or has waited in
  vain for an acknowledgement. -/
  | advance
  /-- The device answers the packet that the machine waits for. -/
  | exchange (choice : χ)
  /-- The device processes a packet that was sent ahead. -/
  | process (position : Nat) (choice : χ)
  /-- An acknowledgement reaches the machine. -/
  | collect (position : Nat)
  | signal (signal : Signal)
  deriving DecidableEq

end Network

/-- A machine with states of type `σ`, a device with states of type `δ`, and what lies between
them. -/
structure Network (σ δ : Type) where
  state : σ
  device : δ
  posted : List Network.Posted := []
  answered : List Network.Answered := []
  /-- The tickets of all packets that were sent ahead. -/
  issued : List Ticket := []

namespace Network

variable {σ δ χ ν ρ : Type} (machine : Machine σ ν ρ) (conduct : Conduct δ χ)

/-- The network after the machine went on by itself. -/
def advance (network : Network σ δ) : Network σ δ :=
  match machine.need network.state with
  | .step | .wake | .tell _ => { network with state := machine.feed .ready network.state }
  | .post packet _ ticket =>
      { network with
        state := machine.feed .ready network.state
        posted := network.posted ++ [{ packet, ticket }]
        issued := network.issued ++ [ticket] }
  | .collect => { network with state := machine.feed .silence network.state }
  | _ => network

/-- The network after the device answered the packet that the machine waits for. -/
def exchange (choice : χ) (network : Network σ δ) : Network σ δ :=
  match machine.need network.state with
  | .exchange packet _ =>
      match conduct choice packet network.device with
      | some (outcome, device) =>
          { network with device, state := machine.feed (.answer outcome) network.state }
      | none => network
  | _ => network

/-- The network after the device processed a packet that was sent ahead. -/
def process (position : Nat) (choice : χ) (network : Network σ δ) : Network σ δ :=
  match network.posted[position]? with
  | some posted =>
      match conduct choice posted.packet network.device with
      | some (outcome, device) =>
          { network with
            device
            posted := network.posted.eraseIdx position
            answered := network.answered ++ [{ ticket := posted.ticket, outcome }] }
      | none => network
  | none => network

/-- The network after an acknowledgement reached the machine. -/
def collect (position : Nat) (network : Network σ δ) : Network σ δ :=
  match machine.need network.state, network.answered[position]? with
  | .collect, some answered =>
      { network with
        state := machine.feed (.acknowledgement answered.ticket answered.outcome) network.state
        answered := network.answered.eraseIdx position }
  | _, _ => network

/-- The network after a move; a move that cannot be made changes nothing. -/
def apply (network : Network σ δ) : Move χ → Network σ δ
  | .advance => network.advance machine
  | .exchange choice => network.exchange machine conduct choice
  | .process position choice => network.process conduct position choice
  | .collect position => network.collect machine position
  | .signal signal => { network with state := (machine.signal signal network.state).2 }

/-- The network after a schedule. -/
def run (schedule : List (Move χ)) (network : Network σ δ) : Network σ δ :=
  schedule.foldl (apply machine conduct) network

@[simp]
theorem run_nil (network : Network σ δ) : network.run machine conduct [] = network :=
  rfl

theorem run_concat (schedule : List (Move χ)) (move : Move χ) (network : Network σ δ) :
    network.run machine conduct (schedule ++ [move]) =
      (network.run machine conduct schedule).apply machine conduct move := by
  simp [run]

theorem run_append (schedule rest : List (Move χ)) (network : Network σ δ) :
    network.run machine conduct (schedule ++ rest) =
      (network.run machine conduct schedule).run machine conduct rest := by
  simp [run]

/-- The replies that a machine gets without the device. -/
inductive OwnReply (need : Need ν ρ) : Reply → Prop
  | ready (noPost : ∀ packet kind ticket, need ≠ .post packet kind ticket) : OwnReply need .ready
  | silence (collects : need = .collect) : OwnReply need .silence

/-- What a move can do to a network. -/
inductive Effect (before : Network σ δ) : Move χ → Network σ δ → Prop
  | none (move : Move χ) : Effect before move before
  | fed {reply : Reply} (own : OwnReply (machine.need before.state) reply) :
      Effect before .advance { before with state := machine.feed reply before.state }
  | posted {packet : Bytes} {kind : ResponseKind} {ticket : Ticket}
      (needEq : machine.need before.state = .post packet kind ticket) :
      Effect before .advance
        { before with
          state := machine.feed .ready before.state
          posted := before.posted ++ [{ packet, ticket }]
          issued := before.issued ++ [ticket] }
  | exchanged {choice : χ} {packet : Bytes} {kind : ResponseKind}
      {outcome : Except Error Response} {device : δ}
      (needEq : machine.need before.state = .exchange packet kind)
      (conducted : conduct choice packet before.device = some (outcome, device)) :
      Effect before (.exchange choice)
        { before with device, state := machine.feed (.answer outcome) before.state }
  | processed {position : Nat} {choice : χ} {posted : Posted}
      {outcome : Except Error Response} {device : δ}
      (postedEq : before.posted[position]? = some posted)
      (conducted : conduct choice posted.packet before.device = some (outcome, device)) :
      Effect before (.process position choice)
        { before with
          device
          posted := before.posted.eraseIdx position
          answered := before.answered ++ [{ ticket := posted.ticket, outcome }] }
  | collected {position : Nat} {answered : Answered}
      (needEq : machine.need before.state = .collect)
      (answeredEq : before.answered[position]? = some answered) :
      Effect before (.collect position)
        { before with
          state := machine.feed (.acknowledgement answered.ticket answered.outcome) before.state
          answered := before.answered.eraseIdx position }
  | signaled (signal : Signal) :
      Effect before (.signal signal)
        { before with state := (machine.signal signal before.state).2 }

/-- Every move has one of the effects. -/
theorem apply_effect (network : Network σ δ) (move : Move χ) :
    Effect machine conduct network move (network.apply machine conduct move) := by
  cases move with
  | advance =>
      simp only [apply, advance]
      split
      · rename_i needEq
        exact .fed (.ready (by simp [needEq]))
      · rename_i needEq
        exact .fed (.ready (by simp [needEq]))
      · rename_i needEq
        exact .fed (.ready (by simp [needEq]))
      · rename_i needEq
        exact .posted needEq
      · rename_i needEq
        exact .fed (.silence needEq)
      · exact .none _
  | exchange choice =>
      simp only [apply, exchange]
      split
      · rename_i needEq
        split
        · rename_i conducted
          exact .exchanged needEq conducted
        · exact .none _
      · exact .none _
  | process position choice =>
      simp only [apply, process]
      split
      · rename_i postedEq
        split
        · rename_i conducted
          exact .processed postedEq conducted
        · exact .none _
      · exact .none _
  | collect position =>
      simp only [apply, collect]
      split
      · rename_i needEq answeredEq
        exact .collected needEq answeredEq
      · exact .none _
  | signal signal => exact .signaled signal

/-- Whether a machine has ended well can be tested. -/
instance {ε α : Type} [DecidableEq α] (need : Need ν (Except ε α)) (result : α) :
    Decidable (need = .finished (.ok result)) :=
  match need with
  | .finished (.ok found) => decidable_of_iff (found = result) (by simp)
  | .finished (.error _) => isFalse (by simp)
  | .step | .exchange _ _ | .post _ _ _ | .collect | .wake | .tell _ | .connect | .awaitDrop _
  | .sleep _ => isFalse (by simp)

variable {machine conduct}

/-- What holds at first and is preserved by the effects of some moves holds after every schedule of
such moves. -/
theorem run_invariant_of_forall (invariant : Network σ δ → Prop) {start : Network σ δ}
    (initially : invariant start) (allowed : Move χ → Prop)
    (preserved : ∀ before move after, allowed move → Effect machine conduct before move after →
      invariant before → invariant after)
    (schedule : List (Move χ)) (moves : ∀ move ∈ schedule, allowed move) :
    invariant (start.run machine conduct schedule) := by
  induction schedule using List.reverseRecOn with
  | nil => exact initially
  | append_singleton schedule move holds =>
      rw [run_concat]
      refine preserved _ _ _ (moves move (by simp)) (apply_effect machine conduct _ move) ?_
      exact holds fun other member => moves other (by simp [member])

theorem run_invariant (invariant : Network σ δ → Prop) {start : Network σ δ}
    (initially : invariant start)
    (preserved : ∀ before move after, Effect machine conduct before move after →
      invariant before → invariant after)
    (schedule : List (Move χ)) : invariant (start.run machine conduct schedule) :=
  run_invariant_of_forall invariant initially (fun _ => True)
    (fun before move after _ => preserved before move after) schedule fun _ _ => trivial

/-- A move on a link that keeps the order of requests and of acknowledgements. -/
def Move.InOrder : Move χ → Prop
  | .process position _ | .collect position => position = 0
  | _ => True

instance (move : Move χ) : Decidable move.InOrder :=
  match move with
  | .process position _ | .collect position => inferInstanceAs (Decidable (position = 0))
  | .advance | .exchange _ | .signal _ => .isTrue trivial

/-- What every signal, and every reply with an outcome that the device may give, preserves of a
machine holds after every schedule. -/
theorem run_state_invariant_of_outcomes (invariant : σ → Prop) {start : Network σ δ}
    (initially : invariant start.state) (possible : Except Error Response → Prop)
    (given : ∀ answered ∈ start.answered, possible answered.outcome)
    (conducts : ∀ choice packet device answer, conduct choice packet device = some answer →
      possible answer.1)
    (fed : ∀ reply state, (∀ outcome ∈ reply.outcome?, possible outcome) → invariant state →
      invariant (machine.feed reply state))
    (signaled : ∀ signal state, invariant state → invariant (machine.signal signal state).2)
    (schedule : List (Move χ)) : invariant (start.run machine conduct schedule).state := by
  suffices holds : invariant (start.run machine conduct schedule).state ∧
      ∀ answered ∈ (start.run machine conduct schedule).answered, possible answered.outcome from
    holds.1
  refine run_invariant
    (fun network => invariant network.state ∧
      ∀ answered ∈ network.answered, possible answered.outcome)
    ⟨initially, given⟩ ?_ schedule
  rintro before move after effect ⟨holds, given⟩
  cases effect with
  | none => exact ⟨holds, given⟩
  | fed own =>
      refine ⟨fed _ _ ?_ holds, given⟩
      cases own <;> simp [Reply.outcome?]
  | posted => exact ⟨fed _ _ (by simp [Reply.outcome?]) holds, given⟩
  | exchanged needEq conducted =>
      have answers := conducts _ _ _ _ conducted
      exact ⟨fed _ _ (by simpa [Reply.outcome?] using answers) holds, given⟩
  | processed postedEq conducted =>
      have answers := conducts _ _ _ _ conducted
      refine ⟨holds, fun answered member => ?_⟩
      rcases List.mem_append.mp member with earlier | last
      · exact given answered earlier
      · rw [List.mem_singleton.mp last]
        exact answers
  | collected needEq answeredEq =>
      have answers := given _ (List.mem_of_getElem? answeredEq)
      refine ⟨fed _ _ (by simpa [Reply.outcome?] using answers) holds, fun answered member => ?_⟩
      exact given answered (List.mem_of_mem_eraseIdx member)
  | signaled => exact ⟨signaled _ _ holds, given⟩

/-- What every reply and every signal preserves of a machine holds after every schedule. -/
theorem run_state_invariant (invariant : σ → Prop) {start : Network σ δ}
    (initially : invariant start.state)
    (fed : ∀ reply state, invariant state → invariant (machine.feed reply state))
    (signaled : ∀ signal state, invariant state → invariant (machine.signal signal state).2)
    (schedule : List (Move χ)) : invariant (start.run machine conduct schedule).state :=
  run_state_invariant_of_outcomes invariant initially (fun _ => True) (fun _ _ => trivial)
    (fun _ _ _ _ _ => trivial) (fun reply state _ => fed reply state) signaled schedule

end Network

end SmpClient
