import SmpClient.Proofs.Machine.Network

/-!
# Machines with a log

A log keeps what a machine told its owner and which of the owner's signals it accepted.  The machine
does not know of it.
-/

namespace SmpClient

/-- What is told when a machine with this need gets a reply. -/
def Need.notes {ν ρ : Type} : Need ν ρ → Reply → List ν
  | .tell note, .ready => [note]
  | _, _ => []

/-- A machine's state, and what there is in the log. -/
structure Logged (σ ν : Type) where
  state : σ
  told : List ν := []
  accepted : List Signal := []

variable {σ δ χ ν ρ : Type}

/-- A machine with a log. -/
def Machine.logged (machine : Machine σ ν ρ) : Machine (Logged σ ν) ν ρ where
  need := fun log => machine.need log.state
  feed := fun reply log =>
    { log with
      state := machine.feed reply log.state
      told := log.told ++ (machine.need log.state).notes reply }
  signal := fun signal log =>
    let (accepted, state) := machine.signal signal log.state
    (accepted,
      { log with state, accepted := log.accepted ++ if accepted then [signal] else [] })
  seq := fun log => machine.seq log.state

namespace Network

/-- The network without the log of its machine. -/
def unlogged (network : Network (Logged σ ν) δ) : Network σ δ :=
  { state := network.state.state, device := network.device, posted := network.posted,
    answered := network.answered, issued := network.issued }

variable (machine : Machine σ ν ρ) (conduct : Conduct δ χ)

theorem unlogged_apply (network : Network (Logged σ ν) δ) (move : Move χ) :
    (network.apply machine.logged conduct move).unlogged =
      network.unlogged.apply machine conduct move := by
  cases move with
  | advance =>
      simp only [apply, advance, Machine.logged, unlogged]
      cases machine.need network.state.state <;> rfl
  | exchange choice =>
      simp only [apply, exchange, Machine.logged, unlogged]
      cases machine.need network.state.state with
      | exchange packet kind =>
          dsimp only
          cases conduct choice packet network.device <;> rfl
      | _ => rfl
  | process position choice =>
      simp only [apply, process, unlogged]
      cases network.posted[position]? with
      | none => rfl
      | some posted =>
          dsimp only
          cases conduct choice posted.packet network.device <;> rfl
  | collect position =>
      simp only [apply, collect, Machine.logged, unlogged]
      cases machine.need network.state.state with
      | collect => cases network.answered[position]? <;> rfl
      | _ => rfl
  | signal signal => rfl

/-- A log changes nothing in what a machine and its device do. -/
theorem unlogged_run (schedule : List (Move χ)) (network : Network (Logged σ ν) δ) :
    (network.run machine.logged conduct schedule).unlogged =
      network.unlogged.run machine conduct schedule := by
  induction schedule using List.reverseRecOn with
  | nil => rfl
  | append_singleton schedule move ih => rw [run_concat, run_concat, unlogged_apply, ih]

end Network

end SmpClient
