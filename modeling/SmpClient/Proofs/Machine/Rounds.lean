import SmpClient.Proofs.Machine.AtOnce

/-!
# Rounds on a link that answers at once

Between two steps of a machine on such a link its owner may signal.  A round is some signals and the
step after them.  What every step brings closer is reached after some rounds, whatever the owner does
meanwhile.
-/

namespace SmpClient

namespace Network

variable {σ ν ρ : Type} (machine : Machine σ ν ρ) (answer : List Bytes → Except Error Response)

/-- The network after some signals and a step. -/
def roundAtOnce (network : Network (Logged σ ν) (List Bytes)) (signals : List Signal) :
    Network (Logged σ ν) (List Bytes) :=
  (network.run machine.logged (answering answer) (signals.map .signal)).stepAtOnce machine answer

/-- The network after some rounds. -/
def runAtOnce (rounds : List (List Signal)) (network : Network (Logged σ ν) (List Bytes)) :
    Network (Logged σ ν) (List Bytes) :=
  rounds.foldl (roundAtOnce machine answer) network

/-- A step without the log. -/
def plainStep (network : Network σ (List Bytes)) : Network σ (List Bytes) :=
  match machine.need network.state, network.answered with
  | .step, _ | .wake, _ | .tell _, _ =>
      { network with state := machine.feed .ready network.state }
  | .exchange packet _, _ =>
      { network with
        state := machine.feed (.answer (answer (network.device ++ [packet]))) network.state
        device := network.device ++ [packet] }
  | .post packet _ ticket, answered =>
      { network with
        state := machine.feed .ready network.state
        device := network.device ++ [packet]
        answered := answered ++ [⟨ticket, answer (network.device ++ [packet])⟩]
        issued := network.issued ++ [ticket] }
  | .collect, first :: answered =>
      { network with
        state := machine.feed (.acknowledgement first.ticket first.outcome) network.state
        answered }
  | .collect, [] => { network with state := machine.feed .silence network.state }
  | _, _ => network

/-- The state of a machine after a signal. -/
def signaled (signal : Signal) (network : Network σ (List Bytes)) : Network σ (List Bytes) :=
  { network with state := (machine.signal signal network.state).2 }

variable {machine answer}

theorem posted_plainStep (network : Network σ (List Bytes)) :
    (network.plainStep machine answer).posted = network.posted := by
  rw [plainStep]
  split <;> rfl

/-- Where nothing waits to be processed, a step is the same with the log and without. -/
theorem unlogged_stepAtOnce {network : Network (Logged σ ν) (List Bytes)}
    (idle : network.posted = []) :
    (network.stepAtOnce machine answer).unlogged = network.unlogged.plainStep machine answer := by
  obtain ⟨⟨state, told, accepted⟩, device, posted, answered, issued⟩ := network
  subst idle
  simp only [stepAtOnce, movesAtOnce, plainStep, unlogged]
  cases needEq : machine.need state with
  | collect => cases answered <;>
      simp [run, apply, advance, collect, Machine.logged, needEq]
  | _ =>
      simp [run, apply, advance, exchange, process, answering, Machine.logged, needEq]

theorem posted_stepAtOnce {network : Network (Logged σ ν) (List Bytes)}
    (idle : network.posted = []) : (network.stepAtOnce machine answer).posted = [] :=
  calc
    (network.stepAtOnce machine answer).posted =
        (network.stepAtOnce machine answer).unlogged.posted := rfl
    _ = (network.unlogged.plainStep machine answer).posted := by rw [unlogged_stepAtOnce idle]
    _ = network.posted := posted_plainStep network.unlogged
    _ = [] := idle

section

variable (holds : Network σ (List Bytes) → Prop) (allowed : Signal → Prop)
  (signaled : ∀ signal network, allowed signal → holds network →
    holds (network.signaled machine signal))
  {beginning : Network (Logged σ ν) (List Bytes)} (idle : beginning.posted = [])
  (held : holds beginning.unlogged)

include signaled idle held

variable (answer) in
theorem signals_invariant {signals : List Signal} (kept : ∀ signal ∈ signals, allowed signal) :
    let after := beginning.run machine.logged (answering answer) (signals.map .signal)
    after.posted = [] ∧ holds after.unlogged := by
  induction signals generalizing beginning with
  | nil => exact ⟨idle, held⟩
  | cons signal signals ih =>
      obtain ⟨first, kept⟩ := List.forall_mem_cons.mp kept
      have next := signaled signal beginning.unlogged first held
      exact ih idle next kept

/-- What every step and signals of some kind keep holds after all rounds of such signals. -/
theorem runAtOnce_invariant
    (stepped : ∀ network, holds network → holds (network.plainStep machine answer))
    {rounds : List (List Signal)} (kept : ∀ signals ∈ rounds, ∀ signal ∈ signals, allowed signal) :
    (beginning.runAtOnce machine answer rounds).posted = [] ∧
      holds (beginning.runAtOnce machine answer rounds).unlogged := by
  induction rounds generalizing beginning with
  | nil => exact ⟨idle, held⟩
  | cons signals rounds ih =>
      obtain ⟨first, kept⟩ := List.forall_mem_cons.mp kept
      obtain ⟨idle, held⟩ := signals_invariant answer holds allowed signaled idle held first
      have next := stepped _ held
      rw [← unlogged_stepAtOnce idle] at next
      exact ih (posted_stepAtOnce idle) next kept

end

/-! ## Coming closer to an end -/

/-- What holds of a network, with so many steps to go at most, until its machine is done: a signal
other than a pause takes nothing away, and every step leaves less to go. -/
structure Nears (machine : Machine σ ν ρ) (answer : List Bytes → Except Error Response)
    (holds : Nat → Network σ (List Bytes) → Prop) (done : σ → Prop) : Prop where
  signaled : ∀ signal left network, signal ≠ .pause → holds left network →
    holds left (network.signaled machine signal)
  done_of_signal : ∀ signal state, done (machine.signal signal state).2 → done state
  stepped : ∀ left network, holds left network → ¬ done network.state →
    ∃ fewer < left, holds fewer (network.plainStep machine answer)

variable {holds : Nat → Network σ (List Bytes) → Prop} {done : σ → Prop}

theorem Nears.signals (nears : Nears machine answer holds done) (signals : List Signal)
    (unpaused : .pause ∉ signals) {left : Nat} {network : Network (Logged σ ν) (List Bytes)}
    (idle : network.posted = []) (held : holds left network.unlogged)
    (undone : ¬ done network.state.state) :
    let after := network.run machine.logged (answering answer) (signals.map .signal)
    after.posted = [] ∧ holds left after.unlogged ∧ ¬ done after.state.state := by
  refine signals_invariant answer (fun network => holds left network ∧ ¬ done network.state)
    (· ≠ .pause) ?_ idle ⟨held, undone⟩ ?_
  · rintro signal network other ⟨held, undone⟩
    exact ⟨nears.signaled signal left network other held,
      fun isDone => undone (nears.done_of_signal signal network.state isDone)⟩
  · rintro signal member rfl
    exact unpaused member

/-- A machine is done after as many rounds as there were steps to go, at most. -/
theorem Nears.exists_done (nears : Nears machine answer holds done) {left : Nat}
    {beginning : Network (Logged σ ν) (List Bytes)} (idle : beginning.posted = [])
    (held : holds left beginning.unlogged) {rounds : List (List Signal)}
    (enough : left ≤ rounds.length) (unpaused : ∀ signals ∈ rounds, .pause ∉ signals) :
    ∃ prior later, rounds = prior ++ later ∧
      let ending := beginning.runAtOnce machine answer prior
      ending.posted = [] ∧ (∃ left, holds left ending.unlogged) ∧ done ending.state.state := by
  -- on the rounds, each of which takes one at least from what is left
  induction rounds generalizing left beginning with
  | nil =>
      refine ⟨[], [], rfl, idle, ⟨left, held⟩, ?_⟩
      by_contra undone
      obtain ⟨fewer, fewer_lt, -⟩ := nears.stepped left _ held undone
      exact absurd (Nat.lt_of_lt_of_le fewer_lt enough) (Nat.not_lt_zero fewer)
  | cons signals rounds ih =>
      by_cases finished : done beginning.state.state
      · exact ⟨[], signals :: rounds, rfl, idle, ⟨left, held⟩, finished⟩
      · obtain ⟨signalsUnpaused, unpaused⟩ := List.forall_mem_cons.mp unpaused
        obtain ⟨signaledIdle, signaledHeld, undone⟩ :=
          nears.signals signals signalsUnpaused idle held finished
        obtain ⟨fewer, fewer_lt, stepped⟩ := nears.stepped left _ signaledHeld undone
        rw [← unlogged_stepAtOnce signaledIdle] at stepped
        have fewerEnough : fewer ≤ rounds.length := by
          rw [List.length_cons] at enough
          omega
        obtain ⟨prior, later, rfl, ended⟩ :=
          ih (posted_stepAtOnce signaledIdle) stepped fewerEnough unpaused
        exact ⟨signals :: prior, later, rfl, ended⟩

/-! ## A machine within another -/

section

variable {τ : Type} {outer : Machine τ ν ρ}

/-- The network when its machine is a part of another, without a log. -/
def plainWithin (whole : σ → τ) (network : Network σ (List Bytes)) : Network τ (List Bytes) :=
  { state := whole network.state, device := network.device, posted := network.posted,
    answered := network.answered, issued := network.issued }

theorem plainStep_plainWithin {whole : σ → τ} {network : Network σ (List Bytes)}
    (needEq : outer.need (whole network.state) = machine.need network.state)
    (feedEq : ∀ reply, outer.feed reply (whole network.state) =
      whole (machine.feed reply network.state)) :
    (network.plainWithin whole).plainStep outer answer =
      (network.plainStep machine answer).plainWithin whole := by
  obtain ⟨state, device, posted, answered, issued⟩ := network
  simp only at needEq feedEq
  simp only [plainStep, plainWithin, needEq]
  cases needed : machine.need state with
  | collect => cases answered <;> simp [feedEq]
  | _ => simp [feedEq]

/-- A machine nears its end within another as it does alone. -/
theorem Nears.within (nears : Nears machine answer holds done) (whole : σ → τ)
    {finished : τ → Prop} (finished_iff : ∀ state, finished (whole state) ↔ done state)
    (finished_of_signal : ∀ signal state, finished (outer.signal signal state).2 → finished state)
    (signalEq : ∀ signal state,
      (outer.signal signal (whole state)).2 = whole (machine.signal signal state).2)
    (same : ∀ state, ¬ done state → outer.need (whole state) = machine.need state ∧
      ∀ reply, outer.feed reply (whole state) = whole (machine.feed reply state)) :
    Nears outer answer
      (fun left network => ∃ inner, network = plainWithin whole inner ∧ holds left inner)
      finished where
  signaled := by
    rintro signal left _ unpaused ⟨inner, rfl, held⟩
    refine ⟨inner.signaled machine signal, ?_, nears.signaled signal left inner unpaused held⟩
    simp only [Network.signaled, plainWithin, signalEq]
  done_of_signal := finished_of_signal
  stepped := by
    rintro left _ ⟨inner, rfl, held⟩ unfinished
    have undone : ¬ done inner.state := fun isDone => unfinished ((finished_iff _).mpr isDone)
    obtain ⟨needEq, feedEq⟩ := same inner.state undone
    obtain ⟨fewer, fewer_lt, stepped⟩ := nears.stepped left inner held undone
    exact ⟨fewer, fewer_lt, _, plainStep_plainWithin needEq feedEq, stepped⟩

end

end Network

end SmpClient
