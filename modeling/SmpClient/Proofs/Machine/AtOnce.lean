import Mathlib.Logic.Relation
import SmpClient.Proofs.Machine.Logged

/-!
# Links that answer at once

Some links have the device answer every packet as soon as it is sent.  The acknowledgement of a packet
that is sent ahead then lies ready before the machine goes on, and the first that lies ready is
collected first.  On such a link all that happens is determined by the machine and by what the device
answers to the packets.
-/

namespace SmpClient

namespace Network

variable {σ ν ρ : Type}

/-- The conduct of a device that keeps all packets and answers each by those that it has. -/
def answering (answer : List Bytes → Except Error Response) : Conduct (List Bytes) Unit :=
  fun _ packet sent => some (answer (sent ++ [packet]), sent ++ [packet])

/-- What happens next on a link that answers at once. -/
def movesAtOnce (machine : Machine σ ν ρ) (network : Network (Logged σ ν) (List Bytes)) :
    List (Move Unit) :=
  match machine.need network.state.state, network.answered with
  | .post _ _ _, _ => [.advance, .process 0 ()]
  | .exchange _ _, _ => [.exchange ()]
  | .collect, _ :: _ => [.collect 0]
  | _, _ => [.advance]

variable (machine : Machine σ ν ρ) (answer : List Bytes → Except Error Response)

def stepAtOnce (network : Network (Logged σ ν) (List Bytes)) :
    Network (Logged σ ν) (List Bytes) :=
  network.run machine.logged (answering answer) (network.movesAtOnce machine)

/-- A network comes to another in some steps. -/
def ComesTo (start finish : Network (Logged σ ν) (List Bytes)) : Prop :=
  Relation.ReflTransGen (fun before after => before.stepAtOnce machine answer = after) start finish

/-- A run ends with a result, when all of this was told and sent. -/
def EndsAtOnce (start : Network (Logged σ ν) (List Bytes)) (result : ρ) (told : List ν)
    (sent : List Bytes) : Prop :=
  ∃ finish : Network (Logged σ ν) (List Bytes), start.ComesTo machine answer finish ∧
    machine.need finish.state.state = .finished result ∧ finish.state.told = told ∧
      finish.device = sent

/-- A machine on a link where nothing waits to be processed. -/
def settled (state : σ) (told : List ν) (sent : List Bytes) (answered : List Answered)
    (issued : List Ticket) : Network (Logged σ ν) (List Bytes) :=
  { state := { state, told }, device := sent, answered, issued }

variable {machine answer}

theorem comesTo_of_stepAtOnce {start finish : Network (Logged σ ν) (List Bytes)}
    (stepped : start.stepAtOnce machine answer = finish) : start.ComesTo machine answer finish :=
  .single stepped

theorem ComesTo.trans {start middle finish : Network (Logged σ ν) (List Bytes)}
    (first : start.ComesTo machine answer middle) (second : middle.ComesTo machine answer finish) :
    start.ComesTo machine answer finish :=
  Relation.ReflTransGen.trans first second

section

variable {state : σ} {told : List ν} {sent : List Bytes} {answered : List Answered}
  {issued : List Ticket} {packet : Bytes} {kind : ResponseKind} {ticket : Ticket}

theorem comesTo_of_step (needEq : machine.need state = .step) :
    (settled state told sent answered issued).ComesTo machine answer
      (settled (machine.feed .ready state) told sent answered issued) := by
  apply comesTo_of_stepAtOnce
  simp [stepAtOnce, movesAtOnce, settled, needEq, run, apply, advance, Machine.logged, Need.notes]

theorem comesTo_of_tell {note : ν} (needEq : machine.need state = .tell note) :
    (settled state told sent answered issued).ComesTo machine answer
      (settled (machine.feed .ready state) (told ++ [note]) sent answered issued) := by
  apply comesTo_of_stepAtOnce
  simp [stepAtOnce, movesAtOnce, settled, needEq, run, apply, advance, Machine.logged, Need.notes]

theorem comesTo_of_exchange (needEq : machine.need state = .exchange packet kind) :
    (settled state told sent answered issued).ComesTo machine answer
      (settled (machine.feed (.answer (answer (sent ++ [packet]))) state) told (sent ++ [packet])
        answered issued) := by
  apply comesTo_of_stepAtOnce
  simp [stepAtOnce, movesAtOnce, settled, needEq, run, apply, exchange, answering, Machine.logged,
    Need.notes]

theorem comesTo_of_post (needEq : machine.need state = .post packet kind ticket) :
    (settled state told sent answered issued).ComesTo machine answer
      (settled (machine.feed .ready state) told (sent ++ [packet])
        (answered ++ [⟨ticket, answer (sent ++ [packet])⟩]) (issued ++ [ticket])) := by
  apply comesTo_of_stepAtOnce
  simp [stepAtOnce, movesAtOnce, settled, needEq, run, apply, advance, process, answering,
    Machine.logged, Need.notes]

theorem comesTo_of_collect {outcome : Except Error Response}
    (needEq : machine.need state = .collect) :
    (settled state told sent (⟨ticket, outcome⟩ :: answered) issued).ComesTo machine answer
      (settled (machine.feed (.acknowledgement ticket outcome) state) told sent answered issued) := by
  apply comesTo_of_stepAtOnce
  simp [stepAtOnce, movesAtOnce, settled, needEq, run, apply, collect, Machine.logged, Need.notes]

end

theorem stepAtOnce_of_finished {network : Network (Logged σ ν) (List Bytes)} {result : ρ}
    (needEq : machine.need network.state.state = .finished result) :
    network.stepAtOnce machine answer = network := by
  simp [stepAtOnce, movesAtOnce, needEq, run, apply, advance, Machine.logged]

/-! ## One course -/

section

variable {start finish other : Network (Logged σ ν) (List Bytes)}

/-- Of two networks that a run comes to it comes to one first. -/
theorem ComesTo.total (comes : start.ComesTo machine answer finish)
    (otherComes : start.ComesTo machine answer other) :
    finish.ComesTo machine answer other ∨ other.ComesTo machine answer finish :=
  Relation.ReflTransGen.total_of_right_unique (fun _ _ _ first second => first.symm.trans second)
    comes otherComes

/-- A machine that has finished stays as it is. -/
theorem ComesTo.eq_of_finished {result : ρ} (comes : start.ComesTo machine answer finish)
    (needEq : machine.need start.state.state = .finished result) : finish = start := by
  induction comes with
  | refl => rfl
  | tail _ stepped ih =>
      subst ih
      exact stepped.symm.trans (stepAtOnce_of_finished needEq)

theorem eq_of_finished {result otherResult : ρ} (comes : start.ComesTo machine answer finish)
    (otherComes : start.ComesTo machine answer other)
    (needEq : machine.need finish.state.state = .finished result)
    (otherNeedEq : machine.need other.state.state = .finished otherResult) : finish = other := by
  rcases comes.total otherComes with later | later
  · exact (later.eq_of_finished needEq).symm
  · exact later.eq_of_finished otherNeedEq

/-- A step leaves the machine as it is or brings it one reply. -/
theorem state_stepAtOnce_cases (network : Network (Logged σ ν) (List Bytes)) :
    (network.stepAtOnce machine answer).state = network.state ∨
      ∃ reply, (network.stepAtOnce machine answer).state =
        machine.logged.feed reply network.state := by
  obtain ⟨⟨state, told, accepted⟩, device, posted, answered, issued⟩ := network
  simp only [stepAtOnce, movesAtOnce]
  cases needEq : machine.need state with
  | post packet kind ticket =>
      refine .inr ⟨.ready, ?_⟩
      cases posted <;> simp [run, apply, advance, process, answering, Machine.logged, needEq]
  | exchange packet kind =>
      refine .inr ⟨.answer (answer (device ++ [packet])), ?_⟩
      simp [run, apply, exchange, answering, Machine.logged, needEq]
  | collect =>
      cases answered with
      | nil =>
          refine .inr ⟨.silence, ?_⟩
          simp [run, apply, advance, Machine.logged, needEq]
      | cons first answered =>
          refine .inr ⟨.acknowledgement first.ticket first.outcome, ?_⟩
          simp [run, apply, collect, Machine.logged, needEq]
  | step | wake | tell =>
      refine .inr ⟨.ready, ?_⟩
      simp [run, apply, advance, Machine.logged, needEq]
  | _ =>
      refine .inl ?_
      simp [run, apply, advance, Machine.logged, needEq]

theorem told_isPrefix_stepAtOnce (network : Network (Logged σ ν) (List Bytes)) :
    network.state.told <+: (network.stepAtOnce machine answer).state.told := by
  rcases state_stepAtOnce_cases network with same | ⟨reply, fedEq⟩
  · exact same.symm ▸ List.prefix_refl _
  · rw [fedEq]
    exact List.prefix_append _ _

/-- What was told stays told. -/
theorem told_isPrefix_of_comesTo (comes : start.ComesTo machine answer finish) :
    start.state.told <+: finish.state.told := by
  induction comes with
  | refl => exact List.prefix_refl _
  | tail _ stepped ih => exact ih.trans (stepped ▸ told_isPrefix_stepAtOnce _)

end

/-! ## A machine within another -/

section

variable {τ : Type} {outer : Machine τ ν ρ}

/-- The network when its machine is a part of another. -/
def within (whole : σ → τ) (network : Network (Logged σ ν) (List Bytes)) :
    Network (Logged τ ν) (List Bytes) :=
  { network with state := { network.state with state := whole network.state.state } }

theorem stepAtOnce_within {whole : σ → τ} {network : Network (Logged σ ν) (List Bytes)}
    (needEq : outer.need (whole network.state.state) = machine.need network.state.state)
    (feedEq : ∀ reply, outer.feed reply (whole network.state.state) =
      whole (machine.feed reply network.state.state)) :
    (network.within whole).stepAtOnce outer answer =
      (network.stepAtOnce machine answer).within whole := by
  obtain ⟨⟨state, told, accepted⟩, device, posted, answered, issued⟩ := network
  simp only at needEq feedEq
  cases needed : machine.need state with
  | post packet kind ticket => cases posted <;>
      simp [stepAtOnce, movesAtOnce, within, run, apply, advance, process, answering,
        Machine.logged, needEq, needed, feedEq]
  | collect => cases answered <;>
      simp [stepAtOnce, movesAtOnce, within, run, apply, advance, collect, Machine.logged, needEq,
        needed, feedEq]
  | _ =>
      simp [stepAtOnce, movesAtOnce, within, run, apply, advance, exchange, answering,
        Machine.logged, needEq, needed, feedEq]

/-- Until it has finished a machine runs within another as it does alone. -/
theorem ComesTo.within (whole : σ → τ)
    (same : ∀ state, (∀ result, machine.need state ≠ .finished result) →
      outer.need (whole state) = machine.need state ∧
        ∀ reply, outer.feed reply (whole state) = whole (machine.feed reply state))
    {start finish : Network (Logged σ ν) (List Bytes)} (comes : start.ComesTo machine answer finish) :
    (start.within whole).ComesTo outer answer (finish.within whole) := by
  refine Relation.ReflTransGen.lift' (Network.within whole) ?_ _ _ comes
  rintro before after rfl
  by_cases finished : ∃ result, machine.need before.state.state = .finished result
  · obtain ⟨result, needEq⟩ := finished
    rw [stepAtOnce_of_finished needEq]
  · have unfinished := not_exists.mp finished
    obtain ⟨needEq, feedEq⟩ := same before.state.state unfinished
    exact .single (stepAtOnce_within needEq feedEq)

end

/-! ## Acknowledgements that come too late -/

/-- The network when other acknowledgements lie in front of those that are ready. -/
def behind (late : List Answered) (network : Network (Logged σ ν) (List Bytes)) :
    Network (Logged σ ν) (List Bytes) :=
  { network with answered := late ++ network.answered }

theorem stepAtOnce_behind {late : List Answered} {network : Network (Logged σ ν) (List Bytes)}
    (busy : machine.need network.state.state ≠ .collect) :
    (network.behind late).stepAtOnce machine answer =
      (network.stepAtOnce machine answer).behind late := by
  obtain ⟨⟨state, told, accepted⟩, device, posted, answered, issued⟩ := network
  simp only at busy
  simp only [stepAtOnce, movesAtOnce, behind]
  cases needEq : machine.need state with
  | post packet kind ticket => cases posted <;>
      simp [run, apply, advance, process, answering, Machine.logged, needEq]
  | collect => exact absurd needEq busy
  | _ => simp [run, apply, advance, exchange, answering, Machine.logged, needEq]

/-- What a machine ignores it collects without a change. -/
theorem comesTo_of_ignored {late : List Answered} {network : Network (Logged σ ν) (List Bytes)}
    (needEq : machine.need network.state.state = .collect)
    (ignored : ∀ answered ∈ late,
      machine.feed (.acknowledgement answered.ticket answered.outcome) network.state.state =
        network.state.state) :
    (network.behind late).ComesTo machine answer network := by
  induction late with
  | nil => exact .refl
  | cons first late ih =>
      obtain ⟨same, rest⟩ := List.forall_mem_cons.mp ignored
      refine ComesTo.trans (comesTo_of_stepAtOnce ?_) (ih rest)
      simp [stepAtOnce, movesAtOnce, behind, needEq, run, apply, collect, Machine.logged, Need.notes,
        same]

theorem state_stepAtOnce (invariant : σ → Prop)
    (fed : ∀ reply state, invariant state → invariant (machine.feed reply state))
    {network : Network (Logged σ ν) (List Bytes)} (holds : invariant network.state.state) :
    invariant (network.stepAtOnce machine answer).state.state := by
  rcases state_stepAtOnce_cases network with same | ⟨reply, fedEq⟩
  · rw [same]
    exact holds
  · rw [fedEq]
    exact fed reply _ holds

/-- Acknowledgements that the machine ignores do not keep it from anything. -/
theorem ComesTo.behind (invariant : σ → Prop)
    (fed : ∀ reply state, invariant state → invariant (machine.feed reply state))
    {late : List Answered}
    (ignored : ∀ state, invariant state → machine.need state = .collect → ∀ answered ∈ late,
      machine.feed (.acknowledgement answered.ticket answered.outcome) state = state)
    {start finish : Network (Logged σ ν) (List Bytes)} (initially : invariant start.state.state)
    (comes : start.ComesTo machine answer finish) :
    ∃ left ⊆ late, (start.behind late).ComesTo machine answer (finish.behind left) := by
  have reached : invariant finish.state.state ∧
      ∃ left ⊆ late, (start.behind late).ComesTo machine answer (finish.behind left) := by
    induction comes with
    | refl => exact ⟨initially, late, List.Subset.refl late, .refl⟩
    | @tail middle finish _ step ih =>
        subst step
        obtain ⟨holds, left, among, comes⟩ := ih
        refine ⟨state_stepAtOnce invariant fed holds, ?_⟩
        by_cases collects : machine.need middle.state.state = .collect
        · have dropped : (middle.behind left).ComesTo machine answer middle :=
            comesTo_of_ignored collects fun answered member =>
              ignored _ holds collects answered (among member)
          exact ⟨[], List.nil_subset late, comes.trans (dropped.trans (.single rfl))⟩
        · exact ⟨left, among, comes.trans (.single (stepAtOnce_behind collects))⟩
  exact reached.2

end Network

end SmpClient
