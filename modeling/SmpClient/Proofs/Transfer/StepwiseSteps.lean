import SmpClient.Transfer.Stepwise

/-!
# The steps of a stepwise transfer

What a stepwise transfer can do by itself, and what it can do with an answer, for every kind of
request and answer.
-/

namespace SmpClient

namespace Stepwise

variable {τ ρ α : Type} (kind : Transfer τ ρ α)

/-- What a run can do by itself. -/
inductive Advanced (before : Stepwise τ ρ) : Stepwise τ ρ → Prop
  | stayed : Advanced before before
  | refused {failure : Error} (phaseEq : before.phase = .starting)
      (started : before.control.start = .error failure) :
      Advanced before { before with phase := .ended (.error failure) }
  | begun {control : Control} (phaseEq : before.phase = .starting)
      (started : before.control.start = .ok control) :
      Advanced before { before with control, phase := .choosing }
  | completed (phaseEq : before.phase = .choosing)
      (finished : kind.isFinished before.transfer = true) :
      Advanced before { before with control := before.control.close, phase := .ended (.ok ()) }
  | aborted (phaseEq : before.phase = .choosing)
      (unfinished : kind.isFinished before.transfer = false)
      (canceled : before.control.isAborted = true) :
      Advanced before { before with phase := .ended (.error .aborted) }
  | failed {failure : Error} {transfer : τ} (phaseEq : before.phase = .choosing)
      (uncanceled : before.control.isAborted = false)
      (requested : kind.request (kind.offset before.transfer) before.transfer =
        (.error failure, transfer)) :
      Advanced before { before with transfer, phase := .ended (.error failure) }
  | requested {request : ρ} {transfer : τ} (phaseEq : before.phase = .choosing)
      (unfinished : kind.isFinished before.transfer = false)
      (uncanceled : before.control.isAborted = false)
      (requested : kind.request (kind.offset before.transfer) before.transfer =
        (.ok request, transfer)) :
      Advanced before
        { before with transfer, phase := .sending (kind.offset before.transfer) request }
  | told (phaseEq : before.phase = .telling) : Advanced before { before with phase := .choosing }

theorem advanced_advance (run : Stepwise τ ρ) : Advanced kind run (run.advance kind) := by
  unfold advance
  split
  · rename_i phaseEq
    split
    · rename_i failure started
      exact .refused phaseEq started
    · rename_i control started
      exact .begun phaseEq started
  · rename_i phaseEq
    split
    · rename_i finished
      exact .completed phaseEq finished
    · rename_i unfinished
      have unfinished := Bool.eq_false_iff.mpr unfinished
      split
      · exact .stayed
      · split
        · rename_i canceled
          exact .aborted phaseEq unfinished canceled
        · rename_i uncanceled
          have uncanceled := Bool.eq_false_iff.mpr uncanceled
          dsimp only
          split
          · rename_i failure transfer requested
            exact .failed phaseEq uncanceled requested
          · rename_i request transfer requested
            exact .requested phaseEq unfinished uncanceled requested
  · rename_i phaseEq
    exact .told phaseEq
  · exact .stayed

/-- What a run can do with an answer. -/
inductive Accepted (before : Stepwise τ ρ) (answer : α) : Stepwise τ ρ → Prop
  | stayed (idle : ∀ offset request, before.phase ≠ .sending offset request) :
      Accepted before answer before
  | failed {offset : Nat} {request : ρ} {failure : Error} {transfer : τ}
      (phaseEq : before.phase = .sending offset request)
      (accepted : kind.accept request answer before.transfer = (.error failure, transfer)) :
      Accepted before answer { before with transfer, phase := .ended (.error failure) }
  | aborted {offset : Nat} {request : ρ} {transfer : τ}
      (phaseEq : before.phase = .sending offset request)
      (accepted : kind.accept request answer before.transfer = (.ok (), transfer))
      (canceled : before.control.canceled = true) :
      Accepted before answer { before with transfer, phase := .ended (.error .aborted) }
  | stuck {offset stalls : Nat} {request : ρ} {transfer : τ}
      (phaseEq : before.phase = .sending offset request)
      (accepted : kind.accept request answer before.transfer = (.ok (), transfer))
      (uncanceled : before.control.canceled = false) :
      Accepted before answer
        { before with
          transfer, stalls, phase := .ended (.error (.malformedResponse (.stuck offset))) }
  | settled {offset stalls : Nat} {request : ρ} {transfer : τ}
      (phaseEq : before.phase = .sending offset request)
      (accepted : kind.accept request answer before.transfer = (.ok (), transfer))
      (uncanceled : before.control.canceled = false) :
      Accepted before answer { before with transfer, stalls, phase := .telling }

theorem accepted_answer (answer : α) (run : Stepwise τ ρ) :
    Accepted kind run answer (run.answer kind answer) := by
  unfold Stepwise.answer
  split
  · rename_i offset request phaseEq
    split
    · rename_i failure transfer accepted
      exact .failed phaseEq accepted
    · rename_i transfer accepted
      unfold settle
      dsimp only
      generalize (if kind.offset transfer = offset then run.stalls + 1 else 0) = stalls
      split
      · rename_i canceled
        exact .aborted phaseEq accepted canceled
      · rename_i uncanceled
        have uncanceled := Bool.eq_false_iff.mpr uncanceled
        split
        · exact .stuck phaseEq accepted uncanceled
        · exact .settled phaseEq accepted uncanceled
  · rename_i idle
    exact .stayed idle

/-! ## Runs over a link -/

theorem feed_ended {τ : Type} {kind : LinkTransfer τ} {run : Stepwise τ Exchange}
    {result : Except Error Unit} (phaseEq : run.phase = .ended result) (reply : Reply) :
    run.feed kind reply = run := by
  cases reply <;> simp only [feed, advance, answer, phaseEq]

section

variable {τ : Type} {kind : LinkTransfer τ} {run : Stepwise τ Exchange} {packet : Bytes}
  {responseKind : ResponseKind} {ticket : Ticket}

theorem need_ne_collect : run.need kind ≠ .collect := by
  simp only [need]
  cases run.phase <;> simp
  split <;> simp

theorem need_ne_post : run.need kind ≠ .post packet responseKind ticket := by
  simp only [need]
  cases run.phase <;> simp
  split <;> simp

theorem need_eq_finished_iff {result : Except Error Unit} :
    run.need kind = .finished result ↔ run.phase = .ended result := by
  simp only [need]
  cases run.phase <;> simp
  split <;> simp

theorem sending_of_need (needEq : run.need kind = .exchange packet responseKind) :
    ∃ offset request, run.phase = .sending offset request ∧ request.packet = packet := by
  simp only [need] at needEq
  split at needEq
  · cases needEq
  · split at needEq <;> cases needEq
  · rename_i offset request phaseEq
    cases needEq
    exact ⟨offset, request, phaseEq, rfl⟩
  · cases needEq
  · cases needEq

end

end Stepwise

end SmpClient
