import SmpClient.Proofs.Upgrade.PlanOrder
import SmpClient.Proofs.Upgrade.Requests

/-!
# Images are marked as the mode says

Whatever the device does and whether the upgrade is canceled or not, its mode limits which images are
marked, and how.  When images are both tested and confirmed, none is confirmed that the device has
neither listed as running nor been reset for.
-/

namespace SmpClient

namespace Session

variable {origin session : Session} {log : Log} {events : List Event} {packet : Bytes}

/-! ## What a task is for -/

/-- A task for an image follows from what the device listed last. -/
theorem Stage.asks {completed ahead : List Task} {task : Task} {target : TargetImage}
    (stage : Stage origin log completed (task :: ahead)) (names : task.target? = some target) :
    target ∈ origin.images ∧ ∃ slots, log.listed = some slots ∧
      (Verdict.judge target slots).Asks origin.mode target task := by
  generalize tasksEq : task :: ahead = tasks at stage
  cases stage with
  | looking attempt_le roundsEq =>
      obtain ⟨rfl, -⟩ := List.cons.inj tasksEq
      cases names
  | clearing attempt_lt =>
      obtain ⟨rfl, -⟩ := List.cons.inj tasksEq
      cases names
  | @executing attempt found performed _ attempt_le plans returnedEq foundEq resets =>
      obtain ⟨slots, bootloader, listedEq, -, plannedEq⟩ := plans
      have member : task ∈ found := by
        rw [← (Task.perm_byPriority found).mem_iff, ← foundEq, ← tasksEq]
        simp
      rw [plannedEq] at member
      obtain ⟨listed, asks⟩ := Plan.asks_of_mem names member
      exact ⟨listed, slots, listedEq, asks⟩

theorem Stage.reset_of_confirmAfterReset {completed ahead : List Task} {target : TargetImage}
    (stage : Stage origin log completed (.confirmAfterReset target :: ahead)) : log.reset = true := by
  generalize tasksEq : .confirmAfterReset target :: ahead = tasks at stage
  cases stage with
  | looking attempt_le roundsEq => cases tasksEq
  | clearing attempt_lt => cases tasksEq
  | executing attempt_le plans returnedEq foundEq resets =>
      subst tasksEq
      exact resets (plans.reset_mem foundEq)

/-! ## What is sent -/

theorem speaks_after (fresh : origin.IsFresh) (events : List Event) :
    (machine.after events origin).phase.Speaks origin := by
  induction events using List.reverseRecOn with
  | nil =>
      change origin.phase.Speaks origin
      rw [fresh.phaseEq]
      trivial
  | append_singleton events event speaks =>
      obtain ⟨course, briefEq⟩ := course_after fresh events
      rw [Machine.after_concat]
      cases event with
      | reply reply =>
          refine speaks_feed (congrArg Prod.fst briefEq) speaks (fun target phaseEq => ?_) reply
          obtain ⟨ahead, stage, -⟩ := course.of_performing phaseEq
          exact (stage.asks rfl).1
      | signal signal => exact speaks_signaled (signaled_signal signal _) speaks

/-! ## What the mode allows -/

/-- Whether the mode of an upgrade allows that an image is marked, after what the log has kept.  Where
images are tested first, one is confirmed only if it is the image of the task that has begun last and
either the device has listed it as active, or a reset has ended well since. -/
def Allows (origin : Session) (log : Log) (marking : Marking) : Prop :=
  match origin.mode with
  | .uploadOnly => False
  | .testOnly => marking.confirm = false
  | .confirmOnly => marking.confirm = true
  | .testAndConfirm => marking.confirm = true →
      ∃ target ∈ origin.images, target.hash = marking.hash ∧
        (log.begun.getLast? = some (.confirm target) ∨
          log.begun.getLast? = some (.confirmAfterReset target)) ∧
        ((∃ slots slot, log.listed = some slots ∧ slot ∈ slots.images ∧
            slot.image = target.index ∧ slot.hash = target.hash ∧ slot.active = true) ∨
          log.reset = true)

theorem allows_of_test {completed ahead : List Task} {target : TargetImage}
    (stage : Stage origin log completed (.test target :: ahead)) :
    origin.Allows log { hash := target.hash, confirm := false } := by
  obtain ⟨-, slots, -, asks⟩ := stage.asks rfl
  cases asks with
  | test testing =>
      rcases testing with modeEq | modeEq
      · simp [Allows, modeEq]
      · simp [Allows, modeEq]

theorem allows_of_confirm {completed ahead : List Task} {target : TargetImage}
    (begunEq : log.begun = completed ++ [.confirm target])
    (stage : Stage origin log completed (.confirm target :: ahead)) :
    origin.Allows log { hash := target.hash, confirm := true } := by
  obtain ⟨listed, slots, listedEq, asks⟩ := stage.asks rfl
  cases asks with
  | confirm confirming =>
      rcases confirming with modeEq | ⟨modeEq, runs⟩
      · simp [Allows, modeEq]
      · obtain ⟨slot, member, active⟩ := Verdict.active_of_judge_eq_running runs
        simp only [Allows, modeEq]
        exact fun _ => ⟨target, listed, rfl, .inl (by simp [begunEq]),
          .inl ⟨slots, slot, listedEq, member, active⟩⟩

theorem allows_of_confirmAfterReset {completed ahead : List Task} {target : TargetImage}
    (begunEq : log.begun = completed ++ [.confirmAfterReset target])
    (stage : Stage origin log completed (.confirmAfterReset target :: ahead)) :
    origin.Allows log { hash := target.hash, confirm := true } := by
  obtain ⟨listed, slots, -, asks⟩ := stage.asks rfl
  cases asks with
  | confirmAfterReset modeEq resets =>
      simp only [Allows, modeEq]
      exact fun _ => ⟨target, listed, rfl, .inr (by simp [begunEq]),
        .inr stage.reset_of_confirmAfterReset⟩

/-- The mode allows what is asked for the task that has begun last. -/
theorem allows_of_serves {completed ahead : List Task} {task : Task} {question : Question}
    (serves : question.Serves task) (begunEq : log.begun = completed ++ [task])
    (stage : Stage origin log completed (task :: ahead)) :
    ∀ marking ∈ question.marking?, origin.Allows log marking := by
  intro marking marks
  cases question with
  | test target =>
      obtain rfl : task = .test target := serves
      obtain rfl := Option.some.inj marks
      exact allows_of_test stage
  | confirm target =>
      obtain rfl := Option.some.inj marks
      rcases serves with rfl | rfl
      · exact allows_of_confirm begunEq stage
      · exact allows_of_confirmAfterReset begunEq stage
  | _ => cases marks

/-- The image that a question names is one of the upgrade. -/
theorem target_mem_of_serves {completed ahead : List Task} {task : Task} {question : Question}
    (serves : question.Serves task) (stage : Stage origin log completed (task :: ahead)) :
    ∀ target ∈ question.target?, target ∈ origin.images := by
  intro target names
  cases question with
  | test named =>
      obtain rfl : task = .test named := serves
      obtain rfl := Option.some.inj names
      exact (stage.asks rfl).1
  | confirm named =>
      obtain rfl := Option.some.inj names
      rcases serves with rfl | rfl <;> exact (stage.asks rfl).1
  | _ => cases names

/-- Every packet that an upgrade sends has a header, and if it writes the state of images it marks one
as the mode allows. -/
theorem allows_of_sent {scheme : Scheme} {mtu : Nat} {settings : UpgradeSettings} {images : ImageSet}
    {mode : UpgradeMode} {seq : UInt8}
    (started : start scheme mtu settings images mode seq = .ok origin)
    (named : ∀ target ∈ images.images, target.hash ≠ [])
    (addressable : ∀ target ∈ images.images, target.Addressable) (events : List Event)
    (before after : List Happening) (packet : Bytes)
    (split : history events origin = before ++ .sent packet :: after) :
    ∃ header, Packet.header origin.scheme packet = .ok header ∧
      (header.marksImages = true → ∃ marking,
        Marking.read? origin.scheme packet = some marking ∧ origin.Allows (Log.of before) marking) := by
  have fresh := isFresh_of_start started
  have imagesEq : origin.images = images.images :=
    congrArg (fun brief => brief.2.2.1) (brief_of_start started)
  obtain ⟨sent, logEq, handed⟩ := exists_of_sent split
  have speaks := speaks_after fresh sent
  have course := (course_after fresh sent).1
  rw [logEq]
  rcases sends_of_packet? handed with ⟨question, phaseEq⟩ | ⟨job, phaseEq, jobHanded⟩
  · obtain ⟨completed, ahead, task, stage, begunEq, -, -, serves, -⟩ :=
      course.of_working (.inl (congrArg Phase.isWorking phaseEq))
    rw [phaseEq] at speaks serves
    obtain ⟨seq, built⟩ := speaks
    have target_mem := target_mem_of_serves serves stage
    obtain ⟨⟨header, read, marksEq⟩, marks⟩ := Question.marksImages_packet (fun target names =>
      have member := imagesEq ▸ target_mem target names
      ⟨addressable target member, named target member⟩) built
    refine ⟨header, read, fun marksImages => ?_⟩
    obtain ⟨marking, markingEq⟩ := Option.isSome_iff_exists.mp (marksEq.symm.trans marksImages)
    exact ⟨marking, marks marking markingEq, allows_of_serves serves begunEq stage marking markingEq⟩
  · rw [phaseEq] at speaks
    obtain ⟨target, member, mtu, options, underway⟩ := speaks
    have fits := addressable target (imagesEq ▸ member)
    have holds : (UploadJob.plan origin.scheme mtu (.image target.index) target.data
        options).Addressable := ⟨fits.data_lt, fits.index_lt⟩
    obtain ⟨header, read, marksEq⟩ := (underway.sends jobHanded).marksImages holds rfl
    exact ⟨header, read, fun marksImages => absurd (marksEq.symm.trans marksImages) (by simp)⟩

theorem allows_of_sent_blockedOnce :
    (start .ble 65 { disconnectTimeout := 0 } ⟨[oneByteImage]⟩ .testAndConfirm 0 =
        .ok oneByteStart ∧ (∀ target ∈ [oneByteImage], target.hash ≠ []) ∧
        ∀ target ∈ [oneByteImage], target.Addressable) ∧
      (machine.handed blockedOnce oneByteStart).filterMap (Marking.read? .ble) =
        [{ hash := [7], confirm := false }, { hash := [7], confirm := true }] ∧
      ∀ before after packet, history blockedOnce oneByteStart = before ++ .sent packet :: after →
        ∃ header, Packet.header .ble packet = .ok header ∧
          (header.marksImages = true → ∃ marking, Marking.read? .ble packet = some marking ∧
            oneByteStart.Allows (Log.of before) marking) := by
  have started : start .ble 65 { disconnectTimeout := 0 } ⟨[oneByteImage]⟩ .testAndConfirm 0 =
      .ok oneByteStart := rfl
  have named : ∀ target ∈ [oneByteImage], target.hash ≠ [] := by simp [oneByteImage]
  have addressable : ∀ target ∈ [oneByteImage], target.Addressable := by
    intro target member
    rw [List.mem_singleton.mp member]
    exact ⟨by decide, by decide, by decide⟩
  refine ⟨⟨started, named, addressable⟩, by decide +kernel, fun before after packet split => ?_⟩
  exact allows_of_sent started named addressable blockedOnce before after packet split

end Session

end SmpClient
