import Mathlib.Data.List.Basic
import SmpClient.Upgrade.Plan

/-!
# What a plan asks for

Which tasks an image gets depends on the mode of the upgrade and on what the device lists.  An image is
confirmed at once only if that is the mode or if it runs; otherwise a reboot comes first.
-/

namespace SmpClient

/-- The image that a task is for. -/
def Task.target? : Task → Option TargetImage
  | .upload target | .test target | .confirm target | .confirmAfterReset target => some target
  | .resetBeforeUpload | .validate _ | .eraseStorage | .reset => none

namespace Verdict

/-- The tasks that an image can get. -/
inductive Asks (mode : UpgradeMode) (target : TargetImage) (verdict : Verdict) : Task → Prop
  | upload : Asks mode target verdict (.upload target)
  | test (testing : mode = .testOnly ∨ mode = .testAndConfirm) :
      Asks mode target verdict (.test target)
  | confirm (confirming : mode = .confirmOnly ∨ mode = .testAndConfirm ∧ verdict = .running) :
      Asks mode target verdict (.confirm target)
  | confirmAfterReset (confirming : mode = .testAndConfirm)
      (resets : verdict.needsReset mode = true) :
      Asks mode target verdict (.confirmAfterReset target)

theorem asks_of_mem_tasks {mode : UpgradeMode} {confirmsOnBoot : Bool} {target : TargetImage}
    {verdict : Verdict} {task : Task} (member : task ∈ verdict.tasks mode confirmsOnBoot target) :
    Asks mode target verdict task := by
  cases verdict with
  | done | blocked | inUse => cases member
  | running =>
      cases mode <;> simp [tasks] at member <;> subst member
      · exact .confirm (.inl rfl)
      · exact .confirm (.inr ⟨rfl, rfl⟩)
  | marked permanent =>
      cases permanent <;> cases confirmsOnBoot <;> cases mode <;> simp [tasks] at member <;>
        subst member
      · exact .confirm (.inl rfl)
      · exact .confirmAfterReset rfl rfl
  | unmarked missing =>
      simp only [tasks, List.mem_append] at member
      rcases member with uploads | marks
      · cases missing <;> simp at uploads
        subst uploads
        exact .upload
      · cases confirmsOnBoot <;> cases mode <;> simp at marks
        · subst marks
          exact .test (.inl rfl)
        · subst marks
          exact .confirm (.inl rfl)
        · rcases marks with rfl | rfl
          · exact .test (.inr rfl)
          · exact .confirmAfterReset rfl rfl

/-- An image that is tested, or confirmed after the reset, needs the reset. -/
theorem needsReset_of_mem_tasks {mode : UpgradeMode} {confirmsOnBoot : Bool} {target : TargetImage}
    {verdict : Verdict} {task : Task} (marks : task = .test target ∨ task = .confirmAfterReset target)
    (member : task ∈ verdict.tasks mode confirmsOnBoot target) : verdict.needsReset mode = true := by
  cases verdict with
  | done | blocked | inUse => cases member
  | running => rcases marks with rfl | rfl <;> cases mode <;> simp [tasks] at member
  | marked permanent | unmarked missing =>
      -- Only without a mode to boot in there is nothing to test.
      cases mode with
      | uploadOnly => rcases marks with rfl | rfl <;> simp [tasks] at member
      | _ => rfl

theorem ofOccupant_ne_running (occupant : Option ImageSlot) : ofOccupant occupant ≠ .running := by
  cases occupant with
  | none => simp [ofOccupant]
  | some slot =>
      rw [ofOccupant]
      split
      · simp
      · split <;> simp

/-- An image that runs is listed as active. -/
theorem active_of_judge_eq_running {target : TargetImage} {slots : ImageState}
    (running : judge target slots = .running) :
    ∃ slot ∈ slots.images, slot.image = target.index ∧ slot.hash = target.hash ∧
      slot.active = true := by
  simp only [judge] at running
  split at running
  · rename_i slot found
    have listed := List.find?_some found
    rw [Bool.and_eq_true, decide_eq_true_eq, decide_eq_true_eq] at listed
    refine ⟨slot, List.mem_of_find?_eq_some found, listed.1, listed.2, ?_⟩
    simp only [ofListed] at running
    split at running
    · assumption
    · split at running <;> cases running
  · exact absurd running (ofOccupant_ne_running _)

end Verdict

namespace Plan

variable {plan : Plan} {task : Task} {found : List Task}

/-- While a slot is blocked, a look at the device leads to another round or to none. -/
theorem tasks_of_blocked (plan : Plan)
    (blocked : ∃ target ∈ plan.images, Verdict.judge target plan.slots = .blocked) :
    plan.tasks =
      if maxRevalidations ≤ plan.attempt then .error (.revalidationLimit plan.attempt)
      else .ok [.resetBeforeUpload, .validate (plan.attempt + 1)] := by
  obtain ⟨target, member, judged⟩ := blocked
  rw [tasks, if_pos]
  exact List.any_eq_true.mpr ⟨_, List.mem_map_of_mem member, decide_eq_true judged⟩

/-- If no slot is blocked, all that is to be done is found at once. -/
theorem tasks_of_unblocked (plan : Plan)
    (unblocked : ∀ target ∈ plan.images, Verdict.judge target plan.slots ≠ .blocked) :
    plan.tasks = .ok (plan.imageTasks ++ plan.resetTasks) := by
  rw [tasks, if_neg]
  intro blocked
  obtain ⟨⟨target, verdict⟩, judged, isBlocked⟩ := List.any_eq_true.mp blocked
  obtain ⟨image, listed, same⟩ := List.mem_map.mp judged
  cases same
  exact unblocked target listed (of_decide_eq_true isBlocked)

/-- A look at the device finds that a slot is blocked, or all that is to be done. -/
theorem tasks_cases (planned : plan.tasks = .ok found) :
    (plan.attempt < maxRevalidations ∧ found = [.resetBeforeUpload, .validate (plan.attempt + 1)]) ∨
      found = plan.imageTasks ++ plan.resetTasks := by
  rw [tasks] at planned
  split at planned
  · split at planned
    · cases planned
    · rename_i left
      exact .inl ⟨Nat.lt_of_not_le left, (Except.ok.inj planned).symm⟩
  · exact .inr (Except.ok.inj planned).symm

theorem mem_imageTasks_iff :
    task ∈ plan.imageTasks ↔ ∃ target ∈ plan.images,
      task ∈ (Verdict.judge target plan.slots).tasks plan.mode plan.confirmsOnBoot target := by
  rw [imageTasks, verdicts, List.flatMap_map, List.mem_flatMap]

theorem asks_of_mem_imageTasks (member : task ∈ plan.imageTasks) :
    ∃ target ∈ plan.images, (Verdict.judge target plan.slots).Asks plan.mode target task := by
  obtain ⟨target, listed, member⟩ := mem_imageTasks_iff.mp member
  exact ⟨target, listed, Verdict.asks_of_mem_tasks member⟩

theorem mem_resetTasks (member : task ∈ plan.resetTasks) : task = .eraseStorage ∨ task = .reset := by
  rw [resetTasks] at member
  split at member
  · rcases List.mem_append.mp member with erases | resets
    · split at erases
      · exact .inl (List.mem_singleton.mp erases)
      · cases erases
    · exact .inr (List.mem_singleton.mp resets)
  · cases member

/-- A task for an image is one that the image can get. -/
theorem asks_of_mem {target : TargetImage} (names : task.target? = some target)
    (member : task ∈ plan.imageTasks ++ plan.resetTasks) :
    target ∈ plan.images ∧ (Verdict.judge target plan.slots).Asks plan.mode target task := by
  rcases List.mem_append.mp member with images | resets
  · obtain ⟨image, listed, asks⟩ := asks_of_mem_imageTasks images
    obtain rfl : image = target := by
      cases asks <;> exact Option.some.inj names
    exact ⟨listed, asks⟩
  · rcases mem_resetTasks resets with rfl | rfl <;> cases names

/-- The device is not looked at again, and no slot is cleared. -/
theorem ne_round_of_mem (member : task ∈ plan.imageTasks ++ plan.resetTasks) :
    task ≠ .resetBeforeUpload ∧ ∀ attempt, task ≠ .validate attempt := by
  rcases List.mem_append.mp member with images | resets
  · obtain ⟨target, -, asks⟩ := asks_of_mem_imageTasks images
    cases asks <;> simp
  · rcases mem_resetTasks resets with rfl | rfl <;> simp

theorem reset_mem_of_needsReset {target : TargetImage} (listed : target ∈ plan.images)
    (needed : (Verdict.judge target plan.slots).needsReset plan.mode = true) :
    .reset ∈ plan.imageTasks ++ plan.resetTasks := by
  refine List.mem_append_right _ ?_
  rw [resetTasks, if_pos]
  · exact List.mem_append_right _ (List.mem_singleton.mpr rfl)
  · exact List.any_eq_true.mpr ⟨_, List.mem_map_of_mem listed, needed⟩

/-- What is tested, or confirmed after the reset, comes with the reset. -/
theorem reset_mem_of_marks {target : TargetImage}
    (marks : task = .test target ∨ task = .confirmAfterReset target)
    (member : task ∈ plan.imageTasks ++ plan.resetTasks) :
    .reset ∈ plan.imageTasks ++ plan.resetTasks := by
  rcases List.mem_append.mp member with images | resets
  · obtain ⟨image, listed, asked⟩ := mem_imageTasks_iff.mp images
    have asks := Verdict.asks_of_mem_tasks asked
    obtain rfl : image = target := by
      rcases marks with rfl | rfl <;> cases asks <;> rfl
    exact reset_mem_of_needsReset listed (Verdict.needsReset_of_mem_tasks marks asked)
  · rcases marks with rfl | rfl <;> rcases mem_resetTasks resets with same | same <;> cases same

end Plan

end SmpClient
