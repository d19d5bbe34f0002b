import SmpClient.Proofs.Upgrade.SlotReports
import SmpClient.Proofs.Upgrade.TaskCounts

/-!
# What a plan holds, by the report

What is done with a target image depends on two slots of the report: the one that holds the image, and
if there is none, the one that it is meant for.  The rules speak of these slots only.
-/

namespace SmpClient

def Task.upload? : Task → Option TargetImage
  | .upload target => some target
  | _ => none

namespace ImageState

/-- Whether the slot that an unlisted image is meant for does not run, but waits for a boot or is
confirmed. -/
def Blocks (report : ImageState) (target : TargetImage) : Prop :=
  ¬ report.Lists target ∧ ∃ slot ∈ report.images, target.IsMeantFor slot ∧ slot.active = false ∧
    (slot.pending = true ∨ slot.confirmed = true)

/-- Whether an image is unlisted, and the slot that it is meant for does not run. -/
def Lacks (report : ImageState) (target : TargetImage) : Prop :=
  ¬ report.Lists target ∧ ∀ slot ∈ report.images, target.IsMeantFor slot → slot.active = false

/-- Whether an image is listed and does not run. -/
def HoldsIdle (report : ImageState) (target : TargetImage) : Prop :=
  ∃ slot ∈ report.images, target.IsIn slot ∧ slot.active = false

instance (report : ImageState) (target : TargetImage) : Decidable (report.Blocks target) :=
  inferInstanceAs (Decidable (_ ∧ ∃ slot ∈ report.images, _))

instance (report : ImageState) (target : TargetImage) : Decidable (report.Lacks target) :=
  inferInstanceAs (Decidable (_ ∧ ∀ slot ∈ report.images, _))

instance (report : ImageState) (target : TargetImage) : Decidable (report.HoldsIdle target) :=
  inferInstanceAs (Decidable (∃ slot ∈ report.images, _))

variable {report : ImageState} {target : TargetImage} {occupant : ImageSlot}

theorem HoldsIdle.lists (idle : report.HoldsIdle target) : report.Lists target := by
  obtain ⟨slot, member, isIn, -⟩ := idle
  exact ⟨slot, member, isIn⟩

theorem not_blocks_of_lists (listed : report.Lists target) : ¬ report.Blocks target :=
  fun blocks => blocks.1 listed

theorem not_lacks_of_lists (listed : report.Lists target) : ¬ report.Lacks target :=
  fun lacks => lacks.1 listed

/-- What is written over neither runs, nor waits for a boot, nor is confirmed. -/
theorem Lacks.spares (lacks : report.Lacks target) (free : ¬ report.Blocks target)
    {slot : ImageSlot} (member : slot ∈ report.images) (meant : target.IsMeantFor slot) :
    slot.active = false ∧ slot.pending = false ∧ slot.confirmed = false := by
  have inactive := lacks.2 slot member meant
  have idle : ¬ (slot.pending = true ∨ slot.confirmed = true) := fun waits =>
    free ⟨lacks.1, slot, member, meant, inactive, waits⟩
  rw [not_or, Bool.not_eq_true, Bool.not_eq_true] at idle
  exact ⟨inactive, idle⟩

theorem blocks_iff_of_occupant (once : report.NamesSlotsOnce) (absent : ¬ report.Lists target)
    (found : report.findSlot? target.index target.slot = some occupant) :
    report.Blocks target ↔
      occupant.active = false ∧ (occupant.pending = true ∨ occupant.confirmed = true) := by
  obtain ⟨member, meant⟩ := isMeantFor_of_findSlot? found
  constructor
  · rintro ⟨-, slot, listed, slotMeant, waits⟩
    have same := (findSlot?_of_namesSlotsOnce once listed slotMeant).symm.trans found
    rwa [Option.some.inj same] at waits
  · exact fun waits => ⟨absent, occupant, member, meant, waits⟩

theorem lacks_iff_of_occupant (once : report.NamesSlotsOnce) (absent : ¬ report.Lists target)
    (found : report.findSlot? target.index target.slot = some occupant) :
    report.Lacks target ↔ occupant.active = false := by
  obtain ⟨member, meant⟩ := isMeantFor_of_findSlot? found
  constructor
  · exact fun lacks => lacks.2 occupant member meant
  · refine fun inactive => ⟨absent, fun slot listed slotMeant => ?_⟩
    have same := (findSlot?_of_namesSlotsOnce once listed slotMeant).symm.trans found
    rwa [Option.some.inj same]

theorem free_of_unmeant (absent : ¬ report.Lists target)
    (found : report.findSlot? target.index target.slot = none) :
    ¬ report.Blocks target ∧ report.Lacks target := by
  have unmeant := findSlot?_eq_none_iff.mp found
  refine ⟨?_, absent, fun slot member meant => absurd meant (unmeant slot member)⟩
  rintro ⟨-, slot, member, meant, -⟩
  exact unmeant slot member meant

end ImageState

namespace Verdict

variable {report : ImageState} {target : TargetImage} {mode : UpgradeMode}

theorem ofListed_cases (slot : ImageSlot) :
    slot.active = true ∧ (ofListed slot = .done ∨ ofListed slot = .running) ∨
      slot.active = false ∧
        ((∃ permanent, ofListed slot = .marked permanent) ∨ ofListed slot = .unmarked false) := by
  cases active : slot.active <;> simp only [ofListed, active]
  · cases slot.pending <;> simp
  · cases slot.confirmed <;> simp

theorem ofOccupant_cases (slot : ImageSlot) :
    slot.active = true ∧ ofOccupant (some slot) = .inUse ∨
      slot.active = false ∧
        ((slot.pending = true ∨ slot.confirmed = true) ∧ ofOccupant (some slot) = .blocked ∨
          ¬ (slot.pending = true ∨ slot.confirmed = true) ∧
            ofOccupant (some slot) = .unmarked true) := by
  cases active : slot.active <;> simp only [ofOccupant, active]
  · cases slot.pending <;> cases slot.confirmed <;> simp
  · simp

/-- What a verdict says of the report. -/
inductive Found (report : ImageState) (target : TargetImage) : Verdict → Prop
  | done (listed : report.Lists target) (runs : ¬ report.HoldsIdle target) : Found report target .done
  | running (listed : report.Lists target) (runs : ¬ report.HoldsIdle target) :
      Found report target .running
  | marked (idle : report.HoldsIdle target) (permanent : Bool) :
      Found report target (.marked permanent)
  | unmarked (idle : report.HoldsIdle target) : Found report target (.unmarked false)
  | inUse (absent : ¬ report.Lists target) (runs : ¬ report.Lacks target)
      (free : ¬ report.Blocks target) : Found report target .inUse
  | blocked (blocks : report.Blocks target) : Found report target .blocked
  | missing (lacks : report.Lacks target) (free : ¬ report.Blocks target) :
      Found report target (.unmarked true)

theorem found_ofListed {slot : ImageSlot} (once : report.HoldsImagesOnce)
    (held : report.holding? target = some slot) : Found report target (ofListed slot) := by
  obtain ⟨member, isIn⟩ := ImageState.isIn_of_holding? held
  rcases ofListed_cases slot with ⟨active, is⟩ | ⟨inactive, is⟩
  -- The slot is the only one with the image, so that no other slot holds it idle.
  · have runs : ¬ report.HoldsIdle target := by
      rintro ⟨other, listed, otherIn, inactive⟩
      have same := (ImageState.holding?_of_holdsImagesOnce once listed otherIn).symm.trans held
      rw [Option.some.inj same, active] at inactive
      cases inactive
    rcases is with is | is
    · exact is ▸ .done ⟨slot, member, isIn⟩ runs
    · exact is ▸ .running ⟨slot, member, isIn⟩ runs
  · have idle : report.HoldsIdle target := ⟨slot, member, isIn, inactive⟩
    rcases is with ⟨permanent, is⟩ | is
    · exact is ▸ .marked idle permanent
    · exact is ▸ .unmarked idle

theorem found_ofOccupant (once : report.NamesSlotsOnce) (absent : ¬ report.Lists target) :
    Found report target (ofOccupant (report.findSlot? target.index target.slot)) := by
  cases found : report.findSlot? target.index target.slot with
  | none =>
      obtain ⟨free, lacks⟩ := ImageState.free_of_unmeant absent found
      exact .missing lacks free
  | some slot =>
      have blocksIff := ImageState.blocks_iff_of_occupant once absent found
      have lacksIff := ImageState.lacks_iff_of_occupant once absent found
      rcases ofOccupant_cases slot with ⟨active, is⟩ | ⟨inactive, ⟨waits, is⟩ | ⟨free, is⟩⟩
      · exact is ▸ .inUse absent (by simp [lacksIff, active]) (by simp [blocksIff, active])
      · exact is ▸ .blocked (blocksIff.mpr ⟨inactive, waits⟩)
      · exact is ▸ .missing (lacksIff.mpr inactive) fun blocks => free (blocksIff.mp blocks).2

/-- A report that names each slot once and holds each image once bears its verdicts out. -/
theorem found_judge (slotsOnce : report.NamesSlotsOnce) (imagesOnce : report.HoldsImagesOnce)
    (target : TargetImage) : Found report target (judge target report) := by
  cases held : report.holding? target with
  | some slot => exact judge_of_holding? held ▸ found_ofListed imagesOnce held
  | none =>
      have absent := ImageState.holding?_eq_none_iff.mp held
      exact judge_of_not_lists absent ▸ found_ofOccupant slotsOnce absent

variable {verdict : Verdict}

theorem Found.eq_blocked_iff (found : Found report target verdict) :
    verdict = .blocked ↔ report.Blocks target := by
  cases found with
  | done listed | running listed => simp [ImageState.not_blocks_of_lists listed]
  | marked idle | unmarked idle => simp [ImageState.not_blocks_of_lists idle.lists]
  | inUse _ _ free | missing _ free => simp [free]
  | blocked blocks => simp [blocks]

theorem Found.eq_missing_iff (found : Found report target verdict)
    (free : ¬ report.Blocks target) : verdict = .unmarked true ↔ report.Lacks target := by
  cases found with
  | done listed | running listed => simp [ImageState.not_lacks_of_lists listed]
  | marked idle | unmarked idle => simp [ImageState.not_lacks_of_lists idle.lists]
  | inUse _ runs => simp [runs]
  | blocked blocks => exact absurd blocks free
  | missing lacks => simp [lacks]

/-- An image has to be booted if it is uploaded, or is listed and does not run. -/
theorem Found.needsReset_iff (found : Found report target verdict) (free : ¬ report.Blocks target) :
    verdict.needsReset mode = true ↔
      mode ≠ .uploadOnly ∧ (report.Lacks target ∨ report.HoldsIdle target) := by
  cases found with
  | done listed runs | running listed runs =>
      simp [needsReset, ImageState.not_lacks_of_lists listed, runs]
  | marked idle | unmarked idle => simp [needsReset, idle]
  | inUse absent runs => simp [needsReset, runs, mt ImageState.HoldsIdle.lists absent]
  | blocked blocks => exact absurd blocks free
  | missing lacks => simp [needsReset, lacks]

theorem filterMap_upload?_tasks (verdict : Verdict) (mode : UpgradeMode) (confirmsOnBoot : Bool)
    (target : TargetImage) :
    (verdict.tasks mode confirmsOnBoot target).filterMap Task.upload? =
      if verdict = .unmarked true then [target] else [] := by
  cases verdict with
  | done | blocked | inUse => rfl
  | running => cases mode <;> rfl
  | marked permanent => cases permanent <;> cases confirmsOnBoot <;> cases mode <;> rfl
  | unmarked missing => cases missing <;> cases confirmsOnBoot <;> cases mode <;> rfl

end Verdict

namespace Plan

variable (plan : Plan)

theorem upload?_eq_none_of_mem_resetTasks {task : Task} (member : task ∈ plan.resetTasks) :
    task.upload? = none := by
  rcases mem_resetTasks member with rfl | rfl <;> rfl

/-- The images that are missing are uploaded, in their order. -/
theorem uploads_eq :
    (plan.imageTasks ++ plan.resetTasks).filterMap Task.upload? =
      plan.images.filter fun target => Verdict.judge target plan.slots = .unmarked true := by
  have resets : plan.resetTasks.filterMap Task.upload? = [] :=
    List.filterMap_eq_nil_iff.mpr fun _ member => plan.upload?_eq_none_of_mem_resetTasks member
  rw [List.filterMap_append, resets, List.append_nil, imageTasks, verdicts, List.flatMap_map]
  induction plan.images with
  | nil => rfl
  | cons target rest ih =>
      rw [List.flatMap_cons, List.filterMap_append, ih, Verdict.filterMap_upload?_tasks]
      by_cases missing : Verdict.judge target plan.slots = .unmarked true <;> simp [missing]

theorem reset_mem_iff :
    .reset ∈ plan.imageTasks ++ plan.resetTasks ↔
      ∃ target ∈ plan.images, (Verdict.judge target plan.slots).needsReset plan.mode = true := by
  constructor
  · intro member
    have unasked : .reset ∉ plan.imageTasks := List.count_eq_zero.mp (plan.count_imageTasks rfl)
    rw [List.mem_append, or_iff_right unasked, resetTasks] at member
    split at member
    · rename_i needed
      obtain ⟨_, judged, needs⟩ := List.any_eq_true.mp needed
      obtain ⟨target, listed, rfl⟩ := List.mem_map.mp judged
      exact ⟨target, listed, needs⟩
    · cases member
  · rintro ⟨target, listed, needed⟩
    exact reset_mem_of_needsReset listed needed

theorem eraseStorage_mem_iff :
    .eraseStorage ∈ plan.imageTasks ++ plan.resetTasks ↔
      .reset ∈ plan.imageTasks ++ plan.resetTasks ∧ plan.eraseSettings = true := by
  have unasked : .eraseStorage ∉ plan.imageTasks :=
    List.count_eq_zero.mp (plan.count_imageTasks rfl)
  have unreset : .reset ∉ plan.imageTasks := List.count_eq_zero.mp (plan.count_imageTasks rfl)
  rw [List.mem_append, or_iff_right unasked, List.mem_append, or_iff_right unreset, resetTasks]
  split
  · cases plan.eraseSettings <;> simp
  · simp

/-- What a plan asks for if no slot is blocked, by the report of the slots. -/
structure Accords (found : List Task) : Prop where
  uploads : found.filterMap Task.upload? = plan.images.filter fun target => plan.slots.Lacks target
  /-- No image is overwritten that runs, waits for a boot or is confirmed. -/
  spares : ∀ target, .upload target ∈ found →
    ∀ slot ∈ plan.slots.images, target.IsMeantFor slot →
      slot.active = false ∧ slot.pending = false ∧ slot.confirmed = false
  resets_le : found.count .reset ≤ 1
  reset_iff : .reset ∈ found ↔ plan.mode ≠ .uploadOnly ∧
    ∃ target ∈ plan.images, plan.slots.Lacks target ∨ plan.slots.HoldsIdle target
  marks : ∀ target, .test target ∈ found ∨ .confirmAfterReset target ∈ found → .reset ∈ found
  erases_le : found.count .eraseStorage ≤ 1
  erase_iff : .eraseStorage ∈ found ↔ .reset ∈ found ∧ plan.eraseSettings = true

variable {plan}

theorem accords_of_free (slotsOnce : plan.slots.NamesSlotsOnce)
    (imagesOnce : plan.slots.HoldsImagesOnce)
    (free : ∀ target ∈ plan.images, ¬ plan.slots.Blocks target) :
    plan.Accords (plan.imageTasks ++ plan.resetTasks) := by
  have found := Verdict.found_judge slotsOnce imagesOnce
  have uploads : (plan.imageTasks ++ plan.resetTasks).filterMap Task.upload? =
      plan.images.filter fun target => plan.slots.Lacks target := by
    rw [uploads_eq]
    refine List.filter_congr fun target listed => ?_
    exact decide_eq_decide.mpr ((found target).eq_missing_iff (free target listed))
  constructor
  case uploads => exact uploads
  case spares =>
    intro target member slot listed meant
    have uploaded : target ∈ plan.images.filter fun target => plan.slots.Lacks target := by
      rw [← uploads]
      exact List.mem_filterMap.mpr ⟨_, member, rfl⟩
    obtain ⟨image, lacks⟩ := List.mem_filter.mp uploaded
    exact (of_decide_eq_true lacks).spares (free target image) listed meant
  case resets_le => exact plan.counts_tasks.resets
  case reset_iff =>
    rw [reset_mem_iff]
    constructor
    · rintro ⟨target, listed, needed⟩
      obtain ⟨mode, idle⟩ := ((found target).needsReset_iff (free target listed)).mp needed
      exact ⟨mode, target, listed, idle⟩
    · rintro ⟨mode, target, listed, idle⟩
      exact ⟨target, listed, ((found target).needsReset_iff (free target listed)).mpr ⟨mode, idle⟩⟩
  case marks =>
    rintro target (member | member)
    · exact reset_mem_of_marks (.inl rfl) member
    · exact reset_mem_of_marks (.inr rfl) member
  case erases_le => exact plan.counts_tasks.erases
  case erase_iff => exact plan.eraseStorage_mem_iff

/-- The report of the slots says what a plan asks for: another round of rebooting and looking as long as
a slot is blocked, which is refused after the last one, and otherwise all that the report accords with. -/
theorem tasks_by_report (plan : Plan) (slotsOnce : plan.slots.NamesSlotsOnce)
    (imagesOnce : plan.slots.HoldsImagesOnce) :
    ((∃ target ∈ plan.images, plan.slots.Blocks target) →
      plan.tasks =
        if plan.attempt < maxRevalidations then
          .ok [.resetBeforeUpload, .validate (plan.attempt + 1)]
        else .error (.revalidationLimit plan.attempt)) ∧
      ((∀ target ∈ plan.images, ¬ plan.slots.Blocks target) →
        ∃ found, plan.tasks = .ok found ∧ plan.Accords found) := by
  have found := Verdict.found_judge slotsOnce imagesOnce
  constructor
  · rintro ⟨target, listed, blocks⟩
    rw [plan.tasks_of_blocked ⟨target, listed, (found target).eq_blocked_iff.mpr blocks⟩]
    by_cases left : plan.attempt < maxRevalidations
    · rw [if_pos left, if_neg (Nat.not_le_of_lt left)]
    · rw [if_neg left, if_pos (Nat.le_of_not_lt left)]
  · intro free
    refine ⟨_, plan.tasks_of_unblocked fun target listed same => ?_,
      accords_of_free slotsOnce imagesOnce free⟩
    exact free target listed ((found target).eq_blocked_iff.mp same)

/-- A device with two cores.  It lacks the image for one, holds that for the other, and is to forget its
settings. -/
def twoCores : Plan :=
  { images := [{ index := 0, slot := 1, data := [1], hash := [7] },
      { index := 1, slot := 1, data := [2], hash := [8] }]
    mode := .testOnly
    slots := { images := [{ image := 0, slot := 0, hash := [5], active := true, confirmed := true },
      { image := 1, slot := 0, hash := [6], active := true, confirmed := true },
      { image := 1, slot := 1, hash := [8] }] }
    bootloader := none
    eraseSettings := true
    attempt := 3 }

/-- The same device with an image that waits for a boot where one is to be written. -/
def twoCoresBlocked : Plan :=
  { twoCores with
    slots := { images := { image := 0, slot := 1, hash := [9], pending := true } ::
      twoCores.slots.images } }

theorem tasks_by_report_twoCores :
    ((twoCores.slots.NamesSlotsOnce ∧ twoCores.slots.HoldsImagesOnce ∧
        ∀ target ∈ twoCores.images, ¬ twoCores.slots.Blocks target) ∧
      ∃ found, twoCores.tasks = .ok found ∧ twoCores.Accords found) ∧
      (twoCoresBlocked.slots.NamesSlotsOnce ∧ twoCoresBlocked.slots.HoldsImagesOnce ∧
        ∃ target ∈ twoCoresBlocked.images, twoCoresBlocked.slots.Blocks target) ∧
      twoCoresBlocked.tasks = .error (.revalidationLimit 3) := by
  have slotsOnce : twoCores.slots.NamesSlotsOnce := by decide
  have imagesOnce : twoCores.slots.HoldsImagesOnce := by decide
  have free : ∀ target ∈ twoCores.images, ¬ twoCores.slots.Blocks target := by decide
  have slotsOnce' : twoCoresBlocked.slots.NamesSlotsOnce := by decide
  have imagesOnce' : twoCoresBlocked.slots.HoldsImagesOnce := by decide
  have blocks : ∃ target ∈ twoCoresBlocked.images, twoCoresBlocked.slots.Blocks target := by decide
  exact ⟨⟨⟨slotsOnce, imagesOnce, free⟩, (tasks_by_report twoCores slotsOnce imagesOnce).2 free⟩,
    ⟨slotsOnce', imagesOnce', blocks⟩, (tasks_by_report twoCoresBlocked slotsOnce' imagesOnce').1 blocks⟩

end Plan

/-! ## Boot loaders that confirm what they boot -/

/-- Whether an image runs without being confirmed, in the first slot that holds it. -/
def ImageState.RunsUnconfirmed (report : ImageState) (target : TargetImage) : Prop :=
  ∃ slot, report.holding? target = some slot ∧ slot.active = true ∧ slot.confirmed = false

namespace Verdict

variable {report : ImageState} {target : TargetImage} {mode : UpgradeMode} {task : Task}

theorem ofListed_eq_running_iff (slot : ImageSlot) :
    ofListed slot = .running ↔ slot.active = true ∧ slot.confirmed = false := by
  cases active : slot.active <;> simp only [ofListed, active]
  · cases slot.pending <;> simp
  · cases slot.confirmed <;> simp

theorem judge_eq_running_iff : judge target report = .running ↔ report.RunsUnconfirmed target := by
  cases held : report.holding? target with
  | some slot => simp [judge_of_holding? held, ofListed_eq_running_iff, ImageState.RunsUnconfirmed, held]
  | none =>
      rw [judge_of_not_lists (ImageState.holding?_eq_none_iff.mp held)]
      simp [ofOccupant_ne_running, ImageState.RunsUnconfirmed, held]

theorem mark_mem_tasks_iff {verdict : Verdict} :
    task ∈ verdict.tasks mode true target ∧ task.isMark = true ↔
      verdict = .running ∧ (mode = .confirmOnly ∨ mode = .testAndConfirm) ∧
        task = .confirm target := by
  cases verdict with
  | done | blocked | inUse | marked permanent => simp [tasks]
  | running =>
      cases mode <;> simp only [tasks, List.mem_singleton, List.not_mem_nil] <;> simp
      all_goals
        rintro rfl
        rfl
  | unmarked missing =>
      cases missing <;> simp [tasks]
      rintro rfl
      rfl

end Verdict

namespace Plan

variable {plan : Plan} {task : Task} {found : List Task}

/-- A boot loader that confirms what it boots is still asked to confirm the images that run, in the modes
that confirm and unless a slot has to be cleared first, and to mark nothing else. -/
theorem mark_mem_iff_of_confirmsOnBoot (bootloader : plan.bootloader = some .directXipWithoutRevert)
    (planned : plan.tasks = .ok found) :
    task ∈ found ∧ task.isMark = true ↔
      .resetBeforeUpload ∉ found ∧ (plan.mode = .confirmOnly ∨ plan.mode = .testAndConfirm) ∧
        ∃ target ∈ plan.images, plan.slots.RunsUnconfirmed target ∧ task = .confirm target := by
  have confirms : plan.confirmsOnBoot = true := by
    rw [confirmsOnBoot, bootloader]
    rfl
  rcases tasks_cases planned with ⟨-, rfl⟩ | rfl
  · refine iff_of_false ?_ fun others => others.1 List.mem_cons_self
    rintro ⟨member, marks⟩
    rcases List.mem_pair.mp member with rfl | rfl <;> cases marks
  · have unblocked : .resetBeforeUpload ∉ plan.imageTasks ++ plan.resetTasks := fun member =>
      (ne_round_of_mem member).1 rfl
    constructor
    · rintro ⟨member, marks⟩
      rcases List.mem_append.mp member with images | resets
      · obtain ⟨target, listed, asked⟩ := mem_imageTasks_iff.mp images
        rw [confirms] at asked
        obtain ⟨runs, confirming, same⟩ := Verdict.mark_mem_tasks_iff.mp ⟨asked, marks⟩
        exact ⟨unblocked, confirming, target, listed, Verdict.judge_eq_running_iff.mp runs, same⟩
      · rcases mem_resetTasks resets with rfl | rfl <;> cases marks
    · rintro ⟨-, confirming, target, listed, runs, same⟩
      obtain ⟨asked, marks⟩ := Verdict.mark_mem_tasks_iff.mpr
        ⟨Verdict.judge_eq_running_iff.mpr runs, confirming, same⟩
      refine ⟨List.mem_append_left _ (mem_imageTasks_iff.mpr ⟨target, listed, ?_⟩), marks⟩
      rwa [confirms]

/-- The image runs, and is to be confirmed for a boot loader that needs no confirmation. -/
def selfConfirming : Plan :=
  { images := [Session.oneByteImage]
    mode := .confirmOnly
    slots := { images := [{ hash := [7], active := true }] }
    bootloader := some .directXipWithoutRevert
    eraseSettings := false
    attempt := 0 }

theorem mark_mem_iff_selfConfirming :
    (selfConfirming.bootloader = some .directXipWithoutRevert ∧
        selfConfirming.tasks = .ok [.confirm Session.oneByteImage]) ∧
      ∀ task : Task, task ∈ [Task.confirm Session.oneByteImage] ∧ task.isMark = true ↔
        Task.resetBeforeUpload ∉ [Task.confirm Session.oneByteImage] ∧
          (selfConfirming.mode = .confirmOnly ∨ selfConfirming.mode = .testAndConfirm) ∧
            ∃ target ∈ selfConfirming.images,
              selfConfirming.slots.RunsUnconfirmed target ∧ task = .confirm target :=
  ⟨⟨rfl, rfl⟩, fun _ => mark_mem_iff_of_confirmsOnBoot rfl rfl⟩

/-- The boot loader is asked for what it does by itself. -/
theorem marked_of_confirmsOnBoot :
    selfConfirming.bootloader = some .directXipWithoutRevert ∧
      BootloaderMode.directXipWithoutRevert.confirmsOnBoot = true ∧
        ∃ found, selfConfirming.tasks = .ok found ∧ ∃ task ∈ found, task.isMark = true :=
  ⟨rfl, rfl, _, rfl, _, List.mem_singleton.mpr rfl, rfl⟩

end Plan

end SmpClient
