import SmpClient.Proofs.Upgrade.PlanContents

/-!
# Plans and the order of the slots

A plan takes an image from the first slot that holds it.  So the order in which the device lists its
slots does not matter to any plan if all slots with one image are in the same condition, and only then.
-/

namespace SmpClient

/-- Whether a plan sees no difference between two slots with the same image. -/
structure ImageSlot.IsLike (first second : ImageSlot) : Prop where
  active : first.active = second.active
  confirmed : first.active = true → first.confirmed = second.confirmed
  pending : first.active = false → first.pending = second.pending
  permanent : first.active = false → first.pending = true → first.permanent = second.permanent

/-- The plan for one image only. -/
def Plan.single (target : TargetImage) (mode : UpgradeMode) (slots : ImageState) : Plan :=
  { images := [target], mode, slots, bootloader := none, eraseSettings := false, attempt := 0 }

namespace ImageState

variable {report other : ImageState} {target : TargetImage} {slot : ImageSlot}

theorem findSlot?_of_perm (once : report.NamesSlotsOnce) (perm : other.images.Perm report.images) :
    other.findSlot? target.index target.slot = report.findSlot? target.index target.slot := by
  cases found : other.findSlot? target.index target.slot with
  | some slot =>
      obtain ⟨member, meant⟩ := isMeantFor_of_findSlot? found
      exact (findSlot?_of_namesSlotsOnce once (perm.mem_iff.mp member) meant).symm
  | none =>
      refine (findSlot?_eq_none_iff.mpr fun slot member => ?_).symm
      exact findSlot?_eq_none_iff.mp found slot (perm.mem_iff.mpr member)

theorem lists_of_perm (perm : other.images.Perm report.images) :
    other.Lists target ↔ report.Lists target := by
  simp only [Lists, perm.mem_iff]

end ImageState

namespace Verdict

variable {report other : ImageState} {target : TargetImage}

theorem ofListed_of_isLike {first second : ImageSlot} (alike : first.IsLike second) :
    ofListed first = ofListed second := by
  obtain ⟨active, confirmed, pending, permanent⟩ := alike
  simp only [ofListed, ← active]
  cases runs : first.active with
  | true => simp [confirmed runs]
  | false =>
      rw [← pending runs]
      cases waits : first.pending with
      | true => simp [permanent runs waits]
      | false => rfl

theorem judge_of_perm (once : report.NamesSlotsOnce) (perm : other.images.Perm report.images)
    (alike : ∀ first ∈ report.images, ∀ second ∈ report.images,
      target.IsIn first → target.IsIn second → first.IsLike second) :
    judge target other = judge target report := by
  cases held : other.holding? target with
  | some first =>
      obtain ⟨member, firstIn⟩ := ImageState.isIn_of_holding? held
      have listed := perm.mem_iff.mp member
      obtain ⟨second, heldHere⟩ := Option.ne_none_iff_exists'.mp
        (mt ImageState.holding?_eq_none_iff.mp (not_not_intro ⟨first, listed, firstIn⟩))
      obtain ⟨memberHere, secondIn⟩ := ImageState.isIn_of_holding? heldHere
      rw [judge_of_holding? held, judge_of_holding? heldHere]
      exact ofListed_of_isLike (alike first listed second memberHere firstIn secondIn)
  | none =>
      have absent := ImageState.holding?_eq_none_iff.mp held
      rw [judge_of_not_lists absent, ImageState.findSlot?_of_perm once perm,
        judge_of_not_lists (mt (ImageState.lists_of_perm perm).mpr absent)]

theorem exists_perm_judge_eq {slot : ImageSlot} (member : slot ∈ report.images)
    (isIn : target.IsIn slot) :
    ∃ other : ImageState, other.images.Perm report.images ∧ judge target other = ofListed slot := by
  have fits := TargetImage.isIn_iff.mpr isIn
  obtain ⟨images, perm, found⟩ := List.exists_perm_find?_eq_some
    (fun slot => slot.image = target.index && slot.hash = target.hash) member fits
  exact ⟨{ images }, perm, judge_of_holding? found⟩

end Verdict

namespace Plan

/-- A plan depends on the slots by its verdicts only. -/
theorem tasks_congr {plan : Plan} {slots : ImageState}
    (same : ∀ target ∈ plan.images, Verdict.judge target slots = Verdict.judge target plan.slots) :
    { plan with slots }.tasks = plan.tasks := by
  have verdictsEq : { plan with slots }.verdicts = plan.verdicts :=
    List.map_congr_left fun target listed => congrArg (target, ·) (same target listed)
  simp only [tasks, imageTasks, resetTasks, verdictsEq, confirmsOnBoot]

variable {report other : ImageState} {target : TargetImage} {slot : ImageSlot}

theorem tasks_single (mode : UpgradeMode)
    (judged : Verdict.judge target report = Verdict.ofListed slot) :
    (single target mode report).tasks =
      .ok ((Verdict.ofListed slot).tasks mode false target ++
        if (Verdict.ofListed slot).needsReset mode then [.reset] else []) := by
  have unblocked : ∀ image ∈ [target], Verdict.judge image report ≠ .blocked := by
    rcases Verdict.ofListed_cases slot with ⟨-, is | is⟩ | ⟨-, ⟨permanent, is⟩ | is⟩ <;>
      simp [judged, is]
  rw [tasks_of_unblocked (single target mode report) unblocked]
  simp [imageTasks, resetTasks, verdicts, single, confirmsOnBoot, judged]

theorem tasks_single_testOnly (judged : Verdict.judge target report = Verdict.ofListed slot) :
    (single target .testOnly report).tasks =
      .ok (if slot.active then [] else if slot.pending then [.reset] else [.test target, .reset]) := by
  rw [tasks_single .testOnly judged, Verdict.ofListed]
  cases slot.active with
  | true => cases slot.confirmed <;> rfl
  | false => cases slot.pending <;> cases slot.permanent <;> rfl

theorem tasks_single_confirmOnly (judged : Verdict.judge target report = Verdict.ofListed slot) :
    (single target .confirmOnly report).tasks =
      .ok (if slot.active then if slot.confirmed then [] else [.confirm target]
        else if slot.pending && slot.permanent then [.reset] else [.confirm target, .reset]) := by
  rw [tasks_single .confirmOnly judged, Verdict.ofListed]
  cases slot.active with
  | true => cases slot.confirmed <;> rfl
  | false => cases slot.pending <;> cases slot.permanent <;> rfl

/-- Slots that give the same plan in every mode are alike. -/
theorem isLike_of_tasks_eq {second : ImageSlot}
    (judged : Verdict.judge target report = Verdict.ofListed slot)
    (judgedOther : Verdict.judge target other = Verdict.ofListed second)
    (same : ∀ mode, (single target mode report).tasks = (single target mode other).tasks) :
    slot.IsLike second := by
  -- The plan to test tells whether a slot runs and whether it waits, the plan to confirm all the rest.
  have testing := same .testOnly
  rw [tasks_single_testOnly judged, tasks_single_testOnly judgedOther, Except.ok.injEq] at testing
  have confirming := same .confirmOnly
  rw [tasks_single_confirmOnly judged, tasks_single_confirmOnly judgedOther,
    Except.ok.injEq] at confirming
  cases active : slot.active <;> cases activeOther : second.active <;>
    simp only [active, activeOther, if_true, Bool.false_eq_true, if_false] at testing confirming
  · have pendingEq : slot.pending = second.pending :=
      Bool.eq_iff_iff.mpr ((ite_eq_ite_iff (by simp)).mp testing)
    refine ⟨active.trans activeOther.symm, fun runs => ?_, fun _ => pendingEq, fun _ waits => ?_⟩
    · cases active.symm.trans runs
    · rw [← pendingEq, waits, Bool.true_and, Bool.true_and] at confirming
      exact Bool.eq_iff_iff.mpr ((ite_eq_ite_iff (by simp)).mp confirming)
  · split at testing <;> cases testing
  · split at testing <;> cases testing
  · have confirmedEq : slot.confirmed = second.confirmed :=
      Bool.eq_iff_iff.mpr ((ite_eq_ite_iff (by simp)).mp confirming)
    refine ⟨active.trans activeOther.symm, fun _ => confirmedEq, fun idle => ?_, fun idle => ?_⟩
    · cases active.symm.trans idle
    · cases active.symm.trans idle

/-- Where slots are named once, the order of the slots matters to no plan for some of the images, if and
only if all slots with the same one of these images are alike. -/
theorem tasks_order_iff {targets : List TargetImage} (once : report.NamesSlotsOnce) :
    (∀ plan : Plan, plan.slots = report → plan.images ⊆ targets →
        ∀ other : ImageState, other.images.Perm report.images →
          { plan with slots := other }.tasks = plan.tasks) ↔
      ∀ target ∈ targets, ∀ first ∈ report.images, ∀ second ∈ report.images,
        target.IsIn first → target.IsIn second → first.IsLike second := by
  constructor
  · intro always target wanted first member second memberOther firstIn secondIn
    obtain ⟨order, perm, judged⟩ := Verdict.exists_perm_judge_eq member firstIn
    obtain ⟨order', perm', judged'⟩ := Verdict.exists_perm_judge_eq memberOther secondIn
    -- The two orders that put one of the slots first give the same plan in each mode.
    refine isLike_of_tasks_eq judged judged' fun mode => ?_
    have wantedOnly : [target] ⊆ targets := by simpa using wanted
    have here := always (single target mode report) rfl wantedOnly
    exact (here order perm).trans (here order' perm').symm
  · rintro alike plan rfl wanted other perm
    refine tasks_congr fun target listed => ?_
    exact Verdict.judge_of_perm once perm (alike target (wanted listed))

/-- Both slots hold the image, and neither runs. -/
def heldTwice : ImageState :=
  { images := [{ slot := 0, hash := [7] }, { slot := 1, hash := [7] }] }

theorem tasks_order_iff_heldTwice :
    heldTwice.NamesSlotsOnce ∧
      ((∀ plan : Plan, plan.slots = heldTwice → plan.images ⊆ [Session.oneByteImage] →
          ∀ other : ImageState, other.images.Perm heldTwice.images →
            { plan with slots := other }.tasks = plan.tasks) ↔
        ∀ target ∈ [Session.oneByteImage], ∀ first ∈ heldTwice.images, ∀ second ∈ heldTwice.images,
          target.IsIn first → target.IsIn second → first.IsLike second) :=
  ⟨by decide, tasks_order_iff (by decide)⟩

/-- The image that runs is also in the other slot. -/
def runsAndHeld : ImageState :=
  { images := [{ slot := 0, hash := [7], active := true, confirmed := true },
      { slot := 1, hash := [7] }] }

def heldAndRuns : ImageState :=
  { images := runsAndHeld.images.reverse }

/-- An image that runs for good is confirmed and booted once more if its other slot comes first. -/
theorem tasks_of_copy_first :
    (runsAndHeld.NamesSlotsOnce ∧ heldAndRuns.NamesSlotsOnce ∧
        heldAndRuns.images.Perm runsAndHeld.images) ∧
      (single Session.oneByteImage .confirmOnly runsAndHeld).tasks = .ok [] ∧
      (single Session.oneByteImage .confirmOnly heldAndRuns).tasks =
        .ok [.confirm Session.oneByteImage, .reset] :=
  ⟨⟨by decide, by decide, List.reverse_perm _⟩, rfl, rfl⟩

end Plan

end SmpClient
