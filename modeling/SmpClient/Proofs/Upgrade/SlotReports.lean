import SmpClient.Proofs.General
import SmpClient.Upgrade.Plan

/-!
# Looking a report up

A device reports its slots in an order of its own.  An upgrade looks for the first slot that holds a
target image, and for the first that the image is meant for.  If a report names each slot once and holds
each image once, there is only one such slot.
-/

namespace SmpClient

namespace TargetImage

/-- Whether a slot holds the image, under the index of the image. -/
def IsIn (target : TargetImage) (slot : ImageSlot) : Prop :=
  slot.image = target.index ∧ slot.hash = target.hash

/-- Whether the image is meant for a slot. -/
def IsMeantFor (target : TargetImage) (slot : ImageSlot) : Prop :=
  slot.image = target.index ∧ slot.slot = target.slot

instance (target : TargetImage) (slot : ImageSlot) : Decidable (target.IsIn slot) :=
  inferInstanceAs (Decidable (_ ∧ _))

instance (target : TargetImage) (slot : ImageSlot) : Decidable (target.IsMeantFor slot) :=
  inferInstanceAs (Decidable (_ ∧ _))

theorem isIn_iff {target : TargetImage} {slot : ImageSlot} :
    (slot.image = target.index && slot.hash = target.hash) = true ↔ target.IsIn slot := by
  rw [Bool.and_eq_true, decide_eq_true_eq, decide_eq_true_eq, IsIn]

theorem isMeantFor_iff {target : TargetImage} {slot : ImageSlot} :
    (slot.image = target.index && slot.slot = target.slot) = true ↔ target.IsMeantFor slot := by
  rw [Bool.and_eq_true, decide_eq_true_eq, decide_eq_true_eq, IsMeantFor]

end TargetImage

namespace ImageState

/-- Whether a report names no slot twice. -/
def NamesSlotsOnce (report : ImageState) : Prop :=
  (report.images.map fun slot => (slot.image, slot.slot)).Nodup

/-- Whether a report has no image in two slots. -/
def HoldsImagesOnce (report : ImageState) : Prop :=
  (report.images.map fun slot => (slot.image, slot.hash)).Nodup

instance (report : ImageState) : Decidable report.NamesSlotsOnce :=
  inferInstanceAs (Decidable (List.Nodup _))

instance (report : ImageState) : Decidable report.HoldsImagesOnce :=
  inferInstanceAs (Decidable (List.Nodup _))

/-- Whether a target image is in one of the slots. -/
def Lists (report : ImageState) (target : TargetImage) : Prop :=
  ∃ slot ∈ report.images, target.IsIn slot

instance (report : ImageState) (target : TargetImage) : Decidable (report.Lists target) :=
  inferInstanceAs (Decidable (∃ slot ∈ report.images, target.IsIn slot))

/-- The first slot that holds a target image. -/
def holding? (report : ImageState) (target : TargetImage) : Option ImageSlot :=
  report.images.find? fun slot => slot.image = target.index && slot.hash = target.hash

variable {report : ImageState} {target : TargetImage} {slot : ImageSlot}

theorem isIn_of_holding? (found : report.holding? target = some slot) :
    slot ∈ report.images ∧ target.IsIn slot := by
  have fits := List.find?_some found
  exact ⟨List.mem_of_find?_eq_some found, TargetImage.isIn_iff.mp fits⟩

theorem holding?_eq_none_iff : report.holding? target = none ↔ ¬ report.Lists target := by
  simp [holding?, Lists, TargetImage.IsIn]

theorem holding?_of_holdsImagesOnce (once : report.HoldsImagesOnce) (member : slot ∈ report.images)
    (isIn : target.IsIn slot) : report.holding? target = some slot := by
  refine List.find?_eq_some_of_nodup_map once member (TargetImage.isIn_iff.mpr isIn)
    fun other fits => ?_
  have otherIn := TargetImage.isIn_iff.mp fits
  rw [otherIn.1, otherIn.2, isIn.1, isIn.2]

theorem isMeantFor_of_findSlot? (found : report.findSlot? target.index target.slot = some slot) :
    slot ∈ report.images ∧ target.IsMeantFor slot := by
  have fits := List.find?_some found
  exact ⟨List.mem_of_find?_eq_some found, TargetImage.isMeantFor_iff.mp fits⟩

theorem findSlot?_eq_none_iff :
    report.findSlot? target.index target.slot = none ↔
      ∀ slot ∈ report.images, ¬ target.IsMeantFor slot := by
  simp [findSlot?, TargetImage.IsMeantFor]

theorem findSlot?_of_namesSlotsOnce (once : report.NamesSlotsOnce) (member : slot ∈ report.images)
    (meant : target.IsMeantFor slot) :
    report.findSlot? target.index target.slot = some slot := by
  refine List.find?_eq_some_of_nodup_map once member (TargetImage.isMeantFor_iff.mpr meant)
    fun other fits => ?_
  have otherMeant := TargetImage.isMeantFor_iff.mp fits
  rw [otherMeant.1, otherMeant.2, meant.1, meant.2]

end ImageState

namespace Verdict

variable {report : ImageState} {target : TargetImage} {slot : ImageSlot}

theorem judge_of_holding? (found : report.holding? target = some slot) :
    judge target report = ofListed slot := by
  simp only [judge, ← ImageState.holding?.eq_def, found]

theorem judge_of_not_lists (absent : ¬ report.Lists target) :
    judge target report = ofOccupant (report.findSlot? target.index target.slot) := by
  simp only [judge, ← ImageState.holding?.eq_def, ImageState.holding?_eq_none_iff.mpr absent]

end Verdict

end SmpClient
