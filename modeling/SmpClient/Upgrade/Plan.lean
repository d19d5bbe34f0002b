import SmpClient.Message.Image
import SmpClient.Message.Os
import SmpClient.Upgrade.Task

/-!
# What an upgrade has to do

From what the device reports of its slots follows, for each image of an upgrade, what is still to
be done with it.  A slot that waits for a reboot blocks its image: then nothing is done but the
reboot and another look at the device.
-/

namespace SmpClient

/-- What an upgrade does with its images once they are on the device. -/
inductive UpgradeMode
  /-- Boot them once. -/
  | testOnly
  /-- Make them permanent, then boot them. -/
  | confirmOnly
  /-- Boot them once, then make them permanent. -/
  | testAndConfirm
  /-- Nothing. -/
  | uploadOnly
  deriving DecidableEq, Inhabited

/-- What a device needs for a target image. -/
inductive Verdict
  /-- It runs for good. -/
  | done
  /-- It runs, but only for this boot. -/
  | running
  /-- It is not marked for a boot, and perhaps not there at all. -/
  | unmarked (missing : Bool)
  /-- It is marked for the next boot, perhaps for good. -/
  | marked (permanent : Bool)
  /-- Its slot is taken until the next boot. -/
  | blocked
  /-- Its slot holds the running image. -/
  | inUse
  deriving DecidableEq, Inhabited

namespace Verdict

/-- The verdict on an image that the device lists. -/
def ofListed (slot : ImageSlot) : Verdict :=
  if slot.active then if slot.confirmed then .done else .running
  else if slot.pending then .marked slot.permanent
  else .unmarked false

/-- The verdict on an image that the device does not list, by what its slot holds. -/
def ofOccupant : Option ImageSlot → Verdict
  | some occupant =>
      if occupant.active then .inUse
      else if occupant.pending || occupant.confirmed then .blocked
      else .unmarked true
  | none => .unmarked true

/-- The verdict on a target image. -/
def judge (target : TargetImage) (slots : ImageState) : Verdict :=
  match slots.images.find? fun slot => slot.image = target.index && slot.hash = target.hash with
  | some slot => ofListed slot
  | none => ofOccupant (slots.findSlot? target.index target.slot)

/-- The tasks for a target image on which there is a verdict.  A boot loader that confirms what it
boots is not asked to mark anything. -/
def tasks (mode : UpgradeMode) (confirmsOnBoot : Bool) (target : TargetImage) :
    Verdict → List Task
  | .done | .blocked | .inUse => []
  | .running =>
      match mode with
      | .confirmOnly | .testAndConfirm => [.confirm target]
      | .testOnly | .uploadOnly => []
  | .marked permanent =>
      if permanent || confirmsOnBoot then []
      else match mode with
        | .confirmOnly => [.confirm target]
        | .testAndConfirm => [.confirmAfterReset target]
        | .testOnly | .uploadOnly => []
  | .unmarked missing =>
      (if missing then [.upload target] else []) ++
        if confirmsOnBoot then []
        else match mode with
          | .testOnly => [.test target]
          | .confirmOnly => [.confirm target]
          | .testAndConfirm => [.test target, .confirmAfterReset target]
          | .uploadOnly => []

/-- Whether an image with this verdict has to be booted. -/
def needsReset (mode : UpgradeMode) : Verdict → Bool
  | .marked _ | .unmarked _ => mode != .uploadOnly
  | _ => false

end Verdict

/-- Rounds of rebooting and looking again, before an upgrade gives up. -/
def maxRevalidations : Nat := 3

/-- All that the tasks of an upgrade depend on. -/
structure Plan where
  images : List TargetImage
  mode : UpgradeMode
  slots : ImageState
  bootloader : Option BootloaderMode
  eraseSettings : Bool
  attempt : Nat

namespace Plan

/-- Whether the boot loader confirms what it boots. -/
def confirmsOnBoot (plan : Plan) : Bool :=
  plan.bootloader.any BootloaderMode.confirmsOnBoot

/-- The verdict on each target image. -/
def verdicts (plan : Plan) : List (TargetImage × Verdict) :=
  plan.images.map fun target => (target, .judge target plan.slots)

/-- The tasks for the images, in the order of the images. -/
def imageTasks (plan : Plan) : List Task :=
  plan.verdicts.flatMap fun (target, verdict) =>
    verdict.tasks plan.mode plan.confirmsOnBoot target

/-- The tasks after those for the images. -/
def resetTasks (plan : Plan) : List Task :=
  if plan.verdicts.any fun (_, verdict) => verdict.needsReset plan.mode then
    (if plan.eraseSettings then [.eraseStorage] else []) ++ [.reset]
  else []

/-- The tasks that follow a look at the device. -/
def tasks (plan : Plan) : Except Error (List Task) :=
  if plan.verdicts.any fun (_, verdict) => verdict = .blocked then
    if maxRevalidations ≤ plan.attempt then .error (.revalidationLimit plan.attempt)
    else .ok [.resetBeforeUpload, .validate (plan.attempt + 1)]
  else .ok (plan.imageTasks ++ plan.resetTasks)

end Plan

end SmpClient
