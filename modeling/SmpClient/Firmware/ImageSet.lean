import SmpClient.Firmware.Container

/-!
# The images of an upgrade

An upgrade delivers a set of images, at most one for each slot of each image index.  Adding an
image for a slot replaces the one before, and moves the slot to the end of the list.
-/

namespace SmpClient

/-- The slot that new images are written to unless told otherwise. -/
def secondarySlot : Nat := 1

/-- A firmware image for a slot, with the hash that the device will report for it. -/
structure TargetImage where
  index : Nat
  slot : Nat
  data : Bytes
  hash : Bytes
  deriving DecidableEq, Inhabited

namespace TargetImage

/-- The image in a firmware file, which names its hash. -/
def ofFile (index slot : Nat) (data : Bytes) : Except Error TargetImage :=
  match Firmware.Container.read data with
  | .error cause => .error (.invalidImage cause)
  | .ok container =>
      match container.hash with
      | .error cause => .error (.invalidImage cause)
      | .ok hash => .ok { index, slot, data, hash }

/-- Whether the image is meant for the given slot. -/
def isFor (image : TargetImage) (index slot : Nat) : Bool :=
  image.index == index && image.slot == slot

end TargetImage

/-- The images of one upgrade, by the time they were added. -/
structure ImageSet where
  images : List TargetImage := []
  deriving DecidableEq, Inhabited

namespace ImageSet

/-- Takes out the image for a slot, if there is one. -/
def remove (set : ImageSet) (index slot : Nat) : Option TargetImage × ImageSet :=
  (set.images.find? (·.isFor index slot), ⟨set.images.eraseP (·.isFor index slot)⟩)

/-- Adds an image in place of any other for its slot. -/
def add (set : ImageSet) (image : TargetImage) : ImageSet :=
  ⟨(set.remove image.index image.slot).2.images ++ [image]⟩

/-- Adds the image in a firmware file, for the secondary slot. -/
def addFile (set : ImageSet) (index : Nat) (data : Bytes) : Except Error ImageSet :=
  (TargetImage.ofFile index secondarySlot data).map set.add

/-- Refuses a set that holds no image, or one without content. -/
def check (set : ImageSet) : Except Error Unit :=
  if set.images.isEmpty then .error (.invalidArgument .noImages)
  else match set.images.find? (·.data.isEmpty) with
    | some image => .error (.invalidArgument (.emptyImage image.index image.slot))
    | none => .ok ()

end ImageSet

end SmpClient
