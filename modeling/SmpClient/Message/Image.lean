import SmpClient.Message.Basic

/-!
# Messages about firmware images

The device lists what is in its image slots, and takes requests to mark an image for the next
boot, to erase a slot and to store a chunk of an image.
-/

namespace SmpClient

/-- What the device reports of one image slot. -/
structure ImageSlot where
  image : Nat := 0
  slot : Nat := 0
  version : String := ""
  hash : Bytes := []
  bootable : Bool := false
  pending : Bool := false
  confirmed : Bool := false
  active : Bool := false
  permanent : Bool := false
  deriving DecidableEq, Inhabited

namespace ImageSlot

/-- Only the number of the slot must be given. -/
def read : Cbor.Reader ImageSlot := fun value => do
  let fields ← Cbor.Reader.fields
    ["image", "slot", "version", "hash", "bootable", "pending", "confirmed", "active",
      "permanent"] value
  return {
    image := ← fields.optional "image" 0 Cbor.Reader.nat32
    slot := ← fields.required "slot" Cbor.Reader.nat32
    version := ← fields.optional "version" "" Cbor.Reader.text
    hash := ← fields.optional "hash" [] Cbor.Reader.byteString
    bootable := ← fields.optional "bootable" false Cbor.Reader.bool
    pending := ← fields.optional "pending" false Cbor.Reader.bool
    confirmed := ← fields.optional "confirmed" false Cbor.Reader.bool
    active := ← fields.optional "active" false Cbor.Reader.bool
    permanent := ← fields.optional "permanent" false Cbor.Reader.bool }

/-- The slot as a record of all its fields. -/
def toValue (slot : ImageSlot) : Cbor.Value :=
  .record [("image", .nat slot.image), ("slot", .nat slot.slot), ("version", .text slot.version),
    ("hash", .bytes slot.hash), ("bootable", .bool slot.bootable),
    ("pending", .bool slot.pending), ("confirmed", .bool slot.confirmed),
    ("active", .bool slot.active), ("permanent", .bool slot.permanent)]

instance : Cbor.Payload ImageSlot := ⟨toValue⟩

end ImageSlot

/-- Whether the images of a split application belong together. -/
inductive SplitStatus
  | notApplicable
  | notMatching
  | matching
  deriving DecidableEq, Inhabited

namespace SplitStatus

/-- The number on the wire. -/
def number : SplitStatus → Nat
  | .notApplicable => 0
  | .notMatching => 1
  | .matching => 2

def read : Cbor.Reader SplitStatus
  | .int 0 => .ok .notApplicable
  | .int 1 => .ok .notMatching
  | .int 2 => .ok .matching
  | _ => .error (.expected "a split status")

end SplitStatus

/-- The slots of all images, in the order in which the device lists them. -/
structure ImageState where
  images : List ImageSlot := []
  splitStatus : Option SplitStatus := none
  deriving DecidableEq, Inhabited

namespace ImageState

/-- Both fields may be left out. -/
def read : Cbor.Reader ImageState := fun value => do
  let fields ← Cbor.Reader.fields ["images", "splitStatus"] value
  return {
    images := ← fields.optional "images" [] (Cbor.Reader.list ImageSlot.read)
    splitStatus := ← fields.optional "splitStatus" none (Cbor.Reader.optional SplitStatus.read) }

/-- The state as a record; a split status is only there if known. -/
def toValue (state : ImageState) : Cbor.Value :=
  .record (("images", .array (state.images.map ImageSlot.toValue)) ::
    Cbor.Value.optionalField "splitStatus" state.splitStatus fun status => .nat status.number)

instance : Cbor.Payload ImageState := ⟨toValue⟩

/-- The first slot that holds an image with the given hash. -/
def findByHash? (state : ImageState) (hash : Bytes) : Option ImageSlot :=
  state.images.find? fun slot => slot.hash = hash

/-- The first entry for a slot of an image. -/
def findSlot? (state : ImageState) (image slot : Nat) : Option ImageSlot :=
  state.images.find? fun entry => entry.image = image && entry.slot = slot

end ImageState

/-- The acknowledgement of a chunk of an image or a file. -/
structure UploadAck where
  rc : Int := 0
  offset : Nat := 0
  deriving DecidableEq, Inhabited

/-- Both fields may be left out. -/
def UploadAck.read : Cbor.Reader UploadAck := fun value => do
  let fields ← Cbor.Reader.fields ["rc", "off"] value
  return {
    rc := ← fields.optional "rc" 0 Cbor.Reader.int32
    offset := ← fields.optional "off" 0 Cbor.Reader.nat64 }

instance : Cbor.Payload UploadAck where
  toValue ack := .record [("rc", .int ack.rc), ("off", .nat ack.offset)]

namespace Message

open Cbor.Value (optionalField)

/-- Marks an image: for one test boot, or for good.  Without a hash the running image is meant. -/
def markImage (hash : Bytes) (confirm : Option Bool) : Cbor.Value :=
  .record ((if hash.isEmpty then [] else [("hash", .bytes hash)]) ++
    optionalField "confirm" confirm .bool)

/-- What the request for one chunk of an image says. -/
structure ImageChunk where
  data : Bytes
  image : Option Nat := none
  length : Option Nat := none
  offset : Nat := 0
  digest : Option Bytes := none
  upgrade : Option Bool := none
  deriving DecidableEq, Inhabited

def imageChunk (chunk : ImageChunk) : Cbor.Value :=
  .record ([("data", .bytes chunk.data)] ++ optionalField "image" chunk.image .nat ++
    optionalField "len" chunk.length .nat ++ [("off", .nat chunk.offset)] ++
    optionalField "sha" chunk.digest .bytes ++ optionalField "upgrade" chunk.upgrade .bool)

def eraseImage (slot : Option Nat) : Cbor.Value :=
  .record (optionalField "slot" slot .nat)

end Message

end SmpClient
