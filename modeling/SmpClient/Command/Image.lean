import SmpClient.Command.Basic
import SmpClient.Message.Image

/-!
# Commands for firmware images
-/

namespace SmpClient

namespace Command

/-- Asks for the state of all image slots. -/
def images : Command ImageState :=
  asking .read .image 0 Message.nothing ImageState.read

/-- Marks the image with a hash for one test boot, or for good. -/
def markImage (hash : Bytes) (confirm : Bool) : Command ImageState :=
  asking .write .image 0 (Message.markImage hash (some confirm)) ImageState.read

/-- Marks the image with a hash for a single test boot. -/
def testImage (hash : Bytes) : Command ImageState :=
  markImage hash false

/-- Confirms the image with a hash, or the running image. -/
def confirmImage (hash : Option Bytes) : Command ImageState :=
  markImage (hash.getD []) true

/-- Erases an image slot, the secondary one unless told otherwise. -/
def eraseImage (slot : Option Nat) : Command Unit :=
  silent .write .image 5 (Message.eraseImage slot)

end Command

end SmpClient
