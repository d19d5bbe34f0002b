import SmpClient.Command.Basic
import SmpClient.Message.File

/-!
# Commands for files
-/

namespace SmpClient

namespace Command

/-- Asks for the size of a file. -/
def fileStatus (path : String) : Command FileStatus :=
  asking .read .file 1 (Message.fileStatus path) FileStatus.read

/-- Asks for a checksum of a file, or of a part of it. -/
def fileHash (path : String) (kind : Option String) (offset length : Option Nat) :
    Command FileHash :=
  asking .read .file 2 (Message.fileHash path kind offset length) FileHash.read

/-- Asks for the kinds of checksums that the device computes. -/
def hashKinds : Command HashKinds :=
  asking .read .file 3 Message.nothing HashKinds.read

/-- Closes any file that the device holds open for an interrupted transfer. -/
def closeFile : Command Unit :=
  silent .write .file 4 Message.nothing

end Command

end SmpClient
