import SmpClient.Command.Basic
import SmpClient.Message.Os

/-!
# Commands for the system, its shell and its storage
-/

namespace SmpClient

namespace Command

def echo (text : String) : Command String :=
  (asking .write .os 0 (Message.echo text) Echo.read).map Echo.reply

/-- Asks for the list of tasks. -/
def tasks : Command TaskList :=
  asking .read .os 2 Message.nothing TaskList.read

/-- Asks for the packet buffers of the device. -/
def parameters : Command BufferParameters :=
  asking .read .os 6 Message.nothing BufferParameters.read

/-- Asks for texts about the system. -/
def systemInfo (format : Option String) : Command String :=
  (asking .read .os 7 (Message.systemInfo format) SystemInfo.read).map SystemInfo.output

def bootloaderInfo (query : Option String) : Command BootloaderInfo :=
  asking .read .os 8 (Message.bootloaderInfo query) BootloaderInfo.read

/-- Reboots the device; `force` overrides an application that objects. -/
def reset (force : Bool) : Command Unit :=
  silent .write .os 5 (Message.reset (if force then some 1 else none))

/-- Runs a shell command, given as a list of words. -/
def shell (words : List String) : Command ShellOutput :=
  asking .write .shell 0 (Message.shell words) ShellOutput.read

def eraseStorage : Command Unit :=
  silent .write .basic 0 Message.nothing

end Command

end SmpClient
