import SmpClient.Bytes.Hex
import SmpClient.Cbor.Listing
import SmpClient.Decimal.Fixed
import SmpClient.Message.File
import SmpClient.Message.Image
import SmpClient.Message.Log
import SmpClient.Message.Os
import SmpClient.Text.Lossy

/-!
# Reports

What the program prints about the answers of a device.
-/

namespace SmpClient

namespace Cli

/-- The units of sizes below the largest. -/
def sizeUnits : List String := ["B", "KB", "MB", "GB"]

/-- A size as a part of `scale` bytes, in the first of the units in which it is below 1024. -/
def sizeIn (size scale : Nat) : List String → String
  | [] => Decimal.onePlace size scale ++ " TB"
  | unit :: rest =>
      if size < 1024 * scale then Decimal.onePlace size scale ++ " " ++ unit
      else sizeIn size (1024 * scale) rest

/-- A size with one place after the point. -/
def sizeText (size : Nat) : String := sizeIn size 1 sizeUnits

namespace Report

/-- Lines, each with its end. -/
def lines (texts : List String) : String :=
  String.join (texts.map (· ++ "\n"))

/-- Blanks that widen a text of some length. -/
def padding (width : Nat) (text : String) : String :=
  String.ofList (List.replicate (width - text.length) ' ')

def left (width : Nat) (text : String) : String :=
  text ++ padding width text

def right (width : Nat) (text : String) : String :=
  padding width text ++ text

def taskRow (name priority state stackUse stackSize : String) : String :=
  " ".intercalate
    [left 24 name, right 5 priority, right 6 state, right 10 stackUse, right 10 stackSize]

def tasks (list : TaskList) : String :=
  lines
    (["Task Statistics:", taskRow "Task" "Prio" "State" "Stack Use" "Stack Size",
        String.ofList (List.replicate 59 '-')] ++
      list.tasks.map fun (name, task) =>
        taskRow name (toString task.priority) (toString task.state) (toString task.stackUse)
          (toString task.stackSize))

def images (state : ImageState) : String :=
  "response: " ++ state.toValue.listing

def echo (reply : String) : String :=
  lines ["Echo response: " ++ reply]

def parameters (buffers : BufferParameters) : String :=
  lines ["MCUmgr Parameters:", "  Buffer size:  " ++ sizeText buffers.size,
    "  Buffer count: " ++ toString buffers.count]

def systemInfo (text : String) : String :=
  lines ["OS Information:", text]

/-- The boot loader; what it does not tell is left out. -/
def bootloaderInfo (info : BootloaderInfo) : String :=
  let mode := info.mode.toList.map fun mode =>
    "  Mode: " ++ toString mode ++ " (" ++ BootloaderMode.describe mode ++ ")"
  let downgrade := info.noDowngrade.toList.map fun refused =>
    "  Downgrade Prevention: " ++ if refused then "Enabled" else "Disabled"
  lines (["Bootloader Information:", "  Bootloader: " ++ info.bootloader] ++ mode ++ downgrade)

def fileStatus (path : String) (status : FileStatus) : String :=
  lines ["File: " ++ path,
    "  Size: " ++ sizeText status.length ++ " (" ++ toString status.length ++ " bytes)"]

def fileHash (path : String) (hash : FileHash) : String :=
  lines ["File: " ++ path, "  Type:   " ++ hash.kind, "  Offset: " ++ toString hash.offset,
    "  Length: " ++ toString hash.length, "  Hash:   " ++ hash.outputText]

def hashKinds (list : HashKinds) : String :=
  lines ("Supported hash types:" :: list.kinds.map fun (name, _) => "  " ++ name)

def statisticsGroups (names : List String) : String :=
  lines ("Available statistics groups:" :: names.map fun name => "  " ++ name)

def statistics (group : Statistics) : String :=
  lines (("Statistics for '" ++ group.name ++ "':") ::
    group.counters.map fun (name, count) => "  " ++ name ++ ": " ++ toString count)

/-- Whether a byte is a visible character or one of the usual blanks. -/
def isPlain (byte : UInt8) : Bool :=
  (0x20 ≤ byte && byte ≤ 0x7e) || byte == 0x09 || byte == 0x0a || byte == 0x0c || byte == 0x0d

/-- The value of a setting, also as text if all of it is plain. -/
def setting (name : String) (value : Bytes) : String :=
  let text :=
    if value.all isPlain then
      ["  (as string): " ++ String.ofList (value.map fun byte => Char.ofNat byte.toNat)]
    else []
  lines (("Setting '" ++ name ++ "': " ++ Bytes.toHex value) :: text)

def settingDone (name done : String) : String :=
  lines ["Setting '" ++ name ++ "' " ++ done ++ " successfully"]

def logMessage : Cbor.Value → String
  | .text content => content
  | .bytes content => Text.ofBytesLossy content
  | other => other.shown

def logEntry (entry : LogEntry) : String :=
  "  [" ++ toString entry.index ++ "] " ++ toString entry.timestamp ++ " " ++
    toString entry.level ++ ": " ++ logMessage entry.content

def logs (logs : List Log) : String :=
  lines (logs.flatMap fun log => ("Log '" ++ log.name ++ "':") :: log.entries.map logEntry)

end Report

end Cli

end SmpClient
