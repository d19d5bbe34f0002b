import SmpClient.Message.Basic

/-!
# Messages about the system and its shell

Echo, the list of tasks, buffer sizes, texts about the system and its boot loader, and the
output of a shell command.
-/

namespace SmpClient

/-- The text that the device sends back. -/
structure Echo where
  reply : String
  deriving DecidableEq, Inhabited

/-- The reply must be there. -/
def Echo.read : Cbor.Reader Echo := fun value => do
  let fields ← Cbor.Reader.fields ["r"] value
  return { reply := ← fields.required "r" Cbor.Reader.text }

instance : Cbor.Payload Echo where
  toValue echo := .record [("r", .text echo.reply)]

/-- What the device reports of one task. -/
structure TaskInfo where
  priority : Int := 0
  state : Nat := 0
  stackUse : Nat := 0
  stackSize : Nat := 0
  contextSwitches : Nat := 0
  runtime : Nat := 0
  lastCheckin : Nat := 0
  nextCheckin : Nat := 0
  deriving DecidableEq, Inhabited

/-- All fields may be left out. -/
def TaskInfo.read : Cbor.Reader TaskInfo := fun value => do
  let fields ← Cbor.Reader.fields
    ["prio", "state", "stkuse", "stksiz", "cswcnt", "runtime", "last_checkin", "next_checkin"]
    value
  return {
    priority := ← fields.optional "prio" 0 Cbor.Reader.int32
    state := ← fields.optional "state" 0 Cbor.Reader.nat64
    stackUse := ← fields.optional "stkuse" 0 Cbor.Reader.nat64
    stackSize := ← fields.optional "stksiz" 0 Cbor.Reader.nat64
    contextSwitches := ← fields.optional "cswcnt" 0 Cbor.Reader.nat64
    runtime := ← fields.optional "runtime" 0 Cbor.Reader.nat64
    lastCheckin := ← fields.optional "last_checkin" 0 Cbor.Reader.nat64
    nextCheckin := ← fields.optional "next_checkin" 0 Cbor.Reader.nat64 }

/-- A task as a record of all its fields. -/
def TaskInfo.toValue (task : TaskInfo) : Cbor.Value :=
  .record [("prio", .int task.priority), ("state", .nat task.state), ("stkuse", .nat task.stackUse),
    ("stksiz", .nat task.stackSize), ("cswcnt", .nat task.contextSwitches),
    ("runtime", .nat task.runtime), ("last_checkin", .nat task.lastCheckin),
    ("next_checkin", .nat task.nextCheckin)]

/-- The tasks by name. -/
structure TaskList where
  tasks : List (String × TaskInfo)
  deriving DecidableEq, Inhabited

/-- The table of tasks must be there. -/
def TaskList.read : Cbor.Reader TaskList := fun value => do
  let fields ← Cbor.Reader.fields ["tasks"] value
  return { tasks := ← fields.required "tasks" (Cbor.Reader.table TaskInfo.read) }

instance : Cbor.Payload TaskList where
  toValue list := .record [("tasks", .table TaskInfo.toValue list.tasks)]

/-- The buffers that the device has for packets. -/
structure BufferParameters where
  size : Nat
  count : Nat
  deriving DecidableEq, Inhabited

/-- Both numbers must be there. -/
def BufferParameters.read : Cbor.Reader BufferParameters := fun value => do
  let fields ← Cbor.Reader.fields ["buf_size", "buf_count"] value
  return {
    size := ← fields.required "buf_size" Cbor.Reader.nat32
    count := ← fields.required "buf_count" Cbor.Reader.nat32 }

instance : Cbor.Payload BufferParameters where
  toValue buffers := .record [("buf_size", .nat buffers.size), ("buf_count", .nat buffers.count)]

/-- A text about the system. -/
structure SystemInfo where
  output : String
  deriving DecidableEq, Inhabited

/-- The text must be there. -/
def SystemInfo.read : Cbor.Reader SystemInfo := fun value => do
  let fields ← Cbor.Reader.fields ["output"] value
  return { output := ← fields.required "output" Cbor.Reader.text }

instance : Cbor.Payload SystemInfo where
  toValue info := .record [("output", .text info.output)]

/-- The boot loader's name, the number of its mode and whether it refuses older images. -/
structure BootloaderInfo where
  bootloader : String := ""
  mode : Option Int := none
  noDowngrade : Option Bool := none
  deriving DecidableEq, Inhabited

/-- All fields may be left out. -/
def BootloaderInfo.read : Cbor.Reader BootloaderInfo := fun value => do
  let fields ← Cbor.Reader.fields ["bootloader", "mode", "no-downgrade"] value
  return {
    bootloader := ← fields.optional "bootloader" "" Cbor.Reader.text
    mode := ← fields.optional "mode" none (Cbor.Reader.optional Cbor.Reader.int32)
    noDowngrade := ← fields.optional "no-downgrade" none (Cbor.Reader.optional Cbor.Reader.bool) }

instance : Cbor.Payload BootloaderInfo where
  toValue info := .record [("bootloader", .text info.bootloader), ("mode", .orNull .int info.mode),
    ("no-downgrade", .orNull .bool info.noDowngrade)]

/-- How the boot loader starts images. -/
inductive BootloaderMode
  | singleApplication
  | swapScratch
  | overwrite
  | swapWithoutScratch
  | directXipWithoutRevert
  | directXipWithRevert
  | ramLoader
  | firmwareLoader
  | ramLoadNetCore
  | swapMove
  deriving DecidableEq, Inhabited

namespace BootloaderMode

/-- All modes, in the order of their numbers. -/
def all : List BootloaderMode :=
  [.singleApplication, .swapScratch, .overwrite, .swapWithoutScratch, .directXipWithoutRevert,
    .directXipWithRevert, .ramLoader, .firmwareLoader, .ramLoadNetCore, .swapMove]

def ofNumber? (number : Int) : Option BootloaderMode :=
  if number < 0 then none else all[number.toNat]?

/-- The name in diagnostics. -/
def name : BootloaderMode → String
  | .singleApplication => "SingleApp"
  | .swapScratch => "SwapScratch"
  | .overwrite => "Overwrite"
  | .swapWithoutScratch => "SwapWithoutScratch"
  | .directXipWithoutRevert => "DirectXipWithoutRevert"
  | .directXipWithRevert => "DirectXipWithRevert"
  | .ramLoader => "RamLoader"
  | .firmwareLoader => "FirmwareLoader"
  | .ramLoadNetCore => "RamLoadNetCore"
  | .swapMove => "SwapMove"

/-- The mode in words. -/
def description : BootloaderMode → String
  | .singleApplication => "Single application"
  | .swapScratch => "Swap using scratch partition"
  | .overwrite => "Overwrite (upgrade-only)"
  | .swapWithoutScratch => "Swap without scratch"
  | .directXipWithoutRevert => "Direct XIP without revert"
  | .directXipWithRevert => "Direct XIP with revert"
  | .ramLoader => "RAM loader"
  | .firmwareLoader => "Firmware loader"
  | .ramLoadNetCore => "RAM load with network core"
  | .swapMove => "Swap using move"

/-- The mode with a given number in words. -/
def describe (number : Int) : String :=
  match ofNumber? number with
  | some mode => mode.description
  | none => "Unknown"

/-- Whether the boot loader picks the newest image by itself and never goes back, so that test
and confirm requests have no effect. -/
def confirmsOnBoot (mode : BootloaderMode) : Bool :=
  mode = .directXipWithoutRevert

end BootloaderMode

/-- What a shell command printed, and its return value. -/
structure ShellOutput where
  output : String := ""
  returned : Int := 0
  deriving DecidableEq, Inhabited

/-- Both fields may be left out. -/
def ShellOutput.read : Cbor.Reader ShellOutput := fun value => do
  let fields ← Cbor.Reader.fields ["o", "ret"] value
  return {
    output := ← fields.optional "o" "" Cbor.Reader.text
    returned := ← fields.optional "ret" 0 Cbor.Reader.int32 }

instance : Cbor.Payload ShellOutput where
  toValue shell := .record [("o", .text shell.output), ("ret", .int shell.returned)]

namespace Message

open Cbor.Value (optionalField)

/-- Asks for a text to be sent back. -/
def echo (text : String) : Cbor.Value :=
  .record [("d", .text text)]

/-- Asks for texts about the system, one letter of `format` each. -/
def systemInfo (format : Option String) : Cbor.Value :=
  .record (optionalField "format" format .text)

/-- Asks about the boot loader; `query` names what. -/
def bootloaderInfo (query : Option String) : Cbor.Value :=
  .record (optionalField "query" query .text)

/-- Asks for a reboot, which `force` makes unconditional. -/
def reset (force : Option Nat) : Cbor.Value :=
  .record (optionalField "force" force .nat)

/-- Runs a shell command, given as a list of words. -/
def shell (words : List String) : Cbor.Value :=
  .record [("argv", .array (words.map .text))]

end Message

end SmpClient
