import SmpClient.Firmware.ImageSet

/-!
# Tasks of an upgrade

An upgrade is a queue of tasks.  The most urgent one is performed next, and of equally urgent
ones the one that was queued first.
-/

namespace SmpClient

/-- The phase of an upgrade that its owner sees. -/
inductive UpgradeState
  | none
  | validate
  | upload
  | test
  | reset
  | confirm
  deriving DecidableEq, Inhabited

def UpgradeState.name : UpgradeState → String
  | .none => "None"
  | .validate => "Validate"
  | .upload => "Upload"
  | .test => "Test"
  | .reset => "Reset"
  | .confirm => "Confirm"

/-- One task of an upgrade. -/
inductive Task
  /-- Reboots to clear a slot, before everything is looked at again. -/
  | resetBeforeUpload
  /-- Looks at the slots of the device, for the `attempt`-th time after the first. -/
  | validate (attempt : Nat)
  | upload (target : TargetImage)
  /-- Erases the settings of the application. -/
  | eraseStorage
  | test (target : TargetImage)
  | confirm (target : TargetImage)
  | reset
  /-- Confirms an image once the device is back from its reboot. -/
  | confirmAfterReset (target : TargetImage)
  deriving DecidableEq, Inhabited

namespace Task

/-- Lower numbers are more urgent. -/
def priority : Task → Nat
  | .resetBeforeUpload => 0
  | .validate _ => 1
  | .upload _ => 2
  | .eraseStorage | .test _ | .confirm _ => 3
  | .reset => 10
  | .confirmAfterReset _ => 11

/-- The phase in which a task is performed. -/
def state : Task → UpgradeState
  | .resetBeforeUpload | .reset => .reset
  | .validate _ => .validate
  | .upload _ | .eraseStorage => .upload
  | .test _ => .test
  | .confirm _ | .confirmAfterReset _ => .confirm

end Task

/-- Tasks that wait, the next one first. -/
structure TaskQueue where
  tasks : List Task := []
  deriving DecidableEq, Inhabited

namespace TaskQueue

/-- Puts a task behind all that are at least as urgent. -/
def insert (task : Task) : List Task → List Task
  | [] => [task]
  | first :: rest =>
      if task.priority < first.priority then task :: first :: rest
      else first :: insert task rest

def push (task : Task) (queue : TaskQueue) : TaskQueue :=
  ⟨insert task queue.tasks⟩

/-- Adds tasks one after the other. -/
def pushAll (tasks : List Task) (queue : TaskQueue) : TaskQueue :=
  tasks.foldl (fun queue task => queue.push task) queue

def pop (queue : TaskQueue) : Option Task × TaskQueue :=
  match queue.tasks with
  | [] => (none, queue)
  | next :: rest => (some next, ⟨rest⟩)

def clear (_ : TaskQueue) : TaskQueue :=
  {}

end TaskQueue

end SmpClient
