import SmpClient.Command.Image
import SmpClient.Command.System
import SmpClient.Transfer.UploadJob
import SmpClient.Upgrade.Plan

/-!
# Upgrade sessions

A session performs the tasks of an upgrade one at a time, each of which may bring more.  It can be
paused between tasks and within uploads, and canceled at any time.  It reports every change of its
phase, and in the end exactly one outcome.
-/

namespace SmpClient

/-- The settings of an upgrade; times are in milliseconds. -/
structure UpgradeSettings where
  /-- The time that the boot loader takes to swap images. -/
  swapTime : Nat := 0
  /-- How uploads use the link. -/
  upload : UploadOptions := {}
  /-- Whether the settings of the application are erased before the last reboot. -/
  eraseSettings : Bool := false
  /-- How long a reboot may take to bring the link down. -/
  disconnectTimeout : Nat := 10000
  deriving DecidableEq, Inhabited

/-- How uploads of a session use the link; a window or an alignment of nothing counts as one. -/
def UpgradeSettings.uploadOptions (window alignment : Nat) : UploadOptions :=
  { window := max window 1, alignment := max alignment 1 }

/-- What a session tells its owner. -/
inductive SessionNote
  | started
  | state (before after : UpgradeState)
  | progress (progress : Progress)
  | completed
  | failed (state : UpgradeState) (error : Error)
  | canceled (state : UpgradeState)

/-- What a note is called; a change of state is called by the new state. -/
def SessionNote.name : SessionNote → String
  | .started => "started"
  | .state _ after => after.name
  | .progress _ => "progress"
  | .completed => "completed"
  | .failed _ _ => "failed"
  | .canceled _ => "canceled"

namespace Session

/-- A request that a session makes, and what it is for. -/
inductive Question
  | bootloader (attempt : Nat)
  | slots (attempt : Nat) (mode : Option BootloaderMode)
  | erase
  | test (target : TargetImage)
  | confirm (target : TargetImage)
  | reset

/-- What a session is about to do. -/
inductive Phase
  | starting
  /-- Taking the next task; a paused session waits here. -/
  | choosing
  | entering (task : Task)
  | announcing (before : UpgradeState) (task : Task)
  | performing (task : Task)
  /-- The mode of the boot loader is known, as far as it can be; the slots come next. -/
  | inspecting (attempt : Nat) (mode : Option BootloaderMode)
  | asking (question : Question) (packet : Bytes)
  /-- Connecting, to confirm an image. -/
  | connecting (target : TargetImage)
  | uploading (job : UploadJob)
  /-- Waiting for the link to go down. -/
  | awaitingDrop
  /-- Waiting for the boot loader to swap images. -/
  | swapping (milliseconds : Nat)
  /-- A task has ended; the tasks that it found are queued. -/
  | performed (result : Except Error (List Task))
  /-- There are no more tasks. -/
  | concluding
  | reporting (outcome : SessionNote)
  | over

end Session

/-- An upgrade on its way. -/
structure Session where
  scheme : Scheme
  mtu : Nat
  settings : UpgradeSettings
  images : List TargetImage
  mode : UpgradeMode
  seq : UInt8
  /-- The number of the next attempt at an upload. -/
  nextAttempt : Nat := 0
  state : UpgradeState := .none
  queue : TaskQueue
  paused : Bool := false
  canceled : Bool := false
  finished : Bool := false
  /-- Whether the link went down since the last reset began. -/
  dropped : Bool := false
  phase : Session.Phase := .starting

namespace Session

/-- A session for a set of images, unless there is nothing to upgrade to. -/
def start (scheme : Scheme) (mtu : Nat) (settings : UpgradeSettings) (images : ImageSet)
    (mode : UpgradeMode) (seq : UInt8) : Except Error Session := do
  images.check
  return { scheme, mtu, settings, images := images.images, mode, seq,
           queue := TaskQueue.push (.validate 0) {} }

/-- Ends the task that is being performed. -/
def finish (result : Except Error (List Task)) (session : Session) : Session :=
  { session with phase := .performed result }

namespace Question

def packet (scheme : Scheme) (seq : UInt8) : Question → Except Error Bytes
  | .bootloader _ => (Command.bootloaderInfo (some "mode")).packet scheme seq
  | .slots _ _ => Command.images.packet scheme seq
  | .erase => Command.eraseStorage.packet scheme seq
  | .test target => (Command.testImage target.hash).packet scheme seq
  | .confirm target => (Command.confirmImage (some target.hash)).packet scheme seq
  | .reset => (Command.reset false).packet scheme seq

end Question

/-- What the report of the boot loader's mode tells.  A device that cannot tell has no known mode,
but a link that fails ends the task. -/
def bootloaderMode : Except Error BootloaderInfo → Except Error (Option BootloaderMode)
  | .ok info => .ok (info.mode.bind BootloaderMode.ofNumber?)
  | .error failure => if failure.isTransport then .error failure else .ok none

/-- The tasks that follow from the slots of the device. -/
def planned (session : Session) (attempt : Nat) (mode : Option BootloaderMode)
    (answer : Except Error ImageState) : Except Error (List Task) := do
  let slots ← answer
  Plan.tasks
    { images := session.images, mode := session.mode, slots, bootloader := mode,
      eraseSettings := session.settings.eraseSettings, attempt }

/-- Whether storage was erased; a device that cannot erase it is no failure. -/
def erased : Except Error Unit → Except Error (List Task)
  | .ok () => .ok []
  | .error (.device rc groupCode) =>
      if groupCode.isSome ∨ rc = 8 then .ok [] else .error (.device rc groupCode)
  | .error failure => .error failure

/-- Whether the device now lists an image as pending. -/
def tested (target : TargetImage) (answer : Except Error ImageState) :
    Except Error (List Task) := do
  match (← answer).findByHash? target.hash with
  | some slot => if slot.pending then return [] else throw .imageNotPending
  | none => throw .imageNotPending

/-- Whether the device now lists an image as confirmed; one that is not listed is believed to
be. -/
def confirmed (target : TargetImage) (answer : Except Error ImageState) :
    Except Error (List Task) := do
  match (← answer).findByHash? target.hash with
  | some slot =>
      if slot.confirmed || slot.permanent then return [] else throw .imageNotConfirmed
  | none => return []

/-- Waits for the device to go down, unless it refused the reset.  A reset whose answer got lost
counts as accepted. -/
def afterReset (answer : Except Error Unit) (session : Session) : Session :=
  match answer with
  | .ok () => { session with phase := .awaitingDrop }
  | .error failure =>
      if failure.isTransport then { session with phase := .awaitingDrop }
      else session.finish (.error failure)

/-- Goes on with what came back for a request. -/
def answer (question : Question) (packet : Bytes) (outcome : Except Error Response)
    (session : Session) : Session :=
  let scheme := session.scheme
  match question with
  | .bootloader attempt =>
      let command := Command.bootloaderInfo (some "mode")
      match bootloaderMode (command.conclude scheme packet outcome) with
      | .ok mode => { session with phase := .inspecting attempt mode }
      | .error failure => session.finish (.error failure)
  | .slots attempt mode =>
      session.finish
        (session.planned attempt mode (Command.images.conclude scheme packet outcome))
  | .erase => session.finish (erased (Command.eraseStorage.conclude scheme packet outcome))
  | .test target =>
      session.finish
        (tested target ((Command.testImage target.hash).conclude scheme packet outcome))
  | .confirm target =>
      session.finish
        (confirmed target
          ((Command.confirmImage (some target.hash)).conclude scheme packet outcome))
  | .reset => session.afterReset ((Command.reset false).conclude scheme packet outcome)

/-- Makes a request.  One whose packet cannot be built fails like one that cannot be sent. -/
def ask (question : Question) (session : Session) : Session :=
  let numbered := { session with seq := session.seq + 1 }
  match question.packet session.scheme session.seq with
  | .ok packet => { numbered with phase := .asking question packet }
  | .error failure => numbered.answer question [] (.error failure)

/-- The upload of an image, paused if the session is. -/
def uploadJob (target : TargetImage) (session : Session) : UploadJob :=
  let options := session.settings.upload
  let upload := UploadJob.plan session.scheme session.mtu (.image target.index) target.data options
  let control : Control := {}
  UploadJob.start upload options.window session.nextAttempt session.seq
    (if session.paused then control.pause.2 else control)

/-- The first step of a task. -/
def perform (task : Task) (session : Session) : Session :=
  match task with
  | .validate attempt => session.ask (.bootloader attempt)
  | .upload target =>
      if session.canceled then session.finish (.error .aborted)
      else { session with phase := .uploading (session.uploadJob target) }
  | .eraseStorage => session.ask .erase
  | .test target => session.ask (.test target)
  | .confirm target => session.ask (.confirm target)
  | .confirmAfterReset target => { session with phase := .connecting target }
  | .reset | .resetBeforeUpload => { session with dropped := false }.ask .reset

/-- Takes the next task, if the session is neither paused nor canceled. -/
def choose (session : Session) : Session :=
  if session.canceled then { session with phase := .concluding }
  else if session.paused then session
  else
    let (task, queue) := session.queue.pop
    match task with
    | some task => { session with queue, phase := .entering task }
    | none => { session with phase := .concluding }

/-- Enters the phase of a task, and announces it if it is another than before. -/
def enter (task : Task) (session : Session) : Session :=
  let before := session.state
  let entered := { session with state := task.state }
  if before = task.state then { entered with phase := .performing task }
  else { entered with phase := .announcing before task }

/-- Whether the wait for the link to go down is over: canceled, not wanted, or because it is
down. -/
def isDropSettled (session : Session) : Bool :=
  session.canceled || session.settings.disconnectTimeout == 0 || session.dropped

/-- The end of the wait for the link to go down.  The time that the swap takes is counted from
the answer to the reset, or from when the link went down after it. -/
def afterDrop (timedOut : Bool) (session : Session) : Session :=
  if session.canceled then session.finish (.error .aborted)
  else
    let swap := session.settings.swapTime
    let waited := session.settings.disconnectTimeout
    if waited = 0 then { session with phase := .swapping swap }
    else if session.dropped then { session with phase := .swapping swap }
    else if timedOut then { session with phase := .swapping (swap - waited) }
    else session

/-- Queues the tasks that a task found, or ends the session. -/
def conclude (result : Except Error (List Task)) (session : Session) : Session :=
  match result with
  | .ok found =>
      if session.canceled then { session with phase := .choosing }
      else { session with queue := session.queue.pushAll found, phase := .choosing }
  | .error failure =>
      if session.canceled then { session with phase := .reporting (.canceled session.state) }
      else match failure with
        | .aborted => { session with phase := .reporting (.canceled session.state) }
        | failure =>
            { session with
              queue := session.queue.clear
              phase := .reporting (.failed session.state failure) }

/-- The outcome of a session that has no more tasks. -/
def outcome (session : Session) : SessionNote :=
  if session.canceled then .canceled session.state else .completed

/-- The session after an upload has ended. -/
def afterUpload (job : UploadJob) (result : Except Error Unit) (session : Session) : Session :=
  { session with
    seq := job.engine.seq
    nextAttempt := job.attempt + 1
    phase := .performed (result.map fun _ => []) }

def need (session : Session) : Need SessionNote Unit :=
  match session.phase with
  | .starting => .tell .started
  | .choosing => if session.paused && !session.canceled then .wake else .step
  | .entering _ | .performing _ | .inspecting _ _ | .performed _ | .concluding => .step
  | .announcing before task => .tell (.state before task.state)
  | .asking _ packet => .exchange packet .generic
  | .connecting _ => .connect
  | .uploading job =>
      match job.need with
      | .finished _ => .step
      | need => need.map .progress fun _ => ()
  | .awaitingDrop =>
      if session.isDropSettled then .step else .awaitDrop session.settings.disconnectTimeout
  | .swapping milliseconds =>
      if session.canceled || milliseconds == 0 then .step else .sleep milliseconds
  | .reporting outcome => .tell outcome
  | .over => .finished ()

/-- Takes in a reply. -/
def feed (reply : Reply) (session : Session) : Session :=
  match session.phase, reply with
  | .starting, .ready => { session with phase := .choosing }
  | .choosing, .ready => session.choose
  | .entering task, .ready => session.enter task
  | .announcing _ task, .ready => { session with phase := .performing task }
  | .performing task, .ready => session.perform task
  | .inspecting attempt mode, .ready => session.ask (.slots attempt mode)
  | .asking question packet, .answer outcome => session.answer question packet outcome
  | .connecting target, .connected (.ok ()) => session.ask (.confirm target)
  | .connecting _, .connected (.error failure) => session.finish (.error failure)
  | .uploading job, reply =>
      match job.need with
      | .finished result => session.afterUpload job result
      | _ => { session with phase := .uploading (job.feed reply) }
  | .awaitingDrop, .ready => session.afterDrop false
  | .awaitingDrop, .silence => session.afterDrop true
  | .swapping _, .ready =>
      session.finish (if session.canceled then .error .aborted else .ok [])
  | .performed result, .ready => session.conclude result
  | .concluding, .ready => { session with phase := .reporting session.outcome }
  | .reporting _, .ready =>
      { session with finished := true, queue := session.queue.clear, phase := .over }
  | _, _ => session

/-- Passes a signal on to the upload that is going on, if there is one. -/
def signalUpload (signal : Signal) (session : Session) : Session :=
  match session.phase with
  | .uploading job => { session with phase := .uploading (job.signal signal).2 }
  | _ => session

/-- The session after a signal. -/
def signal (signal : Signal) (session : Session) : Bool × Session :=
  match signal with
  | .pause =>
      if session.finished || session.canceled then (false, session)
      else (true, { session with paused := true }.signalUpload .pause)
  | .resume =>
      if session.paused then (true, { session with paused := false }.signalUpload .resume)
      else (false, session)
  | .cancel =>
      if session.finished || session.canceled then (false, session)
      else
        (true,
          { session with canceled := true, queue := session.queue.clear }.signalUpload .cancel)
  | .dropped => (true, { session with dropped := true })

/-- Upgrade sessions as machines. -/
def machine : Machine Session SessionNote Unit where
  need := need
  feed := feed
  signal := signal
  seq := Session.seq

/-- What the owner of a session sees of it. -/
structure View where
  isPaused : Bool
  isInProgress : Bool
  state : UpgradeState
  deriving DecidableEq, Inhabited

def view (session : Session) : View :=
  { isPaused := session.paused, isInProgress := !session.finished, state := session.state }

end Session

end SmpClient
