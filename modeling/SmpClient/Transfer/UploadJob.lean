import SmpClient.Transfer.MtuRetry
import SmpClient.Transfer.Single
import SmpClient.Transfer.Window

/-!
# Uploads as jobs

An upload uses the window that it is told to use, a window of one being the plain upload.  If
the link refuses a packet as too long the upload starts over with shorter packets, once.
-/

namespace SmpClient

/-- How an upload uses the link. -/
structure UploadOptions where
  /-- Requests in flight. -/
  window : Nat := 1
  /-- All chunks but the last are a multiple of this many bytes. -/
  alignment : Nat := 1
  deriving DecidableEq, Inhabited

/-- The part of an upload job that talks to the device. -/
inductive UploadEngine
  | single (run : Stepwise SingleUpload Exchange)
  | windowed (window : Window)

namespace UploadEngine

def start (upload : Upload) (capacity attempt : Nat) (seq : UInt8) (control : Control) :
    UploadEngine :=
  if 1 < capacity then .windowed { upload, capacity, attempt, seq, control }
  else .single { transfer := { upload, seq }, control }

def control : UploadEngine → Control
  | .single run => run.control
  | .windowed window => window.control

def seq : UploadEngine → UInt8
  | .single run => run.transfer.seq
  | .windowed window => window.seq

def upload : UploadEngine → Upload
  | .single run => run.transfer.upload
  | .windowed window => window.upload

/-- The result of an attempt that has ended. -/
def result? : UploadEngine → Option (Except Error Unit)
  | .single run =>
      match run.phase with
      | .ended result => some result
      | _ => none
  | .windowed window =>
      match window.phase with
      | .ended result => some result
      | _ => none

def need : UploadEngine → Need Progress (Except Error Unit)
  | .single run => run.need SingleUpload.transfer
  | .windowed window => window.need

/-- The attempt takes in a reply. -/
def feed (reply : Reply) : UploadEngine → UploadEngine
  | .single run => .single (run.feed SingleUpload.transfer reply)
  | .windowed window => .windowed (window.feed reply)

/-- The attempt after a signal. -/
def signal (signal : Signal) : UploadEngine → Bool × UploadEngine
  | .single run => let (accepted, run) := run.signal signal; (accepted, .single run)
  | .windowed window => let (accepted, window) := window.signal signal; (accepted, .windowed window)

def close : UploadEngine → UploadEngine
  | .single run => .single run.close
  | .windowed window => .windowed window.close

end UploadEngine

/-- An upload with its second attempt. -/
structure UploadJob where
  engine : UploadEngine
  capacity : Nat
  /-- The number of the attempt that is going on. -/
  attempt : Nat
  retried : Bool := false

namespace UploadJob

def plan (scheme : Scheme) (mtu : Nat) (destination : Destination) (data : Bytes)
    (options : UploadOptions) : Upload :=
  { scheme, destination, data, mtu, alignment := max options.alignment 1 }

/-- An upload under a given control; its attempts are numbered from `attempt` on. -/
def start (upload : Upload) (window attempt : Nat) (seq : UInt8) (control : Control) :
    UploadJob :=
  let capacity := max window 1
  if upload.data.isEmpty then
    { capacity, attempt, retried := true
      engine := .single
        { transfer := { upload, seq }, control
          phase := .ended (.error (.invalidArgument .nothingToUpload)) } }
  else { capacity, attempt, engine := .start upload capacity attempt seq control }

/-- The packet length of a second attempt, once the first has ended and asks for it. -/
def retryMtu? (job : UploadJob) : Option Nat :=
  if job.retried then none
  else job.engine.result?.bind (MtuRetry.next? job.engine.upload.mtu)

/-- Starts over with shorter packets. -/
def retry (mtu : Nat) (job : UploadJob) : UploadJob :=
  { job with
    attempt := job.attempt + 1
    retried := true
    engine := .start { job.engine.upload with mtu } job.capacity (job.attempt + 1)
      job.engine.seq job.engine.control }

def need (job : UploadJob) : Need Progress (Except Error Unit) :=
  match job.retryMtu? with
  | some _ => .step
  | none => job.engine.need

/-- The job takes in a reply. -/
def feed (reply : Reply) (job : UploadJob) : UploadJob :=
  match job.retryMtu?, reply with
  | some mtu, .ready => job.retry mtu
  | some _, _ => job
  | none, reply => { job with engine := job.engine.feed reply }

/-- The job after a signal. -/
def signal (signal : Signal) (job : UploadJob) : Bool × UploadJob :=
  let (accepted, engine) := job.engine.signal signal
  (accepted, { job with engine })

def control (job : UploadJob) : Control :=
  job.engine.control

def close (job : UploadJob) : UploadJob :=
  { job with engine := job.engine.close }

/-- Uploads as machines. -/
def machine : Machine UploadJob Progress (Except Error Unit) where
  need := need
  feed := feed
  signal := signal
  seq := fun job => job.engine.seq

end UploadJob

end SmpClient
