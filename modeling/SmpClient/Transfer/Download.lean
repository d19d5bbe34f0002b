import SmpClient.Command.Basic
import SmpClient.Message.File
import SmpClient.Transfer.Stepwise

/-!
# Downloads

The first chunk of a file announces its length, and with it the size of the buffer.  A chunk
may come for any offset, as long as it lies within the buffer and brings something.
-/

namespace SmpClient

/-- The buffer for a file: its length, and its content up to the last byte that has come.
Everything after that is zero. -/
structure FileBuffer where
  length : Nat
  written : Bytes := []
  length_written_le : written.length ≤ length := by simp

namespace FileBuffer

/-- The greatest length that a device may announce. -/
def maxLength : Nat := 0xffffffff

/-- The buffer for a file of the announced length. -/
def allocate : Option Nat → Except Error FileBuffer
  | none => .error (.malformedResponse .noLength)
  | some length =>
      if maxLength < length then .error (.malformedResponse (.implausibleLength length))
      else .ok { length }

def content (buffer : FileBuffer) : Bytes :=
  buffer.written ++ List.replicate (buffer.length - buffer.written.length) 0

/-- Puts a chunk into the buffer; gives the offset after it. -/
def place (chunk : FileChunk) (buffer : FileBuffer) : Except Error (FileBuffer × Nat) :=
  let after := chunk.offset + chunk.data.length
  if buffer.length < chunk.offset then
    .error (.malformedResponse (.chunkBeyond chunk.offset buffer.length))
  else if fits : buffer.length < after then
    .error (.malformedResponse (.chunkTooLong chunk.data.length chunk.offset buffer.length))
  else if chunk.data.isEmpty && after < buffer.length then
    .error (.malformedResponse (.emptyChunk chunk.offset))
  else
    .ok
      ({ length := buffer.length
         written := buffer.written.take chunk.offset ++
           List.replicate (chunk.offset - buffer.written.length) 0 ++ chunk.data ++
           buffer.written.drop after
         length_written_le := by
           have := buffer.length_written_le
           simp only [List.length_append, List.length_take, List.length_replicate,
             List.length_drop]
           omega },
        after)

end FileBuffer

/-- A file on a device and what has come of it. -/
structure Download where
  scheme : Scheme
  path : String
  seq : UInt8
  /-- None before the length is known. -/
  buffer : Option FileBuffer := none
  offset : Nat := 0
  deriving Inhabited

namespace Download

/-- The packet that asks for the chunk at an offset. -/
def readPacket (scheme : Scheme) (path : String) (seq : UInt8) (offset : Nat) :
    Except Error Bytes :=
  Packet.build scheme .read 0 Group.file.number seq 0
    (Message.fetchFile path (offset % 0x100000000))

/-- The request for the chunk at an offset. -/
def request (offset : Nat) (state : Download) : Except Error Exchange × Download :=
  ((readPacket state.scheme state.path state.seq offset).map fun packet =>
    { packet, kind := .generic }, { state with seq := state.seq + 1 })

/-- The chunk in what came back for a packet. -/
def chunkOf (state : Download) (packet : Bytes) (outcome : Except Error Response) :
    Except Error FileChunk := do
  (← Command.answered state.scheme packet outcome).body (FileChunk.readBelow 0x10000000000000000)

/-- Takes in a chunk.  The buffer stays as large as it was made, whatever later chunks
announce. -/
def store (chunk : FileChunk) (state : Download) : Except Error Unit × Download :=
  let buffer : Except Error FileBuffer :=
    match state.buffer with
    | some buffer => .ok buffer
    | none => FileBuffer.allocate chunk.length
  match buffer with
  | .error failure => (.error failure, state)
  | .ok buffer =>
      match buffer.place chunk with
      | .error failure => (.error failure, { state with buffer := some buffer })
      | .ok (buffer, offset) => (.ok (), { state with buffer := some buffer, offset })

/-- Takes in what came back for a request. -/
def accept (request : Exchange) (outcome : Except Error Response) (state : Download) :
    Except Error Unit × Download :=
  match state.chunkOf request.packet outcome with
  | .error failure => (.error failure, state)
  | .ok chunk => state.store chunk

/-- Downloads as stepwise transfers. -/
def transfer : LinkTransfer Download where
  offset := Download.offset
  length? := fun state => state.buffer.map FileBuffer.length
  request := request
  accept := accept

/-- The content of a file that has come completely. -/
def content (state : Download) : Except Error Bytes :=
  match state.buffer with
  | some buffer =>
      if state.offset = buffer.length then .ok buffer.content
      else .error (.invalidArgument .downloadUnfinished)
  | none => .error (.invalidArgument .downloadUnfinished)

end Download

/-- A download as a machine. -/
structure DownloadJob where
  run : Stepwise Download Exchange

namespace DownloadJob

def start (scheme : Scheme) (path : String) (seq : UInt8) (control : Control) : DownloadJob :=
  { run := { transfer := { scheme, path, seq }, control } }

/-- The content, if the run has ended well. -/
def result (job : DownloadJob) (ended : Except Error Unit) : Except Error Bytes :=
  match ended with
  | .ok () => job.run.transfer.content
  | .error failure => .error failure

def control (job : DownloadJob) : Control :=
  job.run.control

def close (job : DownloadJob) : DownloadJob :=
  { run := job.run.close }

/-- The job after a signal. -/
def signal (signal : Signal) (job : DownloadJob) : Bool × DownloadJob :=
  let (accepted, run) := job.run.signal signal
  (accepted, { run })

/-- Downloads as machines; the result is the content. -/
def machine : Machine DownloadJob Progress (Except Error Bytes) where
  need := fun job => (job.run.need Download.transfer).map id job.result
  feed := fun reply job => { run := job.run.feed Download.transfer reply }
  signal := signal
  seq := fun job => job.run.transfer.seq

end DownloadJob

end SmpClient
