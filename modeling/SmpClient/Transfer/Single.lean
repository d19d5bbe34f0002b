import SmpClient.Command.Basic
import SmpClient.Transfer.Chunk
import SmpClient.Transfer.Stepwise

/-!
# Uploads with one request at a time

The offset follows the device: whatever offset it acknowledges, within the data, is where the
next chunk starts.
-/

namespace SmpClient

/-- An upload and how far the device is. -/
structure SingleUpload where
  upload : Upload
  offset : Nat := 0
  seq : UInt8
  deriving Inhabited

namespace SingleUpload

/-- The request for the chunk at an offset. -/
def request (offset : Nat) (state : SingleUpload) : Except Error Exchange × SingleUpload :=
  let (chunk, seq) := state.upload.nextChunk state.seq offset
  (chunk.map fun chunk => { packet := chunk.packet, kind := .uploadAck }, { state with seq })

/-- The offset that what came back for a chunk acknowledges. -/
def acknowledged (state : SingleUpload) (request : Exchange)
    (outcome : Except Error Response) : Except Error Nat := do
  let response ← outcome
  Command.checkAnswer state.upload.scheme request.packet response
  state.upload.acknowledged response

/-- Moves to the offset that the device acknowledges; without one nothing changes. -/
def accept (request : Exchange) (outcome : Except Error Response) (state : SingleUpload) :
    Except Error Unit × SingleUpload :=
  match state.acknowledged request outcome with
  | .ok offset => (.ok (), { state with offset })
  | .error failure => (.error failure, state)

/-- Uploads as stepwise transfers. -/
def transfer : LinkTransfer SingleUpload where
  offset := SingleUpload.offset
  length? := fun state => some state.upload.data.length
  request := request
  accept := accept

end SingleUpload

end SmpClient
