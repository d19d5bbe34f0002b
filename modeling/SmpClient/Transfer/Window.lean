import SmpClient.Transfer.Chunk
import SmpClient.Transfer.Stepwise

/-!
# Uploads with several requests in flight

A windowed upload sends chunks ahead of their acknowledgements.  Every request carries the
generation that it was sent in.  When the device is not where a request should have brought it,
all that was sent after is void: a new generation starts at the offset that the device reports,
and acknowledgements of older generations only free their place in the window.
-/

namespace SmpClient

namespace Window

/-- What the upload is about to do. -/
inductive Phase
  | starting
  /-- At the start of a turn, where pauses and cancels are noticed. -/
  | turning
  | issuing
  | posting (packet : Bytes) (ticket : Ticket)
  /-- Paused, and nothing is in flight. -/
  | resting
  | collecting
  | telling
  | ended (result : Except Error Unit)
  deriving Inhabited

end Window

/-- A windowed upload on its way. -/
structure Window where
  upload : Upload
  capacity : Nat
  /-- The number of this attempt, which is on all its tickets. -/
  attempt : Nat
  seq : UInt8
  control : Control
  generation : Nat := 0
  /-- Where the next chunk starts. -/
  next : Nat := 0
  /-- What the device has, by its last acknowledgement that counted. -/
  acked : Nat := 0
  inFlight : Nat := 0
  stalls : Nat := 0
  wasPaused : Bool := false
  phase : Window.Phase := .starting
  deriving Inhabited

namespace Window

def total (window : Window) : Nat :=
  window.upload.data.length

def finish (result : Except Error Unit) (window : Window) : Window :=
  { window with phase := .ended result }

def restart (offset : Nat) (window : Window) : Window :=
  { window with generation := window.generation + 1, next := offset }

/-- Remembers a pause; after it, starts again at what the device has acknowledged, because
requests from before the pause may have been overtaken. -/
def notePause (window : Window) : Window :=
  if window.control.isPaused then { window with wasPaused := true }
  else if window.wasPaused then { window.restart window.acked with wasPaused := false }
  else window

/-- The part of a turn after its requests: what is in flight is collected; a paused upload with
nothing in flight rests. -/
def afterIssuing (paused : Bool) (window : Window) : Window :=
  if window.inFlight ≠ 0 then { window with phase := .collecting }
  else if paused then { window with phase := .resting }
  else { window with phase := .turning }

/-- The start of a turn. -/
def turn (window : Window) : Window :=
  if window.total ≤ window.acked then
    { window with control := window.control.close, phase := .ended (.ok ()) }
  else if window.control.canceled then window.finish (.error .aborted)
  else
    let window := window.notePause
    if window.control.phase = .active then
      if window.total ≤ window.next ∧ window.inFlight = 0 then
        { window.restart window.acked with phase := .issuing }
      else { window with phase := .issuing }
    else window.afterIssuing window.control.isPaused

/-- Builds the next chunk while there is room in the window and data to send.  Pauses and cancels
are not noticed here. -/
def issue (window : Window) : Window :=
  if window.inFlight < window.capacity ∧ window.next < window.total then
    match window.upload.nextChunk window.seq window.next with
    | (.error failure, seq) => { window with seq, phase := .ended (.error failure) }
    | (.ok chunk, seq) =>
        match Packet.header window.upload.scheme chunk.packet with
        | .error failure => { window with seq, phase := .ended (.error failure) }
        | .ok request =>
            { window with
              seq
              phase := .posting chunk.packet
                { attempt := window.attempt, generation := window.generation,
                  offset := window.next, length := chunk.length, request } }
  else window.afterIssuing false

/-- Counts a request that was sent. -/
def posted (ticket : Ticket) (window : Window) : Window :=
  { window with
    inFlight := window.inFlight + 1
    next := window.next + ticket.length
    phase := .issuing }

/-- The offset that an acknowledgement reports. -/
def reported (window : Window) (ticket : Ticket) (outcome : Except Error Response) :
    Except Error Nat := do
  let response ← outcome
  match response.header with
  | some header =>
      if !ticket.request.isAnsweredBy header then
        throw (.malformedResponse (.otherAnswer ticket.request header))
  | none => pure ()
  window.upload.acknowledged response

/-- Moves to an offset that the device reports, and tells of it if it is new. -/
def moveTo (offset : Nat) (window : Window) : Window :=
  if offset = window.acked then { window with phase := .turning }
  else { window with acked := offset, phase := .telling }

/-- Takes in the offset reported for a request of the current generation. -/
def settle (ticket : Ticket) (offset : Nat) (window : Window) : Window :=
  if offset = ticket.offset + ticket.length then
    { window with stalls := 0 }.moveTo offset
  else
    let stalls := if offset ≤ window.acked then window.stalls + 1 else 0
    if maxStalls < stalls then window.finish (.error (.malformedResponse (.stuck offset)))
    else ({ window with stalls }.restart offset).moveTo offset

/-- Takes in an acknowledgement.  One from another attempt is not for this upload, one from an
older generation only frees its place. -/
def acknowledge (ticket : Ticket) (outcome : Except Error Response) (window : Window) :
    Window :=
  if ticket.attempt ≠ window.attempt then window
  else
    let window := { window with inFlight := window.inFlight - 1 }
    if ticket.generation ≠ window.generation then { window with phase := .turning }
    else match window.reported ticket outcome with
      | .error failure => window.finish (.error failure)
      | .ok offset => window.settle ticket offset

/-- The end of a rest, unless the upload is still paused. -/
def rise (window : Window) : Window :=
  if window.control.isPaused then window
  else if window.control.isAborted then window.finish (.error .aborted)
  else { window with phase := .turning }

def begin (window : Window) : Window :=
  match window.control.start with
  | .error failure => window.finish (.error failure)
  | .ok control => { window with control, phase := .turning }

def need (window : Window) : Need Progress (Except Error Unit) :=
  match window.phase with
  | .starting | .turning | .issuing => .step
  | .posting packet ticket => .post packet .uploadAck ticket
  | .resting => if window.control.isPaused then .wake else .step
  | .collecting => .collect
  | .telling => .tell { current := window.acked, total := window.total }
  | .ended result => .finished result

/-- Takes in a reply.  Silence while collecting starts a new turn. -/
def feed (reply : Reply) (window : Window) : Window :=
  match window.phase, reply with
  | .starting, .ready => window.begin
  | .turning, .ready => window.turn
  | .issuing, .ready => window.issue
  | .posting _ ticket, .ready => window.posted ticket
  | .resting, .ready => window.rise
  | .collecting, .silence => { window with phase := .turning }
  | .collecting, .acknowledgement ticket outcome => window.acknowledge ticket outcome
  | .telling, .ready => { window with phase := .turning }
  | _, _ => window

/-- The upload after a signal. -/
def signal (signal : Signal) (window : Window) : Bool × Window :=
  let (accepted, control) := window.control.signal signal
  (accepted, { window with control })

def close (window : Window) : Window :=
  { window with control := window.control.close }

end Window

end SmpClient
