import SmpClient.Machine.Basic

/-!
# Commands

A command is a request with the reading of its answer.  An answer must belong to the request
and report success before its body is read.
-/

namespace SmpClient

/-- What a device is asked to do, and how its answer is read. -/
structure Command (α : Type) where
  op : Op
  group : UInt16
  id : UInt8
  payload : Cbor.Value
  kind : ResponseKind := .generic
  read : Response → Except Error α

namespace Command

variable {α β : Type}

def map (f : α → β) (command : Command α) : Command β :=
  { command with read := fun response => (command.read response).map f }

/-- A command whose answer has no body. -/
def silent (op : Op) (group : Group) (id : UInt8) (payload : Cbor.Value) : Command Unit :=
  { op, group := group.number, id, payload, read := fun _ => .ok () }

/-- A command whose answer has a body. -/
def asking (op : Op) (group : Group) (id : UInt8) (payload : Cbor.Value)
    (body : Cbor.Reader α) : Command α :=
  { op, group := group.number, id, payload, read := fun response => response.body body }

/-- The packet that carries the command. -/
def packet (command : Command α) (scheme : Scheme) (seq : UInt8) : Except Error Bytes :=
  Packet.build scheme command.op 0 command.group seq command.id command.payload

/-- Refuses a response whose header does not belong to the packet.  A response without a header
passes. -/
def checkAnswer (scheme : Scheme) (packet : Bytes) (response : Response) :
    Except Error Unit := do
  let request ← Packet.header scheme packet
  match response.header with
  | none => return
  | some header =>
      if request.isAnsweredBy header then return
      else throw (.malformedResponse (.wrongAnswer request header))

/-- What came back for a packet, if it belongs to the packet and reports success. -/
def answered (scheme : Scheme) (packet : Bytes) (outcome : Except Error Response) :
    Except Error Response := do
  let response ← outcome
  checkAnswer scheme packet response
  response.check

/-- The result of a command, from what came back for its packet. -/
def conclude (command : Command α) (scheme : Scheme) (packet : Bytes)
    (outcome : Except Error Response) : Except Error α := do
  command.read (← answered scheme packet outcome)

/-- A command on its way: waiting for an answer, or done. -/
inductive State (α : Type)
  | asking (command : Command α) (scheme : Scheme) (packet : Bytes)
  | done (result : Except Error α)

/-- The command as it is handed to a link, and the next sequence number. -/
structure Running (α : Type) where
  state : State α
  seq : UInt8

def start (command : Command α) (scheme : Scheme) (seq : UInt8) : Running α :=
  { seq := seq + 1
    state := match command.packet scheme seq with
      | .ok packet => .asking command scheme packet
      | .error failure => .done (.error failure) }

namespace Running

/-- One exchange, and the command is done. -/
def need (running : Running α) : Need Empty (Except Error α) :=
  match running.state with
  | .asking command _ packet => .exchange packet command.kind
  | .done result => .finished result

/-- Takes in the answer. -/
def feed (reply : Reply) (running : Running α) : Running α :=
  match running.state, reply with
  | .asking command scheme packet, .answer outcome =>
      { running with state := .done (command.conclude scheme packet outcome) }
  | _, _ => running

/-- A single command as a machine, which no signal reaches. -/
def machine : Machine (Running α) Empty (Except Error α) where
  need := need
  feed := feed
  signal := fun _ running => (false, running)
  seq := Running.seq

end Running

end Command

end SmpClient
