import SmpClient.Packet.Response

/-!
# Machines that say what they need

Everything that takes more than one step with a device is a machine: a state that says what it
needs next, a function that takes in the reply, and a function that takes in what happens
outside.  A machine touches no link, clock or thread.  Whoever runs it supplies the replies, so
every order of replies and signals is a run of the same two functions.
-/

namespace SmpClient

/-- A request that was sent ahead, by which its acknowledgement is recognised. -/
structure Ticket where
  /-- The attempt that sent it; later attempts have higher numbers. -/
  attempt : Nat
  generation : Nat
  offset : Nat
  length : Nat
  request : Header
  deriving DecidableEq, Inhabited

/-- What a machine needs before it can go on: notes of type `ν` are told, a result of type `ρ`
ends it. -/
inductive Need (ν ρ : Type)
  /-- Nothing; the next step is its own. -/
  | step
  /-- To send a packet and wait for the response. -/
  | exchange (packet : Bytes) (kind : ResponseKind)
  /-- To send a packet and go on; its acknowledgement is collected later. -/
  | post (packet : Bytes) (kind : ResponseKind) (ticket : Ticket)
  /-- An acknowledgement of a packet that was sent ahead. -/
  | collect
  /-- A signal; nothing else makes it go on. -/
  | wake
  /-- To tell its owner something. -/
  | tell (note : ν)
  /-- A connection. -/
  | connect
  /-- The link to go down, for so many milliseconds at most. -/
  | awaitDrop (milliseconds : Nat)
  /-- So many milliseconds to go by. -/
  | sleep (milliseconds : Nat)
  /-- Nothing any more. -/
  | finished (result : ρ)

def Need.map {ν ν' ρ ρ' : Type} (note : ν → ν') (result : ρ → ρ') : Need ν ρ → Need ν' ρ'
  | .step => .step
  | .exchange packet kind => .exchange packet kind
  | .post packet kind ticket => .post packet kind ticket
  | .collect => .collect
  | .wake => .wake
  | .tell told => .tell (note told)
  | .connect => .connect
  | .awaitDrop milliseconds => .awaitDrop milliseconds
  | .sleep milliseconds => .sleep milliseconds
  | .finished ended => .finished (result ended)

/-- What a machine is given in reply to a need. -/
inductive Reply
  /-- What was needed is done. -/
  | ready
  | answer (outcome : Except Error Response)
  | acknowledgement (ticket : Ticket) (outcome : Except Error Response)
  /-- Nothing came in time. -/
  | silence
  | connected (outcome : Except Error Unit)

/-- What may happen to a machine at any time. -/
inductive Signal
  | pause
  | resume
  | cancel
  /-- The link went down. -/
  | dropped
  deriving DecidableEq, Inhabited

/-- The name in diagnostics. -/
def Signal.name : Signal → String
  | .pause => "pause"
  | .resume => "resume"
  | .cancel => "cancel"
  | .dropped => "dropped"

/-- A machine with states of type `σ`. -/
structure Machine (σ ν ρ : Type) where
  need : σ → Need ν ρ
  /-- The state after a reply; a reply that was not needed changes nothing. -/
  feed : Reply → σ → σ
  /-- The state after a signal, and whether the signal was accepted. -/
  signal : Signal → σ → Bool × σ
  /-- The sequence number of the next request. -/
  seq : σ → UInt8

end SmpClient
