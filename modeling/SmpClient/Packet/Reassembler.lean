import SmpClient.Packet.Envelope

/-!
# Packets that arrive in pieces

A link may deliver a packet in fragments.  The reassembler collects them until the length that
the header announces is reached; a fragment that goes beyond it spoils the whole packet.
-/

namespace SmpClient

/-- The fragments received so far, and the length of the packet once its header is known. -/
structure Reassembler where
  scheme : Scheme
  buffer : Bytes := []
  expected : Option Nat := none
  deriving Inhabited

namespace Reassembler

def reset (state : Reassembler) : Reassembler :=
  { scheme := state.scheme }

def isActive (state : Reassembler) : Bool :=
  !state.buffer.isEmpty

/-- The outcome of a buffer whose packet has the given length, or one not known yet. -/
def settle (state : Reassembler) : Except Error (Option Bytes) × Reassembler :=
  match state.expected with
  | none => (.ok none, state)
  | some expected =>
      if expected < state.buffer.length then
        (.error (.malformedResponse (.bytesAfterEnd (state.buffer.length - expected))),
          state.reset)
      else if state.buffer.length = expected then (.ok (some state.buffer), state.reset)
      else (.ok none, state)

/-- Takes in one fragment; gives the packet once it is complete. -/
def push (state : Reassembler) (fragment : Bytes) :
    Except Error (Option Bytes) × Reassembler :=
  let state := { state with buffer := state.buffer ++ fragment }
  if state.expected.isNone && Header.size ≤ state.buffer.length then
    match Packet.expectedLength state.scheme state.buffer with
    | .error failure => (.error failure, state)
    | .ok expected => settle { state with expected := some expected }
  else settle state

end Reassembler

end SmpClient
