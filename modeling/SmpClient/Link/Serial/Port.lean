import SmpClient.Link.Serial.Frame

/-!
# Serial ports

A port is known by what can be read from it and what a write does to it.  An exchange drops the
input that is already waiting, writes a frame and reads one.
-/

namespace SmpClient

/-- A kind of serial port with states of type `σ`. -/
structure Port (σ : Type) where
  /-- The number of bytes that are reported to be waiting. -/
  waiting : σ → Except Error Nat
  /-- The bytes that can be read before a read fails. -/
  input : σ → Bytes
  /-- The port when only these bytes are left to be read. -/
  keep : Bytes → σ → σ
  /-- How a read fails when there is no input. -/
  ending : σ → Error
  write : Bytes → σ → Except Error Unit × σ

namespace Port

variable {σ : Type}

/-- Drops the input that is reported to be waiting. -/
def drain (port : Port σ) (state : σ) : Except Error Unit × σ :=
  match port.waiting state with
  | .error failure => (.error failure, state)
  | .ok count =>
      let input := port.input state
      if count ≤ input.length then (.ok (), port.keep (input.drop count) state)
      else (.error (port.ending state), port.keep [] state)

def receive (port : Port σ) (state : σ) : Except Error Bytes × σ :=
  let (packet, rest) := Frame.receive (port.ending state) (port.input state)
  (packet, port.keep rest state)

/-- Writes a frame and reads one; gives the packet in it. -/
def transceive (port : Port σ) (frame : Bytes) (state : σ) : Except Error Bytes × σ :=
  match port.drain state with
  | (.error failure, state) => (.error failure, state)
  | (.ok (), state) =>
      match port.write frame state with
      | (.error failure, state) => (.error failure, state)
      | (.ok (), state) => port.receive state

end Port

end SmpClient
