import SmpClient.Link.Serial.Port

/-!
# A scripted serial port

The other end of the port answers each frame that is written with bytes from a list.
-/

namespace SmpClient

namespace Bench

/-- A scripted port and what happened on it. -/
structure ScriptedPort where
  incoming : Bytes := []
  /-- The number of waiting bytes that is reported, if it is not the true one. -/
  reported : Option Nat := none
  /-- Why the number of waiting bytes cannot be told. -/
  gone : Option Error := none
  /-- How a read fails when there is no input. -/
  ending : Error := .timeout
  /-- Why nothing can be written.  Writing no bytes at all goes well all the same. -/
  unwritable : Option Error := none
  /-- What comes back for each frame that is written. -/
  answers : List (Option Bytes) := []
  written : Bytes := []
  frames : Nat := 0
  deriving Inhabited

namespace ScriptedPort

/-- Takes a frame, and lets its answer arrive. -/
def write (frame : Bytes) (state : ScriptedPort) : Except Error Unit × ScriptedPort :=
  match state.unwritable.filter fun _ => !frame.isEmpty with
  | some failure => (.error failure, state)
  | none =>
      (.ok (),
        { state with
          written := state.written ++ frame
          frames := state.frames + 1
          incoming := state.incoming ++ (state.answers.head?.bind id).getD []
          answers := state.answers.tail })

/-- Scripted ports as ports. -/
def port : Port ScriptedPort where
  waiting := fun state =>
    match state.gone with
    | some failure => .error failure
    | none => .ok (state.reported.getD state.incoming.length)
  input := incoming
  keep := fun rest state => { state with incoming := rest }
  ending := ScriptedPort.ending
  write := write

end ScriptedPort

end Bench

end SmpClient
