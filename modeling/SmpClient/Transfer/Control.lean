import SmpClient.Machine.Basic

/-!
# Control of a transfer

A transfer can be paused, resumed and canceled at any time, also before it begins.  Once it is
closed it stays closed; whether a cancel closed it is remembered.
-/

namespace SmpClient

/-- How far a transfer is. -/
inductive TransferPhase
  | idle
  | active
  | paused
  | closed
  deriving DecidableEq, Inhabited

/-- The name in diagnostics. -/
def TransferPhase.name : TransferPhase → String
  | .idle => "None"
  | .active => "Transfer"
  | .paused => "Paused"
  | .closed => "Closed"

/-- What the owner of a transfer and the transfer share. -/
structure Control where
  phase : TransferPhase := .idle
  canceled : Bool := false
  deriving DecidableEq, Inhabited

namespace Control

/-- Asks the transfer to send nothing more for now. -/
def pause (control : Control) : Bool × Control :=
  match control.phase with
  | .idle | .active => (true, { control with phase := .paused })
  | _ => (false, control)

def resume (control : Control) : Bool × Control :=
  match control.phase with
  | .idle | .paused => (true, { control with phase := .active })
  | _ => (false, control)

/-- Closes the transfer, unless it is closed already. -/
def cancel (control : Control) : Bool × Control :=
  match control.phase with
  | .closed => (false, control)
  | _ => (true, { phase := .closed, canceled := true })

/-- What a signal does, and whether it was accepted. -/
def signal (signal : Signal) (control : Control) : Bool × Control :=
  match signal with
  | .pause => control.pause
  | .resume => control.resume
  | .cancel => control.cancel
  | .dropped => (false, control)

/-- Begins the transfer.  A pause from before the start is kept. -/
def start (control : Control) : Except Error Control :=
  match control.phase with
  | .idle => .ok { control with phase := .active }
  | .active | .paused => .ok control
  | .closed =>
      if control.canceled then .error .aborted else .error (.invalidArgument .transferClosed)

def close (control : Control) : Control :=
  { control with phase := .closed }

/-- Whether the transfer is to send nothing for now. -/
def isPaused (control : Control) : Bool :=
  control.phase = .paused

/-- Whether a cancel closed the transfer. -/
def isAborted (control : Control) : Bool :=
  control.phase = .closed && control.canceled

end Control

end SmpClient
