import SmpClient.Error
import SmpClient.Transfer.Control

/-!
# Transfers that go one request at a time

A stepwise transfer asks for the chunk at its offset, lets the answer move the offset, and ends
when the offset has reached the length.  An answer that does not move it is a stall; too many
in a row end the transfer.  This file fixes the order of these steps for every kind of request
and answer.
-/

namespace SmpClient

/-- A kind of transfer: states of type `τ`, requests of type `ρ`, answers of type `α`. -/
structure Transfer (τ ρ α : Type) where
  offset : τ → Nat
  /-- The length of all, once it is known. -/
  length? : τ → Option Nat
  /-- The request for the chunk at an offset. -/
  request : Nat → τ → Except Error ρ × τ
  /-- Takes in the answer to a request. -/
  accept : ρ → α → τ → Except Error Unit × τ

namespace Transfer

variable {τ ρ α : Type}

def isFinished (transfer : Transfer τ ρ α) (state : τ) : Bool :=
  match transfer.length? state with
  | some length => transfer.offset state == length
  | none => false

end Transfer

/-- Stalls in a row that a transfer bears. -/
def maxStalls : Nat := 8

/-- The progress of a transfer: how much is done, and of how much. -/
structure Progress where
  current : Nat
  total : Nat
  deriving DecidableEq, Inhabited

namespace Stepwise

/-- What a run is about to do. -/
inductive Phase (ρ : Type)
  | starting
  | choosing
  /-- A request for the chunk at `offset` is out. -/
  | sending (offset : Nat) (request : ρ)
  | telling
  | ended (result : Except Error Unit)

end Stepwise

/-- A stepwise transfer on its way. -/
structure Stepwise (τ ρ : Type) where
  transfer : τ
  control : Control
  stalls : Nat := 0
  phase : Stepwise.Phase ρ := .starting

namespace Stepwise

variable {τ ρ α : Type}

/-- Whether the run waits for a resume or a cancel. -/
def isBlocked (kind : Transfer τ ρ α) (run : Stepwise τ ρ) : Bool :=
  match run.phase with
  | .choosing => !kind.isFinished run.transfer && run.control.isPaused
  | _ => false

/-- The step that a run takes by itself. -/
def advance (kind : Transfer τ ρ α) (run : Stepwise τ ρ) : Stepwise τ ρ :=
  match run.phase with
  | .starting =>
      match run.control.start with
      | .error failure => { run with phase := .ended (.error failure) }
      | .ok control => { run with control, phase := .choosing }
  | .choosing =>
      if kind.isFinished run.transfer then
        { run with control := run.control.close, phase := .ended (.ok ()) }
      else if run.control.isPaused then run
      else if run.control.isAborted then { run with phase := .ended (.error .aborted) }
      else
        let offset := kind.offset run.transfer
        match kind.request offset run.transfer with
        | (.error failure, transfer) => { run with transfer, phase := .ended (.error failure) }
        | (.ok request, transfer) => { run with transfer, phase := .sending offset request }
  | .telling => { run with phase := .choosing }
  | _ => run

/-- What follows a chunk that was accepted: the end of a transfer that was canceled or is stuck,
or a report of the progress. -/
def settle (kind : Transfer τ ρ α) (offset : Nat) (run : Stepwise τ ρ) : Stepwise τ ρ :=
  let stalls := if kind.offset run.transfer = offset then run.stalls + 1 else 0
  if run.control.canceled then { run with phase := .ended (.error .aborted) }
  else if maxStalls < stalls then
    { run with stalls, phase := .ended (.error (.malformedResponse (.stuck offset))) }
  else { run with stalls, phase := .telling }

/-- Takes in the answer to the request that is out. -/
def answer (kind : Transfer τ ρ α) (answer : α) (run : Stepwise τ ρ) : Stepwise τ ρ :=
  match run.phase with
  | .sending offset request =>
      match kind.accept request answer run.transfer with
      | (.error failure, transfer) => { run with transfer, phase := .ended (.error failure) }
      | (.ok (), transfer) => settle kind offset { run with transfer }
  | _ => run

/-- The progress that a run reports. -/
def progress (kind : Transfer τ ρ α) (run : Stepwise τ ρ) : Progress :=
  { current := kind.offset run.transfer, total := (kind.length? run.transfer).getD 0 }

/-- The run after a signal. -/
def signal (signal : Signal) (run : Stepwise τ ρ) : Bool × Stepwise τ ρ :=
  let (accepted, control) := run.control.signal signal
  (accepted, { run with control })

def close (run : Stepwise τ ρ) : Stepwise τ ρ :=
  { run with control := run.control.close }

end Stepwise

/-- A packet that is sent for a response. -/
structure Exchange where
  packet : Bytes
  kind : ResponseKind
  deriving Inhabited

abbrev LinkTransfer (τ : Type) := Transfer τ Exchange (Except Error Response)

namespace Stepwise

variable {τ : Type}

def need (kind : LinkTransfer τ) (run : Stepwise τ Exchange) :
    Need Progress (Except Error Unit) :=
  match run.phase with
  | .starting => .step
  | .choosing => if isBlocked kind run then .wake else .step
  | .sending _ request => .exchange request.packet request.kind
  | .telling => .tell (run.progress kind)
  | .ended result => .finished result

/-- A run over a link takes in a reply. -/
def feed (kind : LinkTransfer τ) (reply : Reply) (run : Stepwise τ Exchange) :
    Stepwise τ Exchange :=
  match reply with
  | .ready => run.advance kind
  | .answer outcome => run.answer kind outcome
  | _ => run

end Stepwise

end SmpClient
