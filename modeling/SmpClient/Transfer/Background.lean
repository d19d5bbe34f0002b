import SmpClient.Error
import SmpClient.Transfer.Stepwise

/-!
# Transfers in the background

A background transfer reports how it ends, exactly once: completed, failed or canceled.  A
transfer that fails is closed, so that a later cancel is refused.
-/

namespace SmpClient

/-- What a background transfer tells its owner. -/
inductive BackgroundNote (α : Type)
  | progress (progress : Progress)
  | completed (result : α)
  | failed (error : Error)
  | canceled

/-- How far a background transfer is. -/
inductive Background (σ α : Type)
  | running (job : σ)
  /-- The last note is being told. -/
  | reporting (job : σ) (note : BackgroundNote α)
  | over (job : σ)

namespace Background

variable {σ α : Type}

def lastNote : Except Error α → BackgroundNote α
  | .ok result => .completed result
  | .error .aborted => .canceled
  | .error failure => .failed failure

/-- The job when its last note is told: one that failed is closed. -/
def closing (close : σ → σ) (job : σ) : BackgroundNote α → σ
  | .failed _ => close job
  | _ => job

/-- The job in the background. -/
def job : Background σ α → σ
  | .running job | .reporting job _ | .over job => job

variable (inner : Machine σ Progress (Except Error α)) (close : σ → σ)

def need : Background σ α → Need (BackgroundNote α) Unit
  | .running job =>
      match inner.need job with
      | .finished _ => .step
      | need => need.map .progress fun _ => ()
  | .reporting _ note => .tell note
  | .over _ => .finished ()

/-- Takes in a reply; the job is asked for its result when it has one. -/
def feed (reply : Reply) (background : Background σ α) : Background σ α :=
  match background, reply with
  | .running job, reply =>
      match inner.need job with
      | .finished result =>
          let note := lastNote result
          .reporting (closing close job note) note
      | _ => .running (inner.feed reply job)
  | .reporting job _, .ready => .over job
  | background, _ => background

/-- The transfer after a signal. -/
def signal (signal : Signal) (background : Background σ α) : Bool × Background σ α :=
  let (accepted, job) := inner.signal signal background.job
  (accepted, match background with
    | .running _ => .running job
    | .reporting _ note => .reporting job note
    | .over _ => .over job)

/-- Background transfers as machines, around the machine of the transfer. -/
def machine : Machine (Background σ α) (BackgroundNote α) Unit where
  need := need inner
  feed := feed inner close
  signal := signal inner
  seq := fun background => inner.seq background.job

end Background

end SmpClient
