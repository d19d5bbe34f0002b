import SmpClient.Link.Basic

/-!
# Calls on a link, one after the other

The owner of a link makes a list of calls, with an observer who counts how often the link came
up and went down.
-/

namespace SmpClient

namespace Bench

/-- A call on a link; `prepare` is what happens to the link just before a packet is sent. -/
inductive Act (κ : Type)
  | connect
  /-- Connects without asking how it went. -/
  | connectQuietly
  | release
  | setTimeout (milliseconds : Nat)
  /-- Takes the observer away. -/
  | unobserve
  | send (prepare : κ → κ) (packet : Bytes) (kind : ResponseKind)

/-- What a call answers. -/
inductive ActResult
  | done
  | outcome (result : Except Error Unit)
  | response (result : Except Error Response)

/-- A link with the counts of its observer. -/
structure Observed (κ : Type) where
  link : κ
  connected : Nat := 0
  disconnected : Nat := 0

namespace Observed

variable {κ : Type}

def count {α : Type} (observed : Observed κ) (step : LinkStep κ Unit α) : Observed κ :=
  { link := step.link
    connected := observed.connected + step.connected.length
    disconnected := observed.disconnected + step.disconnected.length }

def act (calls : LinkCalls κ Unit) (act : Act κ) (observed : Observed κ) :
    ActResult × Observed κ :=
  match act with
  | .connect =>
      let step := calls.connect observed.link
      (.outcome step.result, observed.count step)
  | .connectQuietly => (.done, observed.count (calls.connect observed.link))
  | .release => (.done, observed.count (calls.release observed.link))
  | .setTimeout milliseconds =>
      (.outcome (.ok ()),
        { observed with link := calls.setTimeout milliseconds observed.link })
  | .unobserve =>
      let observers := (calls.observers observed.link).remove ()
      (.done, { observed with link := calls.withObservers observers observed.link })
  | .send prepare packet kind =>
      let step := calls.send packet kind (prepare observed.link)
      (.response step.result, observed.count step)

/-- Makes calls one after the other; gives what each answers and the counts after it. -/
def acts (calls : LinkCalls κ Unit) :
    List (Act κ) → Observed κ → List (ActResult × Observed κ) × Observed κ
  | [], observed => ([], observed)
  | act :: rest, observed =>
      let (result, observed) := observed.act calls act
      let (results, last) := acts calls rest observed
      ((result, observed) :: results, last)

end Observed

end Bench

end SmpClient
