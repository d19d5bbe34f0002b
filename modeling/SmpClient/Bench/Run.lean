import SmpClient.Bench.Link
import SmpClient.Command.Basic
import SmpClient.Transfer.Stepwise

/-!
# Running a machine on a scripted link

The run supplies every reply that the machine needs from the link, from an owner who acts on
cue, and from a clock that only moves when the machine waits.  It ends with the machine, or
when nothing can make the machine go on.
-/

namespace SmpClient

namespace Bench

/-- Something that the owner does when told a note of some name for the `count`-th time. -/
structure Cue where
  name : String
  count : Nat := 0
  signal : Signal
  deriving Inhabited

/-- What an owner does: on cue, and whenever the machine waits to be woken. -/
structure Owner (σ ν V : Type) where
  /-- The name of a note, if there can be cues for it. -/
  cueName : ν → Option String
  cues : List Cue := []
  whenBlocked : Option Signal := none
  /-- What the owner sees of a machine. -/
  view : σ → V

/-- Something that happened in a run. -/
inductive Occurrence (ν V : Type)
  | told (note : ν)
  | acted (signal : Signal) (after : V)
  /-- The machine had to be woken; the owner saw this of it. -/
  | blocked (before : V)

/-- A run on its way. -/
structure World (σ ν V : Type) where
  state : σ
  link : Link
  inbox : List Delivery := []
  /-- The latest first. -/
  occurrences : List (Occurrence ν V) := []
  /-- Milliseconds that the machine has waited. -/
  clock : Nat := 0

namespace World

variable {σ ν ρ V : Type} (machine : Machine σ ν ρ) (owner : Owner σ ν V)

def feed (reply : Reply) (world : World σ ν V) : World σ ν V :=
  { world with state := machine.feed reply world.state }

def signal (signals : List Signal) (world : World σ ν V) : World σ ν V :=
  { world with
    state := signals.foldl (fun state signal => (machine.signal signal state).2) world.state }

/-- The cues for a note, given what was told before. -/
def cuesFor (note : ν) (world : World σ ν V) : List Signal :=
  match owner.cueName note with
  | none => []
  | some name =>
      let before := world.occurrences.filter fun
        | .told earlier => owner.cueName earlier == some name
        | _ => false
      (owner.cues.filter fun cue => cue.name == name && cue.count == before.length).map
        Cue.signal

def act (signal : Signal) (world : World σ ν V) : World σ ν V :=
  let state := (machine.signal signal world.state).2
  { world with state, occurrences := .acted signal (owner.view state) :: world.occurrences }

def tell (note : ν) (world : World σ ν V) : World σ ν V :=
  (world.cuesFor owner note).foldl (fun world signal => world.act machine owner signal)
    { world with occurrences := .told note :: world.occurrences }

/-- How a step of a run ends. -/
inductive Outcome (ω ρ : Type)
  | goesOn (world : ω)
  | ended (result : ρ) (world : ω)
  /-- Nothing will make the machine go on. -/
  | stuck (world : ω)

/-- The owner wakes a machine that nothing else makes go on, and gives it a reply, unless the
owner's signal is refused. -/
def wake (reply : Reply) (world : World σ ν V) : Outcome (World σ ν V) ρ :=
  match owner.whenBlocked with
  | none => .stuck world
  | some signal =>
      let (accepted, state) := machine.signal signal world.state
      let occurrences := .blocked (owner.view world.state) :: world.occurrences
      if accepted then .goesOn ({ world with state, occurrences }.feed machine reply)
      else .stuck world

def step (world : World σ ν V) : Outcome (World σ ν V) ρ :=
  match machine.need world.state with
  | .step => .goesOn (world.feed machine .ready)
  | .exchange packet kind =>
      let (answer, link) := world.link.exchange packet kind
      .goesOn (({ world with link }.signal machine answer.signals).feed machine
        (.answer answer.outcome))
  | .post packet kind ticket =>
      let (deliveries, signals, link) := world.link.post packet kind ticket
      .goesOn (({ world with link, inbox := world.inbox ++ deliveries }.signal machine
        signals).feed machine .ready)
  | .collect =>
      match world.inbox with
      | delivery :: inbox =>
          .goesOn ({ world with inbox }.feed machine
            (.acknowledgement delivery.ticket delivery.outcome))
      | [] => world.wake machine owner .silence
  | .wake => world.wake machine owner .ready
  | .tell note => .goesOn ((world.tell machine owner note).feed machine .ready)
  | .connect =>
      let (outcome, link) := world.link.connect
      .goesOn ({ world with link }.feed machine (.connected outcome))
  | .awaitDrop milliseconds =>
      .goesOn ({ world with clock := world.clock + milliseconds }.feed machine .silence)
  | .sleep milliseconds =>
      .goesOn ({ world with clock := world.clock + milliseconds }.feed machine .ready)
  | .finished result => .ended result world

/-- At most `steps` steps of a run. -/
def steps : Nat → World σ ν V → Outcome (World σ ν V) ρ
  | 0, world => .stuck world
  | count + 1, world =>
      match world.step machine owner with
      | .goesOn world => steps count world
      | outcome => outcome

/-- Steps after which a run is given up. -/
def stepLimit : Nat := 10000000

/-- The run of a machine; gives its result, if it has one. -/
def run (world : World σ ν V) : Option ρ × World σ ν V :=
  match world.steps machine owner stepLimit with
  | .ended result world => (some result, world)
  | .stuck world | .goesOn world => (none, world)

/-- Runs a machine as often as asked, each time from a state made from the one before; gives the
results, as long as there are any. -/
def runs (start : σ → σ) : (count : Nat) → World σ ν V → List ρ × World σ ν V
  | 0, world => ([], world)
  | count + 1, world =>
      match world.run machine owner with
      | (none, world) => ([], world)
      | (some result, world) =>
          if count = 0 then ([result], world)
          else
            let (results, world) :=
              runs start count
                { world with
                  state := start world.state, link := world.link.forsaken, inbox := [] }
            (result :: results, world)

/-- What was told, in order. -/
def notes (world : World σ ν V) : List ν :=
  world.occurrences.reverse.filterMap fun
    | .told note => some note
    | _ => none

/-- What the owner saw each time the machine had to be woken, in order. -/
def blockedViews (world : World σ ν V) : List V :=
  world.occurrences.reverse.filterMap fun
    | .blocked before => some before
    | _ => none

end World

/-- An owner who does nothing and sees nothing. -/
def Owner.idle {σ ν : Type} : Owner σ ν Unit :=
  { cueName := fun _ => none, view := fun _ => () }

namespace Link

variable {σ ν ρ : Type}

/-- Runs a machine that nobody watches; gives its result, the next sequence number and the
link. -/
def run (machine : Machine σ ν ρ) (state : σ) (link : Link) : Option ρ × UInt8 × Link :=
  let (result, world) := World.run machine Owner.idle { state, link }
  (result, machine.seq world.state, world.link)

/-- Sends a command ahead; gives its results, as many as its packet is acknowledged at once. -/
def sendAhead {α : Type} (command : Command α) (seq : UInt8) (link : Link) :
    List (Except Error α) × Link :=
  match command.packet link.scheme seq with
  | .error failure => ([.error failure], link)
  | .ok packet =>
      let (deliveries, _, link) := link.post packet command.kind default
      (deliveries.map fun delivery => command.conclude link.scheme packet delivery.outcome,
        link.forsaken)

/-- Makes the request of a stepwise transfer for an offset, and takes in the answer. -/
def send {τ : Type} (kind : LinkTransfer τ) (offset : Nat) (state : τ) (link : Link) :
    Except Error Unit × τ × Link :=
  match kind.request offset state with
  | (.error failure, state) => (.error failure, state, link)
  | (.ok request, state) =>
      let (answer, link) := link.exchange request.packet request.kind
      let (accepted, state) := kind.accept request answer.outcome state
      (accepted, state, link)

end Link

end Bench

end SmpClient
