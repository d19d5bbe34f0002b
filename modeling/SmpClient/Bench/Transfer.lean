import SmpClient.Bench.Run

/-!
# Scripted stepwise transfers

A stepwise transfer whose requests and answers come from a list instead of a link, with an
owner who acts on cue.
-/

namespace SmpClient

namespace Bench

/-- What a scripted request does. -/
structure ScriptedSend where
  /-- What the owner does meanwhile. -/
  signal : Option Signal := none
  failure : Option Error := none
  offset : Nat := 0
  length : Option Nat := none
  deriving Inhabited

/-- A scripted transfer. -/
structure ScriptedTransfer where
  offset : Nat := 0
  length : Option Nat := none
  sends : List ScriptedSend := []
  /-- The offsets that were asked for, the latest first. -/
  sent : List Nat := []
  deriving Inhabited

namespace ScriptedTransfer

/-- Every request is the next of the list; when there is none left it times out. -/
def transfer : Transfer ScriptedTransfer ScriptedSend Unit where
  offset := ScriptedTransfer.offset
  length? := ScriptedTransfer.length
  request := fun offset state =>
    let state := { state with sent := offset :: state.sent }
    match state.sends with
    | [] => (.ok { failure := some .timeout }, state)
    | send :: sends => (.ok send, { state with sends })
  accept := fun send _ state =>
    match send.failure with
    | some failure => (.error failure, state)
    | none =>
        (.ok (), { state with
          offset := send.offset
          length := if send.length.isSome then send.length else state.length })

end ScriptedTransfer

/-- The run of a scripted transfer, with what was told and how often the owner resumed it. -/
structure ScriptedRun where
  run : Stepwise ScriptedTransfer ScriptedSend
  /-- The latest first. -/
  progress : List Progress := []
  resumed : Nat := 0

namespace ScriptedRun

def signal (signal : Signal) (scripted : ScriptedRun) : ScriptedRun :=
  { scripted with run := (scripted.run.signal signal).2 }

/-- One step; none if the run has ended or waits for an owner who does not resume it. -/
def step? (cues : List (Nat × Signal)) (resumes : Bool) (scripted : ScriptedRun) :
    Option ScriptedRun :=
  let kind := ScriptedTransfer.transfer
  match scripted.run.phase with
  | .ended _ => none
  | .sending _ send =>
      let scripted := send.signal.toList.foldl (fun scripted given => scripted.signal given)
        scripted
      some { scripted with run := scripted.run.answer kind () }
  | .telling =>
      let told := scripted.progress.length
      let scripted :=
        { scripted with progress := scripted.run.progress kind :: scripted.progress }
      let given := (cues.filter (·.1 == told)).map (·.2)
      let scripted := given.foldl (fun scripted given => scripted.signal given) scripted
      some { scripted with run := scripted.run.advance kind }
  | _ =>
      if scripted.run.isBlocked kind then
        if resumes then some { scripted.signal .resume with resumed := scripted.resumed + 1 }
        else none
      else some { scripted with run := scripted.run.advance kind }

/-- At most `count` steps. -/
def steps (cues : List (Nat × Signal)) (resumes : Bool) : Nat → ScriptedRun → ScriptedRun
  | 0, scripted => scripted
  | count + 1, scripted =>
      match scripted.step? cues resumes with
      | some next => steps cues resumes count next
      | none => scripted

/-- The whole run: each request of the script takes at most five steps, and so does the one
after the last. -/
def complete (cues : List (Nat × Signal)) (resumes : Bool) (scripted : ScriptedRun) :
    ScriptedRun :=
  scripted.steps cues resumes (5 * scripted.run.transfer.sends.length + 10)

end ScriptedRun

end Bench

end SmpClient
