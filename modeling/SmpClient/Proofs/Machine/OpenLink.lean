import SmpClient.Machine.Basic
import Mathlib.Data.List.Induction

/-!
# Machines on a link that promises nothing

A packet that was handed to an open link may reach the device at any later time: after packets that
were sent later, more than once, or never.  The machine may get any reply at any time, whatever the
device did.  What holds on an open link rests on nothing but the packets that the machine hands to
it.
-/

namespace SmpClient

/-- The packet that is handed to the link. -/
def Need.packet? {ν ρ : Type} : Need ν ρ → Option Bytes
  | .exchange packet _ | .post packet _ _ => some packet
  | _ => none

/-- A machine, a device, and the packets that were ever handed to the link between them. -/
structure OpenLink (σ δ : Type) where
  state : σ
  device : δ
  sent : List Bytes := []

namespace OpenLink

/-- What may happen next; where the device has a choice of type `χ` it is made here. -/
inductive Move (χ : Type)
  /-- The machine hands the packet that it needs to send to the link. -/
  | send
  | reply (reply : Reply)
  | signal (signal : Signal)
  /-- A packet reaches the device. -/
  | deliver (position : Nat) (choice : χ)

variable {σ δ χ ν ρ : Type} (machine : Machine σ ν ρ) (receive : χ → Bytes → δ → δ)

/-- The link after a move; a move that cannot be made changes nothing. -/
def apply (link : OpenLink σ δ) : Move χ → OpenLink σ δ
  | .send =>
      match (machine.need link.state).packet? with
      | some packet => { link with sent := link.sent ++ [packet] }
      | none => link
  | .reply reply => { link with state := machine.feed reply link.state }
  | .signal signal => { link with state := (machine.signal signal link.state).2 }
  | .deliver position choice =>
      match link.sent[position]? with
      | some packet => { link with device := receive choice packet link.device }
      | none => link

/-- The link after a schedule. -/
def run (schedule : List (Move χ)) (link : OpenLink σ δ) : OpenLink σ δ :=
  schedule.foldl (apply machine receive) link

theorem run_concat (schedule : List (Move χ)) (move : Move χ) (link : OpenLink σ δ) :
    link.run machine receive (schedule ++ [move]) =
      (link.run machine receive schedule).apply machine receive move := by
  simp [run]

/-- What the machine, the packets on the link and the device keep to, each on its own. -/
structure Keeps (ready : σ → Prop) (allowed : Bytes → Prop) (sound : δ → Prop)
    (link : OpenLink σ δ) : Prop where
  ready : ready link.state
  allowed : ∀ packet ∈ link.sent, allowed packet
  sound : sound link.device

variable {machine receive} {ready : σ → Prop} {allowed : Bytes → Prop} {sound : δ → Prop}

/-- A machine that only ever hands over packets of some kind, and a device that stays sound whenever
it gets one of them, do so in whatever order the packets arrive. -/
theorem keeps_run {start : OpenLink σ δ} (initially : start.Keeps ready allowed sound)
    (fed : ∀ reply state, ready state → ready (machine.feed reply state))
    (signaled : ∀ signal state, ready state → ready (machine.signal signal state).2)
    (hands : ∀ state packet, ready state → (machine.need state).packet? = some packet →
      allowed packet)
    (received : ∀ choice packet device, allowed packet → sound device →
      sound (receive choice packet device))
    (schedule : List (Move χ)) :
    (start.run machine receive schedule).Keeps ready allowed sound := by
  induction schedule using List.reverseRecOn with
  | nil => exact initially
  | append_singleton schedule move keeps =>
      rw [run_concat]
      generalize start.run machine receive schedule = link at keeps
      cases move with
      | send =>
          simp only [apply]
          split
          · rename_i packet handed
            refine { keeps with allowed := ?_ }
            intro other member
            rcases List.mem_append.mp member with earlier | last
            · exact keeps.allowed other earlier
            · rw [List.mem_singleton.mp last]
              exact hands _ packet keeps.ready handed
          · exact keeps
      | reply reply => exact { keeps with ready := fed reply _ keeps.ready }
      | signal signal => exact { keeps with ready := signaled signal _ keeps.ready }
      | deliver position choice =>
          simp only [apply]
          split
          · rename_i packet found
            have arrived := keeps.allowed packet (List.mem_of_getElem? found)
            exact { keeps with sound := received choice packet _ arrived keeps.sound }
          · exact keeps

end OpenLink

end SmpClient
