import SmpClient.Error

/-!
# A second try with shorter packets

A link that refuses a packet as too long gets one more attempt, with packets shorter than the
one that failed.
-/

namespace SmpClient

namespace MtuRetry

/-- The packet length for a second attempt: below the packet that failed, the limit that the
link reports and the limit of the first attempt. -/
def lowered (required link mtu : Nat) : Nat :=
  min (min required link) mtu - 1

/-- The packet length for a second attempt, if the result of the first asks for one. -/
def next? {α : Type} (mtu : Nat) : Except Error α → Option Nat
  | .error (.insufficientMtu required link) => some (lowered required link mtu)
  | _ => none

/-- Attempts with a packet length, and once more with a shorter one if the first is refused for
its length. -/
def run {σ α : Type} (attempt : Nat → σ → Except Error α × σ) (mtu : Nat) (state : σ) :
    Except Error α × σ :=
  let (result, state) := attempt mtu state
  match next? mtu result with
  | some mtu => attempt mtu state
  | none => (result, state)

end MtuRetry

end SmpClient
