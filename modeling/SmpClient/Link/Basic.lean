import SmpClient.Link.Observers
import SmpClient.Packet.Response

/-!
# Links

What a link offers its users: to connect and to release, to change the time that it waits, and
to send a packet.  Each call tells which observers were notified.
-/

namespace SmpClient

/-- What a call on a link of type `κ` answers, the observers that were told of a change, and the
link after it. -/
structure LinkStep (κ ι α : Type) where
  result : α
  connected : List ι := []
  disconnected : List ι := []
  link : κ

/-- The calls on links of type `κ`, whose observers have names of type `ι`. -/
structure LinkCalls (κ ι : Type) where
  scheme : Scheme
  /-- The longest packet that may be sent. -/
  mtu : κ → Nat
  observers : κ → Observers ι
  withObservers : Observers ι → κ → κ
  /-- Connects, unless the link is connected. -/
  connect : κ → LinkStep κ ι (Except Error Unit)
  /-- Disconnects, unless the link is disconnected. -/
  release : κ → LinkStep κ ι Unit
  /-- Sets the milliseconds to wait for an answer. -/
  setTimeout : Nat → κ → κ
  /-- Sends a packet and waits for the response. -/
  send : Bytes → ResponseKind → κ → LinkStep κ ι (Except Error Response)

end SmpClient
