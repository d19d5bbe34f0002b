import SmpClient.Link.Basic
import SmpClient.Link.Serial.Port

/-!
# Serial links

A serial link opens its port when it is first used.  A request that times out is sent again, as
often as the settings allow.  After the first chunk that was acknowledged the short timeout is in
force.
-/

namespace SmpClient

/-- The settings of a serial link. -/
structure SerialSettings where
  device : String
  /-- Seconds to wait for the first answers. -/
  initialTimeout : Nat
  /-- Milliseconds to wait for answers once chunks are acknowledged. -/
  subsequentTimeout : Nat
  retries : Nat
  lineLength : Nat
  mtu : Nat
  baudRate : Nat
  deriving DecidableEq, Inhabited

/-- A serial link over a port with states of type `σ`, whose observers have names of type `ι`. -/
structure SerialLink (σ ι : Type) where
  settings : SerialSettings
  port : σ
  isOpen : Bool := false
  /-- Whether the short timeout is in force. -/
  isFast : Bool := false
  /-- Milliseconds that a read waits. -/
  timeout : Nat := 0
  observers : Observers ι := {}

namespace SerialLink

variable {σ ι : Type}

/-- Opens the port unless it is open; `unavailable` is why it cannot be opened. -/
def connect (unavailable : Option Error) (link : SerialLink σ ι) :
    LinkStep (SerialLink σ ι) ι (Except Error Unit) :=
  if link.isOpen then { result := .ok (), link }
  else match unavailable with
    | some failure => { result := .error failure, link }
    | none =>
        { result := .ok ()
          connected := link.observers.registered
          link := { link with isOpen := true, timeout := link.settings.initialTimeout * 1000 } }

/-- Closes the port if it is open. -/
def release (link : SerialLink σ ι) : LinkStep (SerialLink σ ι) ι Unit :=
  if link.isOpen then
    { result := ()
      disconnected := link.observers.registered
      link := { link with isOpen := false, isFast := false } }
  else { result := (), link }

def setTimeout (milliseconds : Nat) (link : SerialLink σ ι) : SerialLink σ ι :=
  if link.isOpen then { link with timeout := milliseconds } else link

/-- Sends a frame and reads one, and again after each timeout, at most `retries` times. -/
def attempt (port : Port σ) (frame : Bytes) : (retries : Nat) → σ → Except Error Bytes × σ
  | 0, state => port.transceive frame state
  | retries + 1, state =>
      match port.transceive frame state with
      | (.error .timeout, state) => attempt port frame retries state
      | answered => answered

/-- The answer, if it belongs to the request. -/
def matching (request : Header) (answer : Bytes) : Except Error Bytes := do
  let response ← Packet.header .serial answer
  if request.isAnsweredBy response then return answer
  else throw (.malformedResponse (.otherAnswer request response))

def exchange (port : Port σ) (packet : Bytes) (link : SerialLink σ ι) :
    Except Error Bytes × SerialLink σ ι :=
  let prepared : Except Error (Header × Bytes) := do
    return (← Packet.header .serial packet, ← Frame.encode link.settings.lineLength packet)
  match prepared with
  | .error failure => (.error failure, link)
  | .ok (request, frame) =>
      let (answer, state) := attempt port frame link.settings.retries link.port
      (answer.bind (matching request), { link with port := state })

/-- Notes an acknowledged chunk: the first one puts the short timeout in force. -/
def noteAck (kind : ResponseKind) (link : SerialLink σ ι) : SerialLink σ ι :=
  if kind = .uploadAck ∧ !link.isFast then
    { link with isFast := true }.setTimeout link.settings.subsequentTimeout
  else link

/-- Sends a packet and waits for the response. -/
def send (port : Port σ) (unavailable : Option Error) (packet : Bytes) (kind : ResponseKind)
    (link : SerialLink σ ι) : LinkStep (SerialLink σ ι) ι (Except Error Response) :=
  if link.settings.mtu < packet.length then
    { result := .error (.insufficientMtu packet.length link.settings.mtu), link }
  else
    let opened := link.connect unavailable
    match opened.result with
    | .error failure => { result := .error failure, link := opened.link }
    | .ok () =>
        let (answer, link) := opened.link.exchange port packet
        match answer.bind fun bytes => Response.decode .serial bytes kind with
        | .error failure =>
            { result := .error failure, connected := opened.connected, link }
        | .ok response =>
            { result := .ok response, connected := opened.connected, link := link.noteAck kind }

/-- Serial links as links; `unavailable` is why the port cannot be opened. -/
def calls (port : Port σ) (unavailable : Option Error) : LinkCalls (SerialLink σ ι) ι where
  scheme := .serial
  mtu := fun link => link.settings.mtu
  observers := SerialLink.observers
  withObservers := fun observers link => { link with observers }
  connect := connect unavailable
  release := release
  setTimeout := setTimeout
  send := send port unavailable

end SerialLink

end SmpClient
