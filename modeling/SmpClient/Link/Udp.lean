import SmpClient.Link.Basic

/-!
# Datagram links

A datagram link sends a packet to one address and takes the first datagram that answers it.
Datagrams from elsewhere, datagrams without a header and answers to other requests are passed
over.
-/

namespace SmpClient

/-- The settings of a datagram link. -/
structure UdpSettings where
  host : String := ""
  port : Nat := 1337
  /-- Seconds to wait for an answer. -/
  timeout : Nat := 5
  mtu : Nat := 1024
  deriving DecidableEq, Inhabited

/-- A datagram as it arrives. -/
structure Datagram where
  /-- Whether it comes from the address that requests are sent to. -/
  isFromPeer : Bool := true
  bytes : Bytes
  deriving DecidableEq, Inhabited

/-- A datagram link, whose observers have names of type `ι`. -/
structure UdpLink (ι : Type) where
  mtu : Nat
  /-- Milliseconds to wait for an answer. -/
  timeout : Nat
  isConnected : Bool := false
  observers : Observers ι := {}
  /-- The datagrams that have arrived and are not read yet. -/
  arrived : List Datagram := []

namespace UdpLink

variable {ι : Type}

/-- A link with the given settings, not connected yet. -/
def ofSettings (settings : UdpSettings) : UdpLink ι :=
  { mtu := settings.mtu, timeout := settings.timeout * 1000 }

/-- Counts as connected from the first use on; there is nothing to establish. -/
def connect (link : UdpLink ι) : LinkStep (UdpLink ι) ι (Except Error Unit) :=
  if link.isConnected then { result := .ok (), link }
  else
    { result := .ok (), connected := link.observers.registered
      link := { link with isConnected := true } }

/-- Counts as disconnected. -/
def release (link : UdpLink ι) : LinkStep (UdpLink ι) ι Unit :=
  if link.isConnected then
    { result := (), disconnected := link.observers.registered
      link := { link with isConnected := false } }
  else { result := (), link }

/-- The size of the buffer for datagrams; longer ones are cut to it. -/
def bufferSize (link : UdpLink ι) : Nat :=
  max link.mtu 4096

def answers (request : Header) (datagram : Datagram) : Bool :=
  datagram.isFromPeer &&
    match Packet.header .udp datagram.bytes with
    | .ok response => request.isAnsweredBy response
    | .error _ => false

/-- The first datagram that answers a request, and the datagrams after it. -/
def firstAnswer (request : Header) : List Datagram → Except Error (Bytes × List Datagram)
  | [] => .error .timeout
  | datagram :: rest =>
      if answers request datagram then .ok (datagram.bytes, rest) else firstAnswer request rest

/-- Waits for the answer to a packet. -/
def receive (packet : Bytes) (link : UdpLink ι) : Except Error Bytes × UdpLink ι :=
  match Packet.header .udp packet with
  | .error failure => (.error failure, link)
  | .ok request =>
      if link.timeout = 0 then (.error .timeout, link)
      else
        let cut := link.arrived.map fun datagram =>
          { datagram with bytes := datagram.bytes.take link.bufferSize }
        match firstAnswer request cut with
        | .error failure => (.error failure, { link with arrived := [] })
        | .ok (bytes, arrived) => (.ok bytes, { link with arrived })

/-- Sends a packet and waits for the response.  `delivery` is what arrives because of it, or why
it cannot be sent. -/
def send (packet : Bytes) (kind : ResponseKind) (delivery : Except Error (List Datagram))
    (link : UdpLink ι) : LinkStep (UdpLink ι) ι (Except Error Response) :=
  if link.mtu < packet.length then
    { result := .error (.insufficientMtu packet.length link.mtu), link }
  else
    let connected := link.connect
    match delivery with
    | .error failure =>
        { result := .error failure, connected := connected.connected, link := connected.link }
    | .ok datagrams =>
        let (answer, link) :=
          { connected.link with arrived := connected.link.arrived ++ datagrams }.receive packet
        { result := answer.bind fun bytes => Response.decode .udp bytes kind
          connected := connected.connected
          link }

/-- Datagram links as links; `deliver` is what arrives because of a packet. -/
def calls (deliver : Bytes → Except Error (List Datagram)) : LinkCalls (UdpLink ι) ι where
  scheme := .udp
  mtu := UdpLink.mtu
  observers := UdpLink.observers
  withObservers := fun observers link => { link with observers }
  connect := connect
  release := release
  setTimeout := fun timeout link => { link with timeout }
  send := fun packet kind link => link.send packet kind (deliver packet)

end UdpLink

end SmpClient
