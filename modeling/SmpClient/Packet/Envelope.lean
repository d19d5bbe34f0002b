import SmpClient.Error

/-!
# Packets and the envelopes around them

Most links send the header followed by the encoded payload.  The CoAP links send only the
payload, a map that carries the header as a byte string under a reserved key.
-/

namespace SmpClient

namespace Header

/-- Reads a header from exactly eight bytes. -/
def ofBytes : Bytes → Except Error Header
  | [first, flags, lengthHigh, lengthLow, groupHigh, groupLow, seq, id] =>
      match Op.ofNumber? (first.toNat % 8) with
      | none => .error (.malformedResponse (.unknownOp (first.toNat % 8)))
      | some op => .ok
          { version := UInt8.ofNat (first.toNat / 8 % 4)
            op
            flags
            length := UInt16.ofNat (Bytes.toNat [lengthHigh, lengthLow])
            group := UInt16.ofNat (Bytes.toNat [groupHigh, groupLow])
            seq
            id }
  | bytes => .error (.malformedHeader bytes.length)

end Header

/-- How a link wraps packets. -/
inductive Scheme
  | ble
  | udp
  | serial
  | coapBle
  | coapUdp
  deriving DecidableEq, Inhabited

namespace Scheme

def all : List Scheme := [.ble, .udp, .serial, .coapBle, .coapUdp]

/-- The name in diagnostics. -/
def name : Scheme → String
  | .ble => "Ble"
  | .udp => "Udp"
  | .serial => "Serial"
  | .coapBle => "CoapBle"
  | .coapUdp => "CoapUdp"

def isCoap : Scheme → Bool
  | .coapBle | .coapUdp => true
  | _ => false

/-- The bytes that the link adds around a packet. -/
def framingOverhead (scheme : Scheme) : Nat :=
  if scheme.isCoap then 25 else 0

end Scheme

namespace Packet

/-- The key under which a payload carries the header. -/
def headerKey : String := "_h"

/-- The packet for `payload` under the given header fields.  In front of a payload the header
announces its length; inside one it announces zero. -/
def build (scheme : Scheme) (op : Op) (flags : UInt8) (group : UInt16) (seq id : UInt8)
    (payload : Cbor.Value) : Except Error Bytes :=
  let header : Header :=
    { version := Header.requestVersion, op, flags, length := 0, group, seq, id }
  if scheme.isCoap then
    match payload.canonical with
    | .map entries =>
        .ok (Cbor.Value.map
          (Cbor.Value.insertEntry (.text headerKey) (.bytes header.toBytes) entries)).encode
    | other => .error (.invalidArgument (.payloadNotAMap other))
  else
    let body := payload.encode
    .ok ({ header with length := UInt16.ofNat body.length }.toBytes ++ body)

/-- The header that a decoded payload carries, if it has one. -/
def embeddedHeader? : Cbor.Value → Except Error (Option Header)
  | .map entries =>
      match Cbor.Value.entry? entries headerKey with
      | some (.bytes content) => (Header.ofBytes content).map some
      | _ => .ok none
  | _ => .ok none

def header (scheme : Scheme) (packet : Bytes) : Except Error Header :=
  if scheme.isCoap then
    match Cbor.Value.decode packet with
    | .error reason => .error (.codec reason)
    | .ok payload =>
        match embeddedHeader? payload with
        | .error failure => .error failure
        | .ok none => .error (.malformedResponse .noHeader)
        | .ok (some header) => .ok header
  else if packet.length < Header.size then .error (.malformedHeader packet.length)
  else Header.ofBytes (packet.take Header.size)

/-- The length of the whole packet that starts with `bytes`, as its header announces it. -/
def expectedLength (scheme : Scheme) (bytes : Bytes) : Except Error Nat :=
  if scheme.isCoap then .error (.invalidArgument .noLengthPrefix)
  else if bytes.length < Header.size then .error (.malformedHeader bytes.length)
  else .ok (Header.size + Bytes.toNat (bytes.slice 2 2))

end Packet

end SmpClient
