import SmpClient.Packet.Envelope

/-!
# Responses

A response packet is decoded once: its header, the return code, the code of the group and the
acknowledged offset are taken out, and the payload is kept for a typed body.  Chunk
acknowledgements have a short form that is read straight from the bytes; every other
payload goes through the full decoder.
-/

namespace SmpClient

/-- What kind of answer a request expects. -/
inductive ResponseKind
  | generic
  /-- The acknowledgement of a chunk, which may have the short form. -/
  | uploadAck
  deriving DecidableEq, Inhabited

/-- One decoded answer of a device. -/
structure Response where
  scheme : Scheme
  bytes : Bytes
  header : Option Header
  rc : Int
  groupCode : Option GroupCode
  offset : Option Nat
  deriving Inhabited

namespace Response

/-- The part of a packet that holds its payload. -/
def payloadOf (scheme : Scheme) (bytes : Bytes) : Bytes :=
  if scheme.isCoap then bytes else bytes.drop Header.size

def payload (response : Response) : Bytes :=
  payloadOf response.scheme response.bytes

/-- The value of a payload; no bytes at all stand for an empty map. -/
def decodePayload (payload : Bytes) : Except Error Cbor.Value :=
  if payload.isEmpty then .ok (.map [])
  else match Cbor.Value.decode payload with
    | .ok value => .ok value
    | .error reason => .error (.malformedResponse (.undecodable reason))

/-- The outcome that a payload reports. -/
structure Codes where
  rc : Int := 0
  groupCode : Option GroupCode := none
  offset : Option Nat := none
  deriving DecidableEq, Inhabited

/-- The integer under a name in a map. -/
def intEntry? (entries : List (Cbor.Value × Cbor.Value)) (name : String) : Option Int :=
  match Cbor.Value.entry? entries name with
  | some (.int number) => some number
  | _ => none

/-- Whether an integer is a return code of 32 bits. -/
def isReturnCode (number : Int) : Bool :=
  -0x80000000 ≤ number && number < 0x80000000

/-- The code that a group reports. -/
def groupCodeOf (entries : List (Cbor.Value × Cbor.Value)) : Except Error GroupCode :=
  match intEntry? entries "group", intEntry? entries "rc" with
  | some group, some rc =>
      if group < 0 ∨ 0x10000 ≤ group then .error (.malformedResponse (.groupRange group))
      else if !isReturnCode rc then .error (.malformedResponse (.groupRcRange rc))
      else .ok ⟨group.toNat, rc⟩
  | _, _ => .error (.malformedResponse .incompleteGroupCode)

/-- What one entry of a payload adds to the outcome. -/
def Codes.addEntry (codes : Codes) : Cbor.Value × Cbor.Value → Except Error Codes
  | (.text "rc", .int rc) =>
      if isReturnCode rc then .ok { codes with rc }
      else .error (.malformedResponse (.rcRange rc))
  | (.text "off", .int offset) =>
      if offset < 0 ∨ 0x10000000000000000 ≤ offset then
        .error (.malformedResponse (.offsetRange offset))
      else .ok { codes with offset := some offset.toNat }
  | (.text "err", .map entries) => do
      return { codes with groupCode := some (← groupCodeOf entries) }
  | _ => .ok codes

/-- The outcome that a decoded payload reports. -/
def Codes.ofValue : Cbor.Value → Except Error Codes
  | .map entries => entries.foldlM addEntry {}
  | _ => .error (.malformedResponse .notAMap)

/-- The entry key `rc`, encoded. -/
def rcKey : Bytes := [0x62, 0x72, 0x63]

/-- The entry key `off`, encoded. -/
def offsetKey : Bytes := [0x63, 0x6f, 0x66, 0x66]

/-- The word of 64 bits that bytes make up, the highest first. -/
def wordOf (bytes : Bytes) : UInt64 :=
  bytes.foldl (fun high byte => high <<< 8 ||| byte.toUInt64) 0

/-- How many bytes of an unsigned integer follow an initial byte with these low bits, where it
does not hold the integer itself. -/
def unsignedWidth? : (low : Nat) → Option Nat
  | 24 => some 1
  | 25 => some 2
  | 26 => some 4
  | 27 => some 8
  | _ => none

/-- An encoded unsigned integer and what follows it. -/
def unsigned? : Bytes → Option (Nat × Bytes)
  | [] => none
  | initial :: input =>
      let low := (initial &&& 0x1f).toNat
      if initial >>> 5 ≠ 0 then none
      else if low ≤ 23 then some (low, input)
      else do
        let width ← unsignedWidth? low
        if input.length < width then none
        else some ((wordOf (input.take width)).toNat, input.drop width)

/-- The entries of a short acknowledgement: each of the return code and the offset at most
once. -/
def shortEntries? : (count : Nat) → (rc offset : Option Nat) → Bytes →
    Option (Option Nat × Option Nat × Bytes)
  | 0, rc, offset, input => some (rc, offset, input)
  | count + 1, rc, offset, input =>
      if rcKey.isPrefixOf input && rc.isNone then do
        let (code, input) ← unsigned? (input.drop rcKey.length)
        if code < 0x80000000 then shortEntries? count (some code) offset input else none
      else if offsetKey.isPrefixOf input && offset.isNone then do
        let (position, input) ← unsigned? (input.drop offsetKey.length)
        shortEntries? count rc (some position) input
      else none

/-- The outcome in a payload of the short form: a map of an unsigned return code, which may be
absent, and an offset, with nothing after it. -/
def shortAck? : Bytes → Option Codes
  | [] => none
  | initial :: input => do
      let count ← if initial = 0xa1 then some 1 else if initial = 0xa2 then some 2 else none
      let (rc, offset, rest) ← shortEntries? count none none input
      let offset ← offset
      if rest.isEmpty then some { rc := rc.getD 0, offset := some offset } else none

/-- The header in front of a packet, which must announce exactly the rest of it. -/
def leadingHeader (bytes : Bytes) : Except Error Header :=
  if bytes.length < Header.size then .error (.malformedResponse (.tooShort bytes.length))
  else match Header.ofBytes (bytes.take Header.size) with
    | .error failure => .error failure
    | .ok header =>
        let received := bytes.length - Header.size
        if header.length.toNat ≠ received then
          .error (.malformedResponse (.payloadLength header.length.toNat received))
        else .ok header

/-- A response whose outcome is read by the full decoder; `header` is the one in front. -/
def decodeFully (scheme : Scheme) (header : Option Header) (bytes : Bytes) :
    Except Error Response := do
  let value ← decodePayload (payloadOf scheme bytes)
  let header ← if scheme.isCoap then Packet.embeddedHeader? value else pure header
  let codes ← Codes.ofValue value
  return { scheme, bytes, header, rc := codes.rc, groupCode := codes.groupCode,
           offset := codes.offset }

/-- The response in the bytes of a whole packet. -/
def decode (scheme : Scheme) (bytes : Bytes) (kind : ResponseKind) : Except Error Response :=
  if scheme.isCoap then decodeFully scheme none bytes
  else do
    let header ← leadingHeader bytes
    match if kind = .uploadAck then shortAck? (payloadOf scheme bytes) else none with
    | some codes =>
        return { scheme, bytes, header := some header, rc := codes.rc,
                 groupCode := codes.groupCode, offset := codes.offset }
    | none => decodeFully scheme (some header) bytes

def isSuccess (response : Response) : Bool :=
  response.rc == 0

/-- Refuses a response that reports a failure, by its return code or by its group's. -/
def check (response : Response) : Except Error Response :=
  let groupFailed := match response.groupCode with
    | some code => code.rc != 0
    | none => false
  if !response.isSuccess || groupFailed then .error (.device response.rc response.groupCode)
  else .ok response

/-- The offset that the response acknowledges. -/
def uploadOffset (response : Response) : Except Error Nat :=
  match response.offset with
  | some offset => .ok offset
  | none => .error (.malformedResponse .noOffset)

/-- The payload as a record of some type. -/
def body {α : Type} (response : Response) (read : Cbor.Reader α) : Except Error α := do
  let value ← decodePayload response.payload
  match read value with
  | .ok body => return body
  | .error reason => throw (.malformedResponse (.unexpectedBody reason))

end Response

end SmpClient
