import SmpClient.Bench.Script
import SmpClient.Cbor.Encode

/-!
# A scripted link

The link records what is sent on it and answers as its script says.
-/

namespace SmpClient

namespace Bench

/-- A request that was sent ahead and is not processed yet. -/
structure Waiting where
  packet : Bytes
  kind : ResponseKind
  /-- None if nobody waits for its acknowledgement any more. -/
  ticket : Option Ticket
  deriving Inhabited

/-- What came back for a request that was sent ahead. -/
structure Delivery where
  ticket : Ticket
  outcome : Except Error Response

/-- A scripted link and what happened on it. -/
structure Link where
  scheme : Scheme
  mtu : Nat
  linkMtu : Option Nat
  rules : List Rule
  batches : List Batch
  connecting : Connecting
  connected : Bool := true
  /-- Every request, the latest first. -/
  sent : List Bytes := []
  stored : Bytes := []
  /-- The offsets of chunks that were not stored, the latest first. -/
  rejected : List Nat := []
  connects : Nat := 0
  waiting : List Waiting := []
  deriving Inhabited

namespace Link

def ofScript (script : Script) : Link :=
  { scheme := script.scheme, mtu := script.mtu, linkMtu := script.linkMtu, rules := script.rules,
    batches := script.batches, connecting := script.connecting }

/-- All requests, in the order in which they were sent. -/
def requests (link : Link) : List Bytes :=
  link.sent.reverse

def requestEntries (link : Link) (packet : Bytes) : List (Cbor.Value × Cbor.Value) :=
  match Cbor.Value.decode (Response.payloadOf link.scheme packet) with
  | .ok (.map entries) => entries
  | _ => []

/-- The offset that a request names. -/
def offsetIn (entries : List (Cbor.Value × Cbor.Value)) : Nat :=
  match Response.intEntry? entries "off" with
  | some offset => offset.toNat
  | none => 0

/-- Stores the chunk of a request; gives the payload of the acknowledgement. -/
def storeChunk (limit : Option Nat) (drop : Bool) (skew : Int) (packet : Bytes) (link : Link) :
    Bytes × Link :=
  let entries := link.requestEntries packet
  let offset := offsetIn entries
  let data := match Cbor.Value.entry? entries "data" with
    | some (.bytes data) => data
    | _ => []
  let link :=
    if offset = 0 ∧ (Cbor.Value.entry? entries "len").isSome then { link with stored := [] }
    else link
  let link :=
    if drop then link
    else if offset = link.stored.length then
      { link with stored := link.stored ++ data.take (limit.getD data.length) }
    else { link with rejected := offset :: link.rejected }
  let reported := ((link.stored.length : Int) + skew).toNat
  ((Cbor.Value.record [("rc", .nat 0), ("off", .nat reported)]).encode, link)

/-- The chunk of a file that a request asks for. -/
def fileChunk (content : Bytes) (chunk : Nat) (announcement : Announcement) (packet : Bytes)
    (link : Link) : Bytes :=
  let offset := offsetIn (link.requestEntries packet)
  let announces := match announcement with
    | .first => offset == 0
    | .always => true
    | .never => false
  (Cbor.Value.record
    ([("off", .nat offset), ("data", .bytes (content.slice offset chunk))] ++
      if announces then [("len", .nat content.length)] else [])).encode

/-- The header of the answer to a request. -/
def answerHeader (request : Header) (change : HeaderChange) (length : Nat) : Header :=
  { version := change.version.getD Header.requestVersion
    op := change.op.getD request.op.response
    flags := change.flags.getD 0
    length := UInt16.ofNat (((length : Int) + change.lengthAdded) % 0x10000).toNat
    group := change.group.getD request.group
    seq := UInt8.ofNat (((request.seq.toNat : Int) + change.seqAdded) % 0x100).toNat
    id := change.id.getD request.id }

def wrap (scheme : Scheme) (request : Header) (reply : ScriptedReply) (payload : Bytes) : Bytes :=
  if scheme.isCoap then
    match payload with
    | initial :: rest =>
        if reply.withoutHeader || initial < 0xa0 || 0xb6 < initial then payload
        else
          (initial + 1) :: (Cbor.Value.text Packet.headerKey).encode ++
            (Cbor.Value.bytes (answerHeader request reply.change 0).toBytes).encode ++ rest
    | [] => []
  else (answerHeader request reply.change payload.length).toBytes ++ payload

/-- The packet of a reply, or the failure of the link. -/
def packetOf (request : Header) (reply : ScriptedReply) (packet : Bytes) (link : Link) :
    Except Error Bytes × Link :=
  match reply.content with
  | .failure error => (.error error, link)
  | .raw bytes => (.ok bytes, link)
  | .payload payload => (.ok (wrap link.scheme request reply payload), link)
  | .store limit drop skew =>
      let (payload, link) := link.storeChunk limit drop skew packet
      (.ok (wrap link.scheme request reply payload), link)
  | .file content chunk announcement =>
      (.ok (wrap link.scheme request reply (link.fileChunk content chunk announcement packet)),
        link)

/-- What comes back for a packet, and what happens while it is on its way. -/
structure Answer where
  outcome : Except Error Response
  signals : List Signal := []

def process (packet : Bytes) (kind : ResponseKind) (link : Link) : Answer × Link :=
  let refusal? := link.linkMtu.filter (· < packet.length)
  match refusal? with
  | some mtu => ({ outcome := .error (.insufficientMtu packet.length mtu) }, link)
  | none =>
      match Packet.header link.scheme packet with
      | .error failure => ({ outcome := .error failure }, link)
      | .ok request =>
          match Rule.replyFrom? request link.rules with
          | none => ({ outcome := .error .timeout }, link)
          | some (reply, rules) =>
              let (bytes, link) := { link with rules }.packetOf request reply packet
              let outcome := bytes.bind fun bytes => Response.decode link.scheme bytes kind
              let dropped := if reply.disconnects then [Signal.dropped] else []
              ({ outcome, signals := reply.signal.toList ++ dropped },
                if reply.disconnects then { link with connected := false } else link)

/-- Records that a packet was sent. -/
def record (packet : Bytes) (link : Link) : Link :=
  { link with sent := packet :: link.sent }

/-- Sends a packet and waits for what comes back. -/
def exchange (packet : Bytes) (kind : ResponseKind) (link : Link) : Answer × Link :=
  (link.record packet).process packet kind

/-- Processes waiting requests in the order of their positions in `order`. -/
def processAll (waiting : List Waiting) :
    (order : List Nat) → Link → List (Nat × Delivery) × List Signal × Link
  | [], link => ([], [], link)
  | position :: order, link =>
      match waiting[position]? with
      | none => processAll waiting order link
      | some request =>
          let (answer, link) := link.process request.packet request.kind
          let (deliveries, signals, link) := processAll waiting order link
          let own := request.ticket.toList.map fun ticket =>
            (position, { ticket, outcome := answer.outcome })
          (own ++ deliveries, answer.signals ++ signals, link)

/-- Sends a packet ahead.  Requests wait until there are as many as the next batch takes, and are
then processed and acknowledged in its orders, each acknowledged once; without batches each is
processed at once. -/
def post (packet : Bytes) (kind : ResponseKind) (ticket : Ticket) (link : Link) :
    List Delivery × List Signal × Link :=
  let link := link.record packet
  match link.batches with
  | [] =>
      let (answer, link) := link.process packet kind
      ([{ ticket, outcome := answer.outcome }], answer.signals, link)
  | batch :: batches =>
      let waiting := link.waiting ++ [{ packet, kind, ticket := some ticket }]
      if waiting.length < batch.order.length then ([], [], { link with waiting })
      else
        let (processed, signals, link) :=
          processAll waiting batch.order { link with waiting := [], batches }
        (batch.acknowledged.eraseDups.filterMap fun position => processed.lookup position, signals,
          link)

/-- The link once nobody waits for acknowledgements any more.  What waits is still processed. -/
def forsaken (link : Link) : Link :=
  { link with waiting := link.waiting.map fun request => { request with ticket := none } }

def connect (link : Link) : Except Error Unit × Link :=
  (match link.connecting with
    | .succeeds => .ok ()
    | .fails error => .error error
    | .lost => .error (.transport "connect callback dropped"),
    { link with connected := true, connects := link.connects + 1 })

end Link

end Bench

end SmpClient
