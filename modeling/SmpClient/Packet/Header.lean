import SmpClient.Bytes.Basic

/-!
# The packet header

Every packet starts with eight bytes, or carries them inside its payload.  The first holds
three spare bits, the protocol version in two bits and the operation in three; then come
flags, the payload length, the management group, a sequence number and the command.
-/

namespace SmpClient

/-- What a packet does. -/
inductive Op
  | read
  | readResponse
  | write
  | writeResponse
  deriving DecidableEq, Inhabited

namespace Op

/-- The number on the wire. -/
def number : Op → Nat
  | .read => 0
  | .readResponse => 1
  | .write => 2
  | .writeResponse => 3

def ofNumber? : Nat → Option Op
  | 0 => some .read
  | 1 => some .readResponse
  | 2 => some .write
  | 3 => some .writeResponse
  | _ => none

@[simp]
theorem ofNumber?_number (op : Op) : ofNumber? op.number = some op := by
  cases op <;> rfl

def response : Op → Op
  | .read | .readResponse => .readResponse
  | .write | .writeResponse => .writeResponse

/-- The name in diagnostics. -/
def name : Op → String
  | .read => "Read"
  | .readResponse => "ReadRsp"
  | .write => "Write"
  | .writeResponse => "WriteRsp"

/-- All operations, in the order of their numbers. -/
def all : List Op := [.read, .readResponse, .write, .writeResponse]

end Op

/-- The management groups that have a name. -/
inductive Group
  | os
  | image
  | statistics
  | settings
  | log
  | crash
  | split
  | run
  | file
  | shell
  | basic
  | perUser
  deriving DecidableEq

namespace Group

/-- The number on the wire. -/
def number : Group → UInt16
  | .os => 0
  | .image => 1
  | .statistics => 2
  | .settings => 3
  | .log => 4
  | .crash => 5
  | .split => 6
  | .run => 7
  | .file => 8
  | .shell => 9
  | .basic => 63
  | .perUser => 64

/-- The name in diagnostics. -/
def name : Group → String
  | .os => "Default"
  | .image => "Image"
  | .statistics => "Stat"
  | .settings => "Config"
  | .log => "Log"
  | .crash => "Crash"
  | .split => "Split"
  | .run => "Run"
  | .file => "Fs"
  | .shell => "Shell"
  | .basic => "Basic"
  | .perUser => "PerUser"

/-- All groups that have a name. -/
def all : List Group :=
  [.os, .image, .statistics, .settings, .log, .crash, .split, .run, .file, .shell, .basic,
    .perUser]

def ofNumber? (number : UInt16) : Option Group :=
  all.find? fun group => group.number = number

end Group

/-- The eight bytes of a header, taken apart. -/
structure Header where
  version : UInt8
  op : Op
  flags : UInt8
  length : UInt16
  group : UInt16
  seq : UInt8
  id : UInt8
  deriving DecidableEq, Inhabited

namespace Header

def size : Nat := 8

/-- The protocol version of requests; devices of this version report errors by group. -/
def requestVersion : UInt8 := 1

/-- The header of a request before it is numbered. -/
def request (op : Op) (group : UInt16) (id : UInt8) : Header :=
  { version := requestVersion, op, flags := 0, length := 0, group, seq := 0, id }

/-- The bytes of a header.  Only the low two bits of the version fit. -/
def toBytes (header : Header) : Bytes :=
  [UInt8.ofNat (header.version.toNat % 4 * 8 + header.op.number), header.flags] ++
    Bytes.ofNat 2 header.length.toNat ++ Bytes.ofNat 2 header.group.toNat ++
    [header.seq, header.id]

@[simp]
theorem length_toBytes (header : Header) : header.toBytes.length = size := by
  simp [toBytes, size]

/-- Whether `response` answers the request with this header. -/
def isAnsweredBy (header response : Header) : Bool :=
  response.seq == header.seq && response.op == header.op.response &&
    response.group == header.group

/-- The header as diagnostics show it. -/
def shown (header : Header) : String :=
  "NmpHdr \x7b version: " ++ toString header.version.toNat ++ ", op: " ++ header.op.name ++
    ", flags: " ++ toString header.flags.toNat ++ ", len: " ++ toString header.length.toNat ++
    ", group: " ++ toString header.group.toNat ++ ", seq: " ++ toString header.seq.toNat ++
    ", id: " ++ toString header.id.toNat ++ " \x7d"

end Header

end SmpClient
