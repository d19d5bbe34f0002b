import SmpClient.Bytes.Hex
import SmpClient.Cbor.Decode
import SmpClient.Cbor.Reader
import SmpClient.Packet.Header

/-!
# What can go wrong

An `Error` names the cause of a failure: of the link, of a malformed answer, of a device that
refuses, of the user who cancels, or of an argument.  `Error.message` puts it into words.
-/

namespace SmpClient

/-- The codes by which a device reports the outcome of a command. -/
inductive ReturnCode
  | ok
  | unknown
  | noMemory
  | inValue
  | timeout
  | noEntry
  | badState
  | tooLarge
  | notSupported
  | corrupt
  | busy
  | accessDenied
  | unsupportedTooOld
  | unsupportedTooNew
  | perUser
  deriving DecidableEq

namespace ReturnCode

def table : List (Int × ReturnCode) :=
  [(0, .ok), (1, .unknown), (2, .noMemory), (3, .inValue), (4, .timeout), (5, .noEntry),
    (6, .badState), (7, .tooLarge), (8, .notSupported), (9, .corrupt), (10, .busy),
    (11, .accessDenied), (12, .unsupportedTooOld), (13, .unsupportedTooNew), (256, .perUser)]

def ofNumber? (number : Int) : Option ReturnCode :=
  table.lookup number

/-- The name in diagnostics. -/
def name : ReturnCode → String
  | .ok => "Ok"
  | .unknown => "Unknown"
  | .noMemory => "NoMemory"
  | .inValue => "InValue"
  | .timeout => "Timeout"
  | .noEntry => "NoEntry"
  | .badState => "BadState"
  | .tooLarge => "TooLarge"
  | .notSupported => "NotSupported"
  | .corrupt => "Corrupt"
  | .busy => "Busy"
  | .accessDenied => "AccessDenied"
  | .unsupportedTooOld => "UnsupportedTooOld"
  | .unsupportedTooNew => "UnsupportedTooNew"
  | .perUser => "PerUser"

end ReturnCode

/-- A code that a management group reports for its own commands. -/
structure GroupCode where
  group : Nat
  rc : Int
  deriving DecidableEq, Inhabited

/-- Why an answer, or the bytes of one, cannot be used. -/
inductive Malformed
  /-- A reason given by whoever made the answer. -/
  | described (text : String)
  | unknownOp (number : Nat)
  | noHeader
  | tooShort (size : Nat)
  | payloadLength (announced received : Nat)
  | undecodable (reason : Cbor.DecodeError)
  | notAMap
  | rcRange (rc : Int)
  | offsetRange (offset : Int)
  | groupRange (group : Int)
  | groupRcRange (rc : Int)
  | incompleteGroupCode
  | noOffset
  | unexpectedBody (reason : Cbor.ReadError)
  | bytesAfterEnd (count : Nat)
  | wrongAnswer (request response : Header)
  | otherAnswer (request response : Header)
  | stuck (offset : Nat)
  | offsetBeyond (offset length : Nat)
  | noLength
  | implausibleLength (length : Nat)
  | chunkBeyond (offset length : Nat)
  | chunkTooLong (size start length : Nat)
  | emptyChunk (start : Nat)
  | unexpectedByte (expected found : UInt8)
  | badBase64
  | frameLength
  | checksum
  deriving Inhabited

/-- The cause in words. -/
def Malformed.message : Malformed → String
  | .described text => text
  | .unknownOp number => "unknown op " ++ toString number
  | .noHeader => "CoAP packet without header"
  | .tooShort size => "response too short: " ++ toString size ++ " bytes"
  | .payloadLength announced received =>
      "header announces " ++ toString announced ++ " payload bytes, got " ++ toString received
  | .undecodable reason => "CBOR decode failed: " ++ reason.message
  | .notAMap => "payload is not a map"
  | .rcRange rc => "rc out of range: " ++ toString rc
  | .offsetRange offset => "offset out of range: " ++ toString offset
  | .groupRange group => "group out of range: " ++ toString group
  | .groupRcRange rc => "group rc out of range: " ++ toString rc
  | .incompleteGroupCode => "incomplete err map"
  | .noOffset => "upload response without offset"
  | .unexpectedBody reason => "unexpected answer from device | " ++ reason.message
  | .bytesAfterEnd count => toString count ++ " unexpected bytes after packet end"
  | .wrongAnswer request response =>
      "wrong answer types: request " ++ request.shown ++ ", response " ++ response.shown
  | .otherAnswer request response =>
      "response " ++ response.shown ++ " does not answer request " ++ request.shown
  | .stuck offset => "device stuck at offset " ++ toString offset
  | .offsetBeyond offset length =>
      "device acknowledged offset " ++ toString offset ++ " beyond length " ++ toString length
  | .noLength => "first chunk does not announce a length"
  | .implausibleLength length => "announced length " ++ toString length ++ " is not plausible"
  | .chunkBeyond offset length =>
      "chunk offset " ++ toString offset ++ " beyond length " ++ toString length
  | .chunkTooLong size start length =>
      "chunk of " ++ toString size ++ " bytes at " ++ toString start ++ " exceeds length " ++
        toString length
  | .emptyChunk start =>
      "empty chunk at offset " ++ toString start ++ " before end of data"
  | .unexpectedByte expected found =>
      "read error, expected: " ++ toString expected.toNat ++ ", read: " ++ toString found.toNat
  | .badBase64 => "invalid base64"
  | .frameLength => "wrong chunk length"
  | .checksum => "wrong checksum"

/-- Why a file is not a firmware image. -/
inductive BadImage
  | described (text : String)
  | tooShort (size : Nat)
  | magic (found : Nat)
  | protectedSize (found announced : Nat)
  | areaBeyondEnd
  | truncatedEntry
  | entryBeyondArea (kind : Nat)
  | noHash
  | noArea (offset : Nat)
  | areaMagic (expected offset found : Nat)
  | areaTooSmall (size : Nat)
  deriving DecidableEq, Inhabited

/-- The cause in words. -/
def BadImage.message : BadImage → String
  | .described text => text
  | .tooShort size => toString size ++ " bytes is too short for a header"
  | .magic found => "bad magic 0x" ++ hexNumber 8 found
  | .protectedSize found announced =>
      "protected TLV area is " ++ toString found ++ " bytes, header says " ++ toString announced
  | .areaBeyondEnd => "TLV area runs past end of file"
  | .truncatedEntry => "truncated TLV entry"
  | .entryBeyondArea kind => "TLV 0x" ++ hexNumber 1 kind ++ " runs past the TLV area"
  | .noHash => "no hash TLV"
  | .noArea offset => "no TLV info at offset " ++ toString offset
  | .areaMagic expected offset found =>
      "expected TLV magic 0x" ++ hexNumber 4 expected ++ " at offset " ++ toString offset ++
        ", found 0x" ++ hexNumber 4 found
  | .areaTooSmall size => "TLV area size " ++ toString size ++ " is too small"

/-- Why a call cannot be carried out as asked. -/
inductive BadArgument
  | described (text : String)
  | payloadNotAMap (payload : Cbor.Value)
  | noLengthPrefix
  | transferClosed
  | nothingToUpload
  | downloadUnfinished
  | noImages
  | emptyImage (index slot : Nat)
  | lineLength (length : Nat)
  deriving Inhabited

/-- The cause in words. -/
def BadArgument.message : BadArgument → String
  | .described text => text
  | .payloadNotAMap payload => "CoAP payload must be a map, got " ++ payload.shown
  | .noLengthPrefix => "CoAP packets carry no length prefix"
  | .transferClosed => "transfer already closed"
  | .nothingToUpload => "nothing to upload"
  | .downloadUnfinished => "download not finished"
  | .noImages => "no images to upgrade"
  | .emptyImage index slot =>
      "image " ++ toString index ++ " slot " ++ toString slot ++ " is empty"
  | .lineLength length => "line length " ++ toString length ++ " leaves no room for data"

/-- The cause of a failure. -/
inductive Error
  | transport (text : String)
  | io (text : String)
  | timeout
  | disconnected
  | malformedHeader (size : Nat)
  | malformedResponse (cause : Malformed)
  | codec (reason : Cbor.DecodeError)
  | device (rc : Int) (groupCode : Option GroupCode)
  | insufficientMtu (required mtu : Nat)
  | aborted
  | imageNotPending
  | imageNotConfirmed
  | revalidationLimit (rounds : Nat)
  | invalidImage (cause : BadImage)
  | invalidArgument (cause : BadArgument)
  deriving Inhabited

namespace Error

/-- The codes of a device's refusal in words. -/
def deviceMessage (rc : Int) (groupCode : Option GroupCode) : String :=
  let name := ((ReturnCode.ofNumber? rc).map ReturnCode.name).getD "unrecognized"
  let own := "rc=" ++ toString rc ++ " (" ++ name ++ ")"
  match groupCode with
  | some code => own ++ ", group " ++ toString code.group ++ " rc " ++ toString code.rc
  | none => own

/-- The cause in words. -/
def message : Error → String
  | .transport text => "transport error: " ++ text
  | .io text => "I/O error: " ++ text
  | .timeout => "timed out waiting for a response"
  | .disconnected => "device disconnected"
  | .malformedHeader size => "malformed header: expected 8 bytes, got " ++ toString size
  | .malformedResponse cause => "malformed response: " ++ cause.message
  | .codec reason => "CBOR codec error: " ++ reason.message
  | .device rc groupCode => "device error: " ++ deviceMessage rc groupCode
  | .insufficientMtu required mtu =>
      "insufficient MTU: packet needs " ++ toString required ++ " bytes, link allows " ++
        toString mtu
  | .aborted => "operation aborted by user"
  | .imageNotPending => "image is not pending after test request"
  | .imageNotConfirmed => "image is not confirmed after confirm request"
  | .revalidationLimit rounds =>
      "device state did not settle after " ++ toString rounds ++ " reset/validate cycles"
  | .invalidImage cause => "invalid image: " ++ cause.message
  | .invalidArgument cause => "invalid argument: " ++ cause.message

def kind : Error → String
  | .transport _ => "Transport"
  | .io _ => "Io"
  | .timeout => "Timeout"
  | .disconnected => "Disconnected"
  | .malformedHeader _ => "MalformedHeader"
  | .malformedResponse _ => "MalformedResponse"
  | .codec _ => "Codec"
  | .device _ _ => "Device"
  | .insufficientMtu _ _ => "InsufficientMtu"
  | .aborted => "Aborted"
  | .imageNotPending => "ImageNotPending"
  | .imageNotConfirmed => "ImageNotConfirmed"
  | .revalidationLimit _ => "RevalidationLimitExceeded"
  | .invalidImage _ => "InvalidImage"
  | .invalidArgument _ => "InvalidArgument"

/-- The code of a device's refusal, if it is one with a name. -/
def returnCode? : Error → Option ReturnCode
  | .device rc _ => ReturnCode.ofNumber? rc
  | _ => none

/-- Whether the link failed, and not the device behind it. -/
def isTransport : Error → Bool
  | .transport _ | .io _ | .timeout | .disconnected => true
  | _ => false

end Error

end SmpClient
