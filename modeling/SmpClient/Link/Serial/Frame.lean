import SmpClient.Bytes.Base64
import SmpClient.Bytes.Crc16
import SmpClient.Error

/-!
# Frames on a serial line

A packet crosses a serial console as lines of base64.  The text stands for the length of the
packet and its checksum, the packet, and the checksum.  Two marker bytes start each line: one
pair the first line, another all that continue it.
-/

namespace SmpClient

namespace Frame

/-- The bytes that mark the first line. -/
def startMarker : Bytes := [6, 9]

/-- The bytes that mark the lines after the first. -/
def continuationMarker : Bytes := [4, 20]

/-- The byte that ends a line. -/
def newline : UInt8 := 10

/-- What the text of a frame stands for. -/
def content (packet : Bytes) : Bytes :=
  Bytes.ofNat 2 (packet.length + 2) ++ packet ++ Bytes.ofNat 2 (Crc16.ofBytes packet).toNat

/-- The lines that carry `text`, `width` characters on each. -/
def lines (width : Nat) (marker text : Bytes) : List Bytes :=
  if width = 0 ∨ text = [] then []
  else (marker ++ text.take width ++ [newline]) ::
    lines width continuationMarker (text.drop width)
termination_by text.length
decreasing_by
  rename_i split
  have : 0 < text.length := by
    cases text with
    | nil => simp at split
    | cons => simp
  simp only [List.length_drop]
  omega

/-- The frame of a packet in lines that are shorter than `lineLength`, their newlines
included. -/
def encode (lineLength : Nat) (packet : Bytes) : Except Error Bytes :=
  if lineLength ≤ 4 then .error (.invalidArgument (.lineLength lineLength))
  else .ok (lines (lineLength - 4) startMarker (Base64.encode (content packet))).flatten

/-- What a reader makes of some input, and the input that is left. -/
abbrev Read (α : Type) := Except Error α × Bytes

/-- Reads bytes that must be there.  Where the input ends, reading fails with `ending`. -/
def expect (ending : Error) : (expected input : Bytes) → Read Unit
  | [], input => (.ok (), input)
  | _ :: _, [] => (.error ending, [])
  | byte :: expected, found :: input =>
      if found = byte then expect ending expected input
      else (.error (.malformedResponse (.unexpectedByte byte found)), input)

/-- Reads up to a newline, which is dropped. -/
def readText (ending : Error) : Bytes → Read Bytes
  | [] => (.error ending, [])
  | byte :: input =>
      if byte = newline then (.ok [], input)
      else
        let (text, rest) := readText ending input
        (text.map (byte :: ·), rest)

def readLine (ending : Error) (marker input : Bytes) : Read Bytes :=
  match expect ending marker input with
  | (.error failure, rest) => (.error failure, rest)
  | (.ok (), rest) => readText ending rest

theorem length_expect_le (ending : Error) (expected input : Bytes) :
    (expect ending expected input).2.length ≤ input.length := by
  induction expected generalizing input with
  | nil => simp [expect]
  | cons byte expected ih =>
      cases input with
      | nil => simp [expect]
      | cons found input =>
          rw [expect]
          split
          · exact Nat.le_succ_of_le (ih input)
          · simp

theorem length_readText_lt (ending : Error) (input text : Bytes)
    (read : (readText ending input).1 = .ok text) :
    (readText ending input).2.length < input.length := by
  induction input generalizing text with
  | nil => simp [readText] at read
  | cons byte input ih =>
      rw [readText] at read ⊢
      split
      · simp
      · rename_i other
        rw [if_neg other] at read
        cases found : (readText ending input).1 with
        | error failure => simp [found, Except.map] at read
        | ok line =>
            have := ih line found
            simp only [List.length_cons]
            omega

/-- A line that was read leaves less input. -/
theorem length_readLine_lt {ending : Error} {marker input text rest : Bytes}
    (read : readLine ending marker input = (.ok text, rest)) : rest.length < input.length := by
  rw [readLine] at read
  split at read
  · simp at read
  · rename_i left expected
    have shorter := length_expect_le ending marker input
    rw [expected] at shorter
    have := length_readText_lt ending left text (by rw [read])
    rw [read] at this
    exact Nat.lt_of_lt_of_le this shorter

/-- The length that the content of a frame announces in its first two bytes. -/
def announced (content : Bytes) : Nat :=
  Bytes.toNat (content.take 2)

/-- Whether the bytes read so far hold all that they announce. -/
def isComplete (content : Bytes) : Bool :=
  2 ≤ content.length && announced content ≤ content.length - 2

/-- The packet in the content of a frame, if its length and its checksum are right. -/
def packetOf (content : Bytes) : Except Error Bytes :=
  let length := announced content
  if length ≠ content.length - 2 ∨ length < 2 then .error (.malformedResponse .frameLength)
  else
    let packet := content.slice 2 (content.length - 4)
    if Bytes.toNat (content.drop (content.length - 2)) ≠ (Crc16.ofBytes packet).toNat then
      .error (.malformedResponse .checksum)
    else .ok packet

/-- Reads lines until the content is complete; `text` is what the lines before held. -/
def receiveAfter (ending : Error) (text input : Bytes) : Read Bytes :=
  match _line : readLine ending (if text = [] then startMarker else continuationMarker) input with
  | (.error failure, rest) => (.error failure, rest)
  | (.ok line, rest) =>
      match Base64.decode? (text ++ line) with
      | none => (.error (.malformedResponse .badBase64), rest)
      | some content =>
          if isComplete content then (packetOf content, rest)
          else receiveAfter ending (text ++ line) rest
termination_by input.length
decreasing_by exact length_readLine_lt _line

/-- Reads one frame; gives its packet. -/
def receive (ending : Error) (input : Bytes) : Read Bytes :=
  receiveAfter ending [] input

end Frame

end SmpClient
