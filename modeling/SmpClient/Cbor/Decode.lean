import SmpClient.Cbor.Canonical

/-!
# Reading values

A decoded byte string holds exactly one item.  Lengths may be announced or left open, integers
may have any width, and tags are passed over.  Arrays, maps and tags nest at most 127 deep.
Each item takes at least one byte, so twice the number of bytes bounds the work.
-/

namespace SmpClient

namespace Cbor

/-- Why bytes are not one CBOR item. -/
inductive DecodeError
  | ended
  | trailing
  | unassigned (initial : Nat)
  | unexpectedPiece
  | notText
  | tooDeep
  deriving DecidableEq, Inhabited

/-- The reason in words. -/
def DecodeError.message : DecodeError → String
  | .ended => "the item does not end"
  | .trailing => "bytes follow the item"
  | .unassigned initial => "no item starts with byte " ++ toString initial
  | .unexpectedPiece => "a string of open length holds something else"
  | .notText => "a text is not UTF-8"
  | .tooDeep => "items are nested too deep"

/-- How many arrays, maps and tags may enclose each other. -/
def maximumDepth : Nat := 127

/-- The number in the first `width` bytes. -/
def readNumber (width : Nat) (input : Bytes) : Except DecodeError (Nat × Bytes) :=
  if input.length < width then .error .ended
  else .ok (Bytes.toNat (input.take width), input.drop width)

/-- The argument of a head whose initial byte is `initial`. -/
def readArgument (initial : Nat) (input : Bytes) : Except DecodeError (Nat × Bytes) :=
  match initial % 32 with
  | 24 => readNumber 1 input
  | 25 => readNumber 2 input
  | 26 => readNumber 4 input
  | 27 => readNumber 8 input
  | small => if small < 24 then .ok (small, input) else .error (.unassigned initial)

/-- The first `length` bytes. -/
def readBytes (length : Nat) (input : Bytes) : Except DecodeError (Bytes × Bytes) :=
  if input.length < length then .error .ended
  else .ok (input.take length, input.drop length)

/-- The pieces of a string of open length, up to the break; all have the major type `major`. -/
def readPieces (major : Nat) : (fuel : Nat) → (before : Bytes) → Bytes →
    Except DecodeError (Bytes × Bytes)
  | 0, _, _ => .error .ended
  | _ + 1, _, [] => .error .ended
  | fuel + 1, before, initial :: input =>
      if initial = 0xff then .ok (before, input)
      else if initial.toNat / 32 ≠ major then .error .unexpectedPiece
      else do
        let (length, input) ← readArgument initial.toNat input
        let (piece, input) ← readBytes length input
        readPieces major fuel (before ++ piece) input

/-- The content of a string of the major type `major`. -/
def readString (major : Nat) (initial : Nat) (input : Bytes) : Except DecodeError (Bytes × Bytes) :=
  if initial % 32 = 31 then readPieces major (input.length + 1) [] input
  else do
    let (length, input) ← readArgument initial input
    readBytes length input

/-- The text that bytes encode. -/
def textValue (content : Bytes) : Except DecodeError Value :=
  match Bytes.toText? content with
  | some text => .ok (.text text)
  | none => .error .notText

def readSimple (initial : Nat) (input : Bytes) : Except DecodeError (Value × Bytes) :=
  match initial % 32 with
  | 20 => .ok (.bool false, input)
  | 21 => .ok (.bool true, input)
  | 22 => .ok (.null, input)
  | 23 => .ok (.null, input)
  | 25 => do
      let (bits, input) ← readNumber 2 input
      return (.float (FloatFormat.half.widen bits), input)
  | 26 => do
      let (bits, input) ← readNumber 4 input
      return (.float (FloatFormat.single.widen bits), input)
  | 27 => do
      let (bits, input) ← readNumber 8 input
      return (.float (UInt64.ofNat bits), input)
  | _ => .error (.unassigned initial)

mutual

/-- One item, inside which `depth` more levels may be nested. -/
def readItem : (fuel depth : Nat) → Bytes → Except DecodeError (Value × Bytes)
  | 0, _, _ => .error .ended
  | _ + 1, _, [] => .error .ended
  | fuel + 1, depth, initialByte :: input =>
      let initial := initialByte.toNat
      match initial / 32 with
      | 0 => do
          let (number, input) ← readArgument initial input
          return (.int number, input)
      | 1 => do
          let (number, input) ← readArgument initial input
          return (.int (.negSucc number), input)
      | 2 => do
          let (content, input) ← readString 2 initial input
          return (.bytes content, input)
      | 3 => do
          let (content, input) ← readString 3 initial input
          return (← textValue content, input)
      | 7 => readSimple initial input
      | major =>
          match depth with
          | 0 => .error .tooDeep
          | depth + 1 =>
              if initial % 32 = 31 then
                match major with
                | 4 => readOpenItems fuel depth [] input
                | 5 => readOpenEntries fuel depth [] input
                | _ => .error (.unassigned initial)
              else do
                let (count, input) ← readArgument initial input
                match major with
                | 4 => readItems fuel depth count [] input
                | 5 => readEntries fuel depth count [] input
                | _ => readItem fuel depth input

/-- An array with `count` more items after those of `before`, which are in reverse. -/
def readItems : (fuel depth count : Nat) → (before : List Value) → Bytes →
    Except DecodeError (Value × Bytes)
  | _, _, 0, before, input => .ok (.array before.reverse, input)
  | 0, _, _ + 1, _, _ => .error .ended
  | fuel + 1, depth, count + 1, before, input =>
      match readItem fuel depth input with
      | .error reason => .error reason
      | .ok (item, input) => readItems fuel depth count (item :: before) input

/-- An array of open length, up to its break. -/
def readOpenItems : (fuel depth : Nat) → (before : List Value) → Bytes →
    Except DecodeError (Value × Bytes)
  | 0, _, _, _ => .error .ended
  | fuel + 1, depth, before, input =>
      match input with
      | [] => .error .ended
      | next :: rest =>
          if next = 0xff then .ok (.array before.reverse, rest)
          else match readItem fuel depth input with
            | .error reason => .error reason
            | .ok (item, input) => readOpenItems fuel depth (item :: before) input

/-- A map with `count` more entries after those of `before`, which are in canonical order. -/
def readEntries : (fuel depth count : Nat) → (before : List (Value × Value)) → Bytes →
    Except DecodeError (Value × Bytes)
  | _, _, 0, before, input => .ok (.map before, input)
  | 0, _, _ + 1, _, _ => .error .ended
  | fuel + 1, depth, count + 1, before, input =>
      match readItem fuel depth input with
      | .error reason => .error reason
      | .ok (key, input) =>
          match readItem fuel depth input with
          | .error reason => .error reason
          | .ok (value, input) =>
              readEntries fuel depth count (Value.insertEntry key value before) input

/-- A map of open length, up to its break. -/
def readOpenEntries : (fuel depth : Nat) → (before : List (Value × Value)) → Bytes →
    Except DecodeError (Value × Bytes)
  | 0, _, _, _ => .error .ended
  | fuel + 1, depth, before, input =>
      match input with
      | [] => .error .ended
      | next :: rest =>
          if next = 0xff then .ok (.map before, rest)
          else match readItem fuel depth input with
            | .error reason => .error reason
            | .ok (key, input) =>
                match readItem fuel depth input with
                | .error reason => .error reason
                | .ok (value, input) =>
                    readOpenEntries fuel depth (Value.insertEntry key value before) input

end

/-- The value of the one item that the bytes hold. -/
def Value.decode (input : Bytes) : Except DecodeError Value :=
  match readItem (2 * input.length + 2) maximumDepth input with
  | .error reason => .error reason
  | .ok (value, []) => .ok value
  | .ok (_, _ :: _) => .error .trailing

end Cbor

end SmpClient
