import SmpClient.Cbor.Encode

/-!
# Canonical order of map entries

Keys are ordered by major type, then by length, then by content: integers by magnitude, strings
and all others by their bytes.  Two keys that compare as equal are one key, and of
entries with one key the last value counts.
-/

namespace SmpClient

namespace Bytes

/-- Lexicographic order; a string comes before its extensions. -/
def compareWith : Bytes → Bytes → Ordering
  | [], [] => .eq
  | [], _ :: _ => .lt
  | _ :: _, [] => .gt
  | first :: firsts, second :: seconds =>
      (compare first second).then (compareWith firsts seconds)

end Bytes

namespace Cbor

namespace Value

/-- The major type of the item that stands for a value. -/
def major : Value → Nat
  | .int (.ofNat _) => 0
  | .int (.negSucc _) => 1
  | .bytes _ => 2
  | .text _ => 3
  | .array _ => 4
  | .map _ => 5
  | .null | .bool _ | .float _ => 7

def compareKey (first second : Value) : Ordering :=
  (compare first.major second.major).then <|
    match first, second with
    | .int left, .int right => compare left.natAbs right.natAbs
    | .bytes left, .bytes right =>
        (compare left.length right.length).then (Bytes.compareWith left right)
    | .text left, .text right =>
        let leftBytes := Bytes.ofText left
        let rightBytes := Bytes.ofText right
        (compare leftBytes.length rightBytes.length).then
          (Bytes.compareWith leftBytes rightBytes)
    | .array left, .array right =>
        (compare left.length right.length).then
          (Bytes.compareWith first.encode second.encode)
    | .map left, .map right =>
        (compare left.length right.length).then
          (Bytes.compareWith first.encode second.encode)
    | _, _ => Bytes.compareWith first.encode second.encode

/-- Puts an entry in its place among entries in canonical order.  An entry with the same key
keeps its place and takes the new value. -/
def insertEntry (key value : Value) : List (Value × Value) → List (Value × Value)
  | [] => [(key, value)]
  | (present, old) :: rest =>
      match key.compareKey present with
      | .lt => (key, value) :: (present, old) :: rest
      | .eq => (present, value) :: rest
      | .gt => (present, old) :: insertEntry key value rest

/-- Entries in canonical order. -/
def sortEntries (entries : List (Value × Value)) : List (Value × Value) :=
  entries.foldl (fun sorted entry => insertEntry entry.1 entry.2 sorted) []

mutual

/-- The value with all its maps in canonical order. -/
def canonical : Value → Value
  | .array items => .array (canonicalItems items)
  | .map entries => .map (sortEntries (canonicalEntries entries))
  | value => value

def canonicalItems : List Value → List Value
  | [] => []
  | item :: rest => canonical item :: canonicalItems rest

def canonicalEntries : List (Value × Value) → List (Value × Value)
  | [] => []
  | (key, value) :: rest => (canonical key, canonical value) :: canonicalEntries rest

end

end Value

end Cbor

end SmpClient
