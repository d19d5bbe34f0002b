import SmpClient.Cbor.Value

/-!
# Reading typed records from values

Response bodies are records with named fields.  A record is written as a map, or as an array
with its fields in order.  In a map a field may be named by its text, by the bytes of that
text or by its position; fields that the record does not know are passed over.
-/

namespace SmpClient

namespace Cbor

/-- Why a value is not what was expected. -/
inductive ReadError
  | expected (what : String)
  | missing (field : String)
  | repeated (field : String)
  deriving DecidableEq, Inhabited

/-- The reason in words. -/
def ReadError.message : ReadError → String
  | .expected what => "expected " ++ what
  | .missing field => "missing field " ++ field
  | .repeated field => "repeated field " ++ field

/-- Reads something from a value. -/
abbrev Reader (α : Type) := Value → Except ReadError α

namespace Reader

variable {α : Type}

def value : Reader Value := .ok

/-- An integer between two bounds, both included. -/
def int (low high : Int) : Reader Int
  | .int number =>
      if low ≤ number ∧ number ≤ high then .ok number
      else .error (.expected "an integer in range")
  | _ => .error (.expected "an integer")

/-- A signed integer of 32 bits. -/
def int32 : Reader Int := int (-0x80000000) 0x7fffffff

/-- A signed integer of 64 bits. -/
def int64 : Reader Int := int (-0x8000000000000000) 0x7fffffffffffffff

/-- An integer from zero up to below `bound`. -/
def natBelow (bound : Nat) : Reader Nat
  | .int (.ofNat number) =>
      if number < bound then .ok number else .error (.expected "an integer in range")
  | _ => .error (.expected "an unsigned integer")

/-- An unsigned integer of 32 bits. -/
def nat32 : Reader Nat := natBelow 0x100000000

/-- An unsigned integer of 64 bits. -/
def nat64 : Reader Nat := natBelow 0x10000000000000000

def bool : Reader Bool
  | .bool truth => .ok truth
  | _ => .error (.expected "a boolean")

/-- A text; a byte string that is UTF-8 also counts. -/
def text : Reader String
  | .text content => .ok content
  | .bytes content =>
      match Bytes.toText? content with
      | some text => .ok text
      | none => .error (.expected "UTF-8")
  | _ => .error (.expected "a text")

def byteString : Reader Bytes
  | .bytes content => .ok content
  | _ => .error (.expected "a byte string")

def list (item : Reader α) : Reader (List α)
  | .array items => items.mapM item
  | _ => .error (.expected "an array")

/-- Bytes given as a byte string, as a text, or as an array of numbers. -/
def blob : Reader Bytes
  | .bytes content => .ok content
  | .text content => .ok (Bytes.ofText content)
  | .array items => items.mapM fun item => (natBelow 256 item).map UInt8.ofNat
  | _ => .error (.expected "bytes")

/-- Nothing for null. -/
def optional (item : Reader α) : Reader (Option α)
  | .null => .ok none
  | value => (item value).map some

/-- Puts a named entry in its place by name; the last entry of a name counts. -/
def insertNamed (name : String) (item : α) : List (String × α) → List (String × α)
  | [] => [(name, item)]
  | (present, old) :: rest =>
      if name < present then (name, item) :: (present, old) :: rest
      else if name = present then (name, item) :: rest
      else (present, old) :: insertNamed name item rest

/-- A map from names, in the order of the names. -/
def table (item : Reader α) : Reader (List (String × α))
  | .map entries =>
      entries.foldlM
        (fun known (key, value) => do return insertNamed (← text key) (← item value) known) []
  | _ => .error (.expected "a map")

/-- The field that a key of a record stands for.  A key that cannot name a field is refused,
one that names an unknown field is none. -/
def fieldOfKey (names : List String) : Value → Except ReadError (Option String)
  | .text key => .ok (names.find? (· = key))
  | .bytes key => .ok (names.find? fun name => Bytes.ofText name = key)
  | .int (.ofNat position) => .ok names[position]?
  | _ => .error (.expected "a field name")

/-- The fields found in a record. -/
abbrev Fields := List (String × Value)

/-- The fields of a record whose fields are called `names`. -/
def fields (names : List String) : Reader Fields
  | .map entries =>
      entries.foldlM
        (fun known (key, value) => do
          match ← fieldOfKey names key with
          | none => return known
          | some name =>
              if (known.lookup name).isSome then throw (.repeated name)
              else return (name, value) :: known)
        []
  | .array items =>
      if names.length < items.length then .error (.expected "fewer fields")
      else .ok (names.zip items)
  | _ => .error (.expected "a record")

/-- A field that must be there. -/
def Fields.required (found : Fields) (name : String) (item : Reader α) : Except ReadError α :=
  match found.lookup name with
  | some value => item value
  | none => .error (.missing name)

/-- A field that stands for `fallback` when it is absent. -/
def Fields.optional (found : Fields) (name : String) (fallback : α) (item : Reader α) :
    Except ReadError α :=
  match found.lookup name with
  | some value => item value
  | none => .ok fallback

end Reader

end Cbor

end SmpClient
