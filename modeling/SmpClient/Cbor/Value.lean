import SmpClient.Bytes.Basic
import SmpClient.Text.Quoted
import SmpClient.Decimal.Shortest

/-!
# Values of the payload format

Payloads are CBOR items.  A `Value` keeps what an item means: the width of an integer, the
pieces of a string, the tags around an item and the way a length was announced are not part
of it.  A map keeps its entries in a list; requests fill it in the order of their fields, and
decoded maps are in canonical order.
-/

namespace SmpClient

namespace Cbor

/-- The meaning of one CBOR item.  A floating-point number is kept as the bits of a double. -/
inductive Value where
  | null
  | bool (value : Bool)
  | int (value : Int)
  | float (bits : UInt64)
  | bytes (content : Bytes)
  | text (content : String)
  | array (items : List Value)
  | map (entries : List (Value × Value))
  deriving BEq, Inhabited

namespace Value

/-- A map from names to values, in the given order. -/
def record (fields : List (String × Value)) : Value :=
  .map (fields.map fun (name, value) => (.text name, value))

/-- The natural number as an integer item. -/
abbrev nat (number : Nat) : Value := .int number

/-- The value of the first entry of a map whose key is the text `name`. -/
def entry? (entries : List (Value × Value)) (name : String) : Option Value :=
  entries.findSome? fun
    | (.text key, value) => if key = name then some value else none
    | _ => none

def commaSeparated (texts : List String) : String :=
  ", ".intercalate texts

mutual

/-- The value as diagnostics show it. -/
def shown : Value → String
  | .null => "Null"
  | .bool value => "Bool(" ++ toString value ++ ")"
  | .int value => "Integer(" ++ toString value ++ ")"
  | .float bits => "Float(" ++ Decimal.ofDouble bits ++ ")"
  | .bytes content =>
      "Bytes([" ++ commaSeparated (content.map fun byte => toString byte.toNat) ++ "])"
  | .text content => "Text(" ++ Quoted.text content ++ ")"
  | .array items => "Array([" ++ commaSeparated (shownItems items) ++ "])"
  | .map entries => "Map(\x7b" ++ commaSeparated (shownEntries entries) ++ "\x7d)"

/-- Each item as diagnostics show it. -/
def shownItems : List Value → List String
  | [] => []
  | item :: rest => shown item :: shownItems rest

/-- Each entry as diagnostics show it. -/
def shownEntries : List (Value × Value) → List String
  | [] => []
  | (key, value) :: rest => (shown key ++ ": " ++ shown value) :: shownEntries rest

end

end Value

end Cbor

end SmpClient
