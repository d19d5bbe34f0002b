import SmpClient.Bytes.Hex
import SmpClient.Cbor.Value

/-!
# Listings

A value is listed in the notation of JSON, each item and each entry on a line of its own, two more
blanks in front of it on each level.  Bytes are listed as hexadecimal text.
-/

namespace SmpClient

namespace Cbor

namespace Listing

def escaped (character : Char) : String :=
  if character = '\"' then "\\\""
  else if character = '\\' then "\\\\"
  else if character = '\x08' then "\\b"
  else if character = '\x0c' then "\\f"
  else if character = '\n' then "\\n"
  else if character = '\r' then "\\r"
  else if character = '\t' then "\\t"
  else if character.toNat < 32 then "\\u" ++ hexNumber 4 character.toNat
  else character.toString

def quoted (text : String) : String :=
  "\"" ++ String.join (text.toList.map escaped) ++ "\""

/-- The start of a line on a level. -/
def newLine (level : Nat) : String :=
  "\n" ++ String.ofList (List.replicate (2 * level) ' ')

/-- Lines between two brackets on a level; no lines leave the brackets side by side. -/
def bracketed (first last : String) (level : Nat) (lines : List String) : String :=
  if lines.isEmpty then first ++ last
  else
    first ++ newLine (level + 1) ++ ("," ++ newLine (level + 1)).intercalate lines ++
      newLine level ++ last

mutual

/-- A value on a level. -/
def ofValue (level : Nat) : Value → String
  | .null => "null"
  | .bool value => toString value
  | .int value => toString value
  | .float bits => Decimal.ofDouble bits
  | .bytes content => quoted (Bytes.toHex content)
  | .text content => quoted content
  | .array items => bracketed "[" "]" level (ofItems (level + 1) items)
  | .map entries => bracketed "\x7b" "\x7d" level (ofEntries (level + 1) entries)

/-- Each item on a level. -/
def ofItems (level : Nat) : List Value → List String
  | [] => []
  | item :: rest => ofValue level item :: ofItems level rest

/-- Each entry on a level; a key that is no text is listed as one. -/
def ofEntries (level : Nat) : List (Value × Value) → List String
  | [] => []
  | (key, value) :: rest =>
      let name := match key with
        | .text content => content
        | other => ofValue level other
      (quoted name ++ ": " ++ ofValue level value) :: ofEntries level rest

end

end Listing

/-- The value as a listing. -/
def Value.listing (value : Value) : String :=
  Listing.ofValue 0 value

end Cbor

end SmpClient
