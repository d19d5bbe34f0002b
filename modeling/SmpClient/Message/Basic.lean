import SmpClient.Cbor.Reader

/-!
# Fields of messages

Requests are records with named fields.  A field that has nothing to say is left out.  Answers
are read field by field, and have a written form that names every field.
-/

namespace SmpClient

namespace Cbor

namespace Value

/-- A field that is left out when there is nothing to say. -/
def optionalField {α : Type} (name : String) (content : Option α) (value : α → Value) :
    List (String × Value) :=
  match content with
  | some content => [(name, value content)]
  | none => []

/-- A value that says so when there is nothing. -/
def orNull {α : Type} (value : α → Value) : Option α → Value
  | some content => value content
  | none => .null

/-- A map from names to values. -/
def table {α : Type} (value : α → Value) (entries : List (String × α)) : Value :=
  .record (entries.map fun (name, content) => (name, value content))

end Value

/-- What has a form as a payload. -/
class Payload (α : Type) where
  toValue : α → Value

end Cbor

namespace Message

/-- The payload of a command without arguments. -/
def nothing : Cbor.Value :=
  .map []

end Message

end SmpClient
