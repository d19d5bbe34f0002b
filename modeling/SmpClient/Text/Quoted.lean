import SmpClient.Text.Printable

/-!
# Quoted text

Diagnostics show texts between double quotes and single characters between single quotes.
A quote of the surrounding kind and the backslash are written after a backslash, as are the
usual controls; any other character that is not shown as it is has its number in braces.
-/

namespace SmpClient

namespace Quoted

/-- One character inside quotes of the kind `quote`. -/
def escaped (quote character : Char) : String :=
  if character = '\x00' then "\\0"
  else if character = '\t' then "\\t"
  else if character = '\r' then "\\r"
  else if character = '\n' then "\\n"
  else if character = '\\' then "\\\\"
  else if character = quote then "\\" ++ quote.toString
  else if Text.isShown character then character.toString
  else "\\u\x7b" ++ String.ofList (Nat.toDigits 16 character.toNat) ++ "\x7d"

def text (content : String) : String :=
  "\"" ++ String.join (content.toList.map (escaped '\"')) ++ "\""

def character (content : Char) : String :=
  "'" ++ escaped '\'' content ++ "'"

end Quoted

end SmpClient
