/-!
# Blanks

The characters that count as white space between the parts of a text.
-/

namespace SmpClient

namespace Text

/-- Whether a character is white space in the sense of the Unicode property of that name. -/
def isBlank (character : Char) : Bool :=
  let number := character.toNat
  (9 ≤ number && number ≤ 13) || number == 0x20 || number == 0x85 || number == 0xa0 ||
    number == 0x1680 || (0x2000 ≤ number && number ≤ 0x200a) || number == 0x2028 ||
    number == 0x2029 || number == 0x202f || number == 0x205f || number == 0x3000

end Text

end SmpClient
