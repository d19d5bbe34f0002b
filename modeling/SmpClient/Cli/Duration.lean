import SmpClient.Text.Blank

/-!
# Durations on the command line

A duration is a row of amounts, each a number with a unit, such as `1m 30s` or `1.5h`.  Blanks may
stand anywhere but inside a unit.
-/

namespace SmpClient

namespace Cli

/-- The units in which a duration is given. -/
inductive TimeUnit
  | nanosecond
  | microsecond
  | millisecond
  | second
  | minute
  | hour
  | day
  | week
  | month
  | year
  deriving DecidableEq

namespace TimeUnit

def spellings : List (TimeUnit × List String) :=
  [(.nanosecond, ["nanos", "nsec", "ns"]), (.microsecond, ["usec", "us", "µs"]),
    (.millisecond, ["millis", "msec", "ms"]),
    (.second, ["seconds", "second", "secs", "sec", "s"]),
    (.minute, ["minutes", "minute", "min", "mins", "m"]),
    (.hour, ["hours", "hour", "hr", "hrs", "h"]), (.day, ["days", "day", "d"]),
    (.week, ["weeks", "week", "wk", "wks", "w"]), (.month, ["months", "month", "M"]),
    (.year, ["years", "year", "yr", "yrs", "y"])]

def ofText? (text : String) : Option TimeUnit :=
  (spellings.find? fun entry => entry.2.contains text).map (·.1)

/-- The nanoseconds in a unit of at most a minute.  Parts of these units are counted in nanoseconds,
parts of longer ones in seconds. -/
def nanoseconds? : TimeUnit → Option Nat
  | .nanosecond => some 1
  | .microsecond => some 1000
  | .millisecond => some 1000000
  | .second => some 1000000000
  | .minute => some (60 * 1000000000)
  | _ => none

/-- The seconds in a unit; none for the units below one. -/
def seconds? : TimeUnit → Option Nat
  | .nanosecond | .microsecond | .millisecond => none
  | .second => some 1
  | .minute => some 60
  | .hour => some 3600
  | .day => some 86400
  | .week => some (7 * 86400)
  | .month => some 2630016
  | .year => some 31557600

end TimeUnit

namespace Duration

/-- Amounts and counts of seconds stay below this. -/
def bound : Nat := 0x10000000000000000

/-- A number that is small enough. -/
def bounded (number : Nat) : Option Nat :=
  if number < bound then some number else none

/-- A length of time that is still to be added to others. -/
structure Span where
  seconds : Nat := 0
  nanoseconds : Nat := 0
  deriving DecidableEq

/-- Adds a span to a total in nanoseconds.  The nanoseconds beyond the full seconds of both are
counted first. -/
def extend (total : Nat) (span : Span) : Option Nat := do
  let _ ← bounded (total % 1000000000 + span.nanoseconds)
  let sum := total + span.seconds * 1000000000 + span.nanoseconds
  if sum / 1000000000 < bound then some sum else none

def whole (amount : Nat) (unit : TimeUnit) : Option Span :=
  match unit.seconds? with
  | some seconds => (bounded (amount * seconds)).map fun seconds => { seconds }
  | none =>
      unit.nanoseconds?.bind fun nanoseconds =>
        (bounded (amount * nanoseconds)).map fun nanoseconds => { nanoseconds }

/-- The number that is `numerator` parts of `number` of which `denominator` make a whole, if it is
natural. -/
def exactPart (numerator denominator number : Nat) : Option Nat := do
  let product ← bounded (numerator * number)
  if product % denominator = 0 then some (product / denominator) else none

/-- A part of a unit.  It must be a full number of nanoseconds, of hours and longer units a full
number of seconds; there are no parts of nanoseconds. -/
def part (numerator denominator : Nat) (unit : TimeUnit) : Option Span :=
  match unit with
  | .nanosecond => none
  | unit =>
      match unit.nanoseconds? with
      | some number =>
          (exactPart numerator denominator number).map fun nanoseconds => { nanoseconds }
      | none =>
          unit.seconds?.bind fun number =>
            (exactPart numerator denominator number).map fun seconds => { seconds }

/-- A number as it is read: its whole part, and the digits after the point with the power of ten
that they are parts of. -/
structure Amount where
  whole : Nat
  fraction : Option (Nat × Nat) := none
  deriving DecidableEq

/-- How far the text has been read. -/
inductive Scan
  /-- Before a number; whether there were amounts before it. -/
  | between (any : Bool)
  | number (whole : Nat)
  | fraction (whole numerator denominator : Nat)
  /-- In the letters of a unit, the latest of which come first. -/
  | unit (amount : Amount) (letters : List Char)
  deriving DecidableEq

/-- Adds an amount to what was read before, a total in nanoseconds. -/
def add (amount : Amount) (letters : List Char) (total : Nat) : Option Nat := do
  let unit ← TimeUnit.ofText? (String.ofList letters.reverse)
  let total ← extend total (← whole amount.whole unit)
  match amount.fraction with
  | some (numerator, denominator) => extend total (← part numerator denominator unit)
  | none => return total

/-- Whether a character may stand in a unit. -/
def isUnitLetter (character : Char) : Bool :=
  character.isAlpha || character == 'µ'

def digit? (character : Char) : Option Nat :=
  if character.isDigit then some (character.toNat - 48) else none

def step (state : Nat × Scan) (character : Char) : Option (Nat × Scan) := do
  let (total, scan) := state
  match scan, digit? character with
  | .between _, some digit => return (total, .number digit)
  | .between any, none => if Text.isBlank character then return (total, .between any) else none
  | .number whole, some digit => return (total, .number (← bounded (whole * 10 + digit)))
  | .number whole, none =>
      if Text.isBlank character then return (total, .number whole)
      else if isUnitLetter character then return (total, .unit { whole } [character])
      else if character = '.' then return (total, .fraction whole 0 1)
      else none
  | .fraction whole numerator denominator, some digit =>
      return (total, .fraction whole (numerator * 10 + digit) (← bounded (denominator * 10)))
  | .fraction whole numerator denominator, none =>
      if Text.isBlank character then return (total, scan)
      else if isUnitLetter character && denominator != 1 then
        return (total, .unit { whole, fraction := some (numerator, denominator) } [character])
      else none
  | .unit amount letters, some digit => return (← add amount letters total, .number digit)
  | .unit amount letters, none =>
      if Text.isBlank character then return (← add amount letters total, .between true)
      else if isUnitLetter character then return (total, .unit amount (character :: letters))
      else none

/-- What has been read when the text ends; a number needs its unit. -/
def finish : Nat × Scan → Option Nat
  | (total, .between true) => some total
  | (total, .unit amount letters) => add amount letters total
  | _ => none

/-- The nanoseconds of a duration; nothing but a lone zero goes without a unit. -/
def read (text : String) : Option Nat :=
  if text = "0" then some 0
  else (text.toList.foldlM step (0, .between false)).bind finish

end Duration

end Cli

end SmpClient
