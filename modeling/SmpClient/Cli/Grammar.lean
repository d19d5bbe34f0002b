import SmpClient.Cli.Duration

/-!
# Command lines

A grammar lists the options and the positional arguments of a command, and the commands that may
follow them.  Values are gathered as they come and read when the next argument begins, so of two
faults the one that comes first is reported, save that an argument nobody knows is reported at
once.
-/

namespace SmpClient

namespace Cli

/-- Why a command line is not carried out. -/
inductive UsageError
  | displayHelp
  | displayVersion
  | displayHelpOnMissingCommand
  | missingCommand
  | invalidCommand
  | unknownArgument
  | invalidValue
  | valueValidation
  | argumentConflict
  | tooManyValues
  | missingRequiredArgument
  deriving DecidableEq

/-- The name in diagnostics. -/
def UsageError.name : UsageError → String
  | .displayHelp => "DisplayHelp"
  | .displayVersion => "DisplayVersion"
  | .displayHelpOnMissingCommand => "DisplayHelpOnMissingArgumentOrSubcommand"
  | .missingCommand => "MissingSubcommand"
  | .invalidCommand => "InvalidSubcommand"
  | .unknownArgument => "UnknownArgument"
  | .invalidValue => "InvalidValue"
  | .valueValidation => "ValueValidation"
  | .argumentConflict => "ArgumentConflict"
  | .tooManyValues => "TooManyValues"
  | .missingRequiredArgument => "MissingRequiredArgument"

/-- The value of an argument. -/
inductive Value
  | text (content : String)
  | number (value : Nat)
  deriving DecidableEq

/-- What values an argument takes. -/
inductive ValueKind
  | text
  /-- The path of a file, which is not empty. -/
  | path
  /-- A number below a bound; it may have a sign. -/
  | number (bound : Nat)
  /-- A number of 64 bits; it may have a plus sign. -/
  | size
  | choice (names : List String)
  /-- A duration; its value is in nanoseconds. -/
  | duration

namespace ValueKind

/-- The number that a row of decimal digits stands for. -/
def digits? (text : List Char) : Option Nat :=
  if text.isEmpty || !text.all Char.isDigit then none
  else some (text.foldl (fun value digit => value * 10 + (digit.toNat - 48)) 0)

/-- A natural number that may have a plus sign. -/
def unsigned? : List Char → Option Nat
  | '+' :: digits => digits? digits
  | digits => digits? digits

/-- A natural number that may have a sign; only zero can have a minus sign. -/
def signed? : List Char → Option Nat
  | '-' :: digits => (digits? digits).filter (· == 0)
  | digits => unsigned? digits

/-- A number below a bound. -/
def numberBelow (bound : Nat) (number : Option Nat) : Except UsageError Value :=
  match number with
  | some value => if value < bound then .ok (.number value) else .error .valueValidation
  | none => .error .valueValidation

def read (kind : ValueKind) (text : String) : Except UsageError Value :=
  match kind with
  | .text => .ok (.text text)
  | .path => if text.isEmpty then .error .invalidValue else .ok (.text text)
  | .number bound => numberBelow bound (signed? text.toList)
  | .size => numberBelow 0x10000000000000000 (unsigned? text.toList)
  | .choice names => if names.contains text then .ok (.text text) else .error .invalidValue
  | .duration =>
      match Duration.read text with
      | some nanoseconds => .ok (.number nanoseconds)
      | none => .error .valueValidation

end ValueKind

/-- What an argument with a name does. -/
inductive NamedKind
  | flag
  | value (kind : ValueKind)
  /-- Nothing else is carried out. -/
  | ends (how : UsageError)

/-- An argument that is given by its name. -/
structure Named where
  name : String
  short : Option Char := none
  kind : NamedKind

/-- An argument that is given by its place. -/
structure Positional where
  name : String
  kind : ValueKind := .text
  isRequired : Bool := true
  /-- Whether it may be given any number of times. -/
  isRepeated : Bool := false
  /-- Whether all that follows it belongs to it. -/
  takesRest : Bool := false

/-- The arguments of a command, and the commands that may follow them. -/
structure Grammar where
  named : List Named := []
  positionals : List Positional := []
  commands : List String := []

/-- An argument whose values are still coming. -/
structure Pending where
  name : String
  kind : ValueKind
  isRepeated : Bool := false
  values : List String := []

/-- The arguments given so far, with their values. -/
abbrev Arguments := List (String × List Value)

/-- How far a command line has been read. -/
structure Reading where
  given : Arguments := []
  pending : Option Pending := none
  /-- The number of positional arguments that are complete. -/
  position : Nat := 0
  /-- Whether all that follows is positional. -/
  onlyPositionals : Bool := false

namespace Reading

def isGiven (name : String) (reading : Reading) : Bool :=
  (reading.given.lookup name).isSome

/-- Whether the last argument was an option that wants its value. -/
def awaitsValue (reading : Reading) : Bool :=
  reading.pending.any fun pending => pending.values.isEmpty

/-- Adds an argument with its values.  Only one that may be repeated can be given again. -/
def give (pending : Pending) (reading : Reading) : Except UsageError Reading :=
  if pending.values.isEmpty then .error .invalidValue
  else if !pending.isRepeated && reading.isGiven pending.name then .error .argumentConflict
  else do
    let values ← pending.values.mapM pending.kind.read
    let before := (reading.given.lookup pending.name).getD []
    let others := reading.given.filter fun entry => entry.1 != pending.name
    return { reading with given := (pending.name, before ++ values) :: others }

/-- Reads the values that have come for the last argument. -/
def resolve (reading : Reading) : Except UsageError Reading :=
  match reading.pending with
  | none => .ok reading
  | some pending => { reading with pending := none }.give pending

def giveFlag (name : String) (reading : Reading) : Except UsageError Reading :=
  if reading.isGiven name then .error .argumentConflict
  else .ok { reading with given := (name, []) :: reading.given }

/-- An argument was given by its name, perhaps with a value attached to it. -/
def takeNamed (named : Named) (attached : Option String) (reading : Reading) :
    Except UsageError Reading :=
  match named.kind, attached with
  | .value kind, some value => do
      (← reading.resolve).give { name := named.name, kind, values := [value] }
  | .value kind, none => do
      return { ← reading.resolve with pending := some { name := named.name, kind } }
  | _, some _ => .error .tooManyValues
  | .flag, none => do (← reading.resolve).giveFlag named.name
  | .ends how, none => do
      let _ ← reading.resolve
      .error how

/-- The value of the option that wants one. -/
def takeValue (value : String) (reading : Reading) : Reading :=
  { reading with
    pending := reading.pending.map fun pending => { pending with values := [value] } }

/-- A positional argument; `argument` is what it is called. -/
def takePositional (argument : Positional) (value : String) (reading : Reading) :
    Except UsageError Reading := do
  let name := argument.name
  let kind := argument.kind
  let isRepeated := argument.isRepeated
  let started : Pending := { name, kind, isRepeated }
  let (reading, pending) ← match reading.pending with
    | some pending =>
        if isRepeated && pending.name == name then pure (reading, pending)
        else pure (← reading.resolve, started)
    | none => pure (reading, started)
  return { reading with
    pending := some { pending with values := pending.values ++ [value] }
    position := if isRepeated then reading.position else reading.position + 1
    onlyPositionals := reading.onlyPositionals || argument.takesRest }

end Reading

/-- A text split at the first equals sign. -/
def splitAtEquals (text : List Char) : String × Option String :=
  let name := String.ofList (text.takeWhile (· != '='))
  match text.dropWhile (· != '=') with
  | [] => (name, none)
  | _ :: value => (name, some (String.ofList value))

/-- The value that follows a short name directly, with or without an equals sign. -/
def attachedValue : List Char → Option String
  | [] => none
  | '=' :: value => some (String.ofList value)
  | value => some (String.ofList value)

namespace Grammar

/-- An argument that belongs nowhere. -/
def strayArgument (grammar : Grammar) (argument : String) (reading : Reading) : UsageError :=
  if grammar.commands.isEmpty then .unknownArgument
  else if reading.onlyPositionals && grammar.commands.contains argument then .unknownArgument
  else .invalidCommand

def takePositional (grammar : Grammar) (argument : String) (reading : Reading) :
    Except UsageError Reading :=
  match grammar.positionals[reading.position]? with
  | some positional => reading.takePositional positional argument
  | none => .error (grammar.strayArgument argument reading)

def takeLong (grammar : Grammar) (text : List Char) (reading : Reading) :
    Except UsageError Reading :=
  let (name, attached) := splitAtEquals text
  match grammar.named.find? fun named => named.name == name with
  | some named => reading.takeNamed named attached
  | none => .error .unknownArgument

/-- Arguments given by their short names, in one word.  The first that takes a value takes the rest
of the word. -/
def takeShort (grammar : Grammar) : List Char → Reading → Except UsageError Reading
  | [], reading => .ok reading
  | letter :: rest, reading =>
      match grammar.named.find? fun named => named.short == some letter with
      | none => .error .unknownArgument
      | some named =>
          match named.kind with
          | .value _ => reading.takeNamed named (attachedValue rest)
          | _ => do takeShort grammar rest (← reading.takeNamed named none)

/-- Reads one argument that is not a command. -/
def take (grammar : Grammar) (argument : String) (reading : Reading) :
    Except UsageError Reading :=
  if reading.onlyPositionals then grammar.takePositional argument reading
  else match argument.toList with
    | ['-', '-'] => .ok { reading with onlyPositionals := true }
    | '-' :: '-' :: text => grammar.takeLong text reading
    | '-' :: letter :: rest => grammar.takeShort (letter :: rest) reading
    | _ =>
        if reading.awaitsValue then .ok (reading.takeValue argument)
        else grammar.takePositional argument reading

/-- Reads arguments up to a command; gives the command with what follows it. -/
def read (grammar : Grammar) : List String → Reading →
    Except UsageError (Reading × Option (String × List String))
  | [], reading => .ok (reading, none)
  | argument :: rest, reading =>
      if !reading.onlyPositionals && !reading.awaitsValue &&
          grammar.commands.contains argument then
        .ok (reading, some (argument, rest))
      else do grammar.read rest (← grammar.take argument reading)

/-- Whether an argument that must be given is missing. -/
def lacks (grammar : Grammar) (reading : Reading) : Bool :=
  grammar.positionals.any fun argument =>
    argument.isRequired && !reading.isGiven argument.name

/-- Reads all arguments of a command that no other command follows. -/
def readAll (grammar : Grammar) (arguments : List String) : Except UsageError Arguments := do
  let (reading, _) ← grammar.read arguments {}
  let reading ← reading.resolve
  if grammar.lacks reading then throw .missingRequiredArgument
  return reading.given

end Grammar

namespace Arguments

def flag (arguments : Arguments) (name : String) : Bool :=
  (arguments.lookup name).isSome

/-- The texts given for an argument. -/
def texts (arguments : Arguments) (name : String) : List String :=
  ((arguments.lookup name).getD []).filterMap fun
    | .text content => some content
    | .number _ => none

/-- The text given for an argument. -/
def text? (arguments : Arguments) (name : String) : Option String :=
  (arguments.texts name).head?

/-- The text given for an argument, or what stands for it. -/
def text (arguments : Arguments) (name : String) (fallback : String := "") : String :=
  (arguments.text? name).getD fallback

/-- The number given for an argument. -/
def number? (arguments : Arguments) (name : String) : Option Nat :=
  match arguments.lookup name with
  | some (.number value :: _) => some value
  | _ => none

/-- The number given for an argument, or what stands for it. -/
def number (arguments : Arguments) (name : String) (fallback : Nat) : Nat :=
  (arguments.number? name).getD fallback

end Arguments

end Cli

end SmpClient
