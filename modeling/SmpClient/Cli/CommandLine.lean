import SmpClient.Cli.Grammar
import SmpClient.Link.Serial.Link
import SmpClient.Link.Udp
import SmpClient.Upgrade.Plan

/-!
# The commands of the program

A command line says how the device is reached and what is to be done.
-/

namespace SmpClient

namespace Cli

/-- How a device is reached. -/
inductive Connection
  | udp (settings : UdpSettings)
  | serial (settings : SerialSettings)
  deriving DecidableEq

/-- The connection as diagnostics show it. -/
def Connection.shown : Connection → String
  | .udp settings =>
      "Udp(UdpSpecs \x7b host: " ++ Quoted.text settings.host ++
        ", port: " ++ toString settings.port ++ ", timeout_s: " ++ toString settings.timeout ++
        ", mtu: " ++ toString settings.mtu ++ " \x7d)"
  | .serial settings =>
      "Serial(SerialSpecs \x7b device: " ++ Quoted.text settings.device ++
        ", initial_timeout_s: " ++ toString settings.initialTimeout ++
        ", subsequent_timeout_ms: " ++ toString settings.subsequentTimeout ++
        ", nb_retry: " ++ toString settings.retries ++
        ", linelength: " ++ toString settings.lineLength ++
        ", mtu: " ++ toString settings.mtu ++
        ", baudrate: " ++ toString settings.baudRate ++ " \x7d)"

/-- What the program is told to do. -/
inductive Action
  | list
  | upload (path : String) (image window : Nat)
  | test (hash : String) (confirm : Bool)
  | confirm (hash : Option String)
  | erase (slot : Option Nat)
  | upgrade (paths : List String) (mode : UpgradeMode) (window alignment swapNanoseconds : Nat)
      (eraseSettings : Bool)
  | reset (force : Bool)
  | echo (message : String)
  | tasks
  | parameters
  | systemInfo (format : String)
  | bootloaderInfo (query : Option String)
  | shell (words : List String)
  | download (remote destination : String)
  | store (source remote : String)
  | fileStatus (path : String)
  | fileHash (path : String) (kind : Option String)
  | hashKinds
  | statisticsGroups
  | statistics (name : String)
  | readSetting (name : String) (maximum : Option Nat)
  | writeSetting (name value : String)
  | deleteSetting (name : String)
  | commitSettings
  | loadSettings
  | saveSettings
  | eraseStorage
  | showLogs (name : Option String)
  | clearLogs

/-- A command: its arguments, and what it is told to do by them. -/
structure Verb where
  name : String
  named : List Named := []
  positionals : List Positional := []
  action : Arguments → Action

/-- The option that shows the help. -/
def helpOption : Named :=
  { name := "help", short := some 'h', kind := .ends .displayHelp }

/-- An option that takes a number of 32 bits. -/
def numberOption (name : String) (short : Option Char := none) : Named :=
  { name, short, kind := .value (.number 0x100000000) }

/-- An option that takes a size. -/
def sizeOption (name : String) (short : Option Char := none) : Named :=
  { name, short, kind := .value .size }

/-- An option that takes a text. -/
def textOption (name : String) (short : Option Char := none) : Named :=
  { name, short, kind := .value .text }

/-- An option that takes nothing. -/
def flagOption (name : String) (short : Option Char := none) : Named :=
  { name, short, kind := .flag }

def upgradeModes : List (String × UpgradeMode) :=
  [("test", .testOnly), ("confirm", .confirmOnly), ("test-and-confirm", .testAndConfirm),
    ("upload-only", .uploadOnly)]

def systemVerbs : List Verb :=
  [{ name := "list", action := fun _ => .list },
    { name := "upload"
      named := [numberOption "image" (some 'i'), sizeOption "window" (some 'w')]
      positionals := [{ name := "filename", kind := .path }]
      action := fun given =>
        .upload (given.text "filename") (given.number "image" 0) (given.number "window" 1) },
    { name := "test"
      named := [flagOption "confirm" (some 'c')]
      positionals := [{ name := "hash" }]
      action := fun given => .test (given.text "hash") (given.flag "confirm") },
    { name := "confirm"
      positionals := [{ name := "hash", isRequired := false }]
      action := fun given => .confirm (given.text? "hash") },
    { name := "erase"
      named := [numberOption "slot" (some 's')]
      action := fun given => .erase (given.number? "slot") },
    { name := "upgrade"
      named :=
        [{ name := "mode", kind := .value (.choice (upgradeModes.map (·.1))) },
          sizeOption "window" (some 'w'), sizeOption "alignment" (some 'a'),
          { name := "swap-time", kind := .value .duration }, flagOption "erase-settings"]
      positionals := [{ name := "filenames", kind := .path, isRepeated := true }]
      action := fun given =>
        .upgrade (given.texts "filenames")
          ((upgradeModes.lookup (given.text "mode")).getD .testAndConfirm)
          (given.number "window" 1) (given.number "alignment" 1) (given.number "swap-time" 0)
          (given.flag "erase-settings") },
    { name := "reset"
      named := [flagOption "force" (some 'f')]
      action := fun given => .reset (given.flag "force") },
    { name := "echo"
      positionals := [{ name := "message", isRequired := false }]
      action := fun given => .echo (given.text "message" "hello") },
    { name := "taskstat", action := fun _ => .tasks },
    { name := "mcumgr-params", action := fun _ => .parameters },
    { name := "os-info"
      named := [textOption "format" (some 'f')]
      action := fun given => .systemInfo (given.text "format" "a") },
    { name := "bootloader-info"
      named := [textOption "query" (some 'q')]
      action := fun given => .bootloaderInfo (given.text? "query") },
    { name := "shell"
      positionals :=
        [{ name := "command", isRequired := false, isRepeated := true, takesRest := true }]
      action := fun given => .shell (given.texts "command") }]

/-- The commands about files, statistics, settings and logs. -/
def recordVerbs : List Verb :=
  [{ name := "fs-download"
     positionals := [{ name := "remote_path" }, { name := "local_path", kind := .path }]
     action := fun given => .download (given.text "remote_path") (given.text "local_path") },
    { name := "fs-upload"
      positionals := [{ name := "local_path", kind := .path }, { name := "remote_path" }]
      action := fun given => .store (given.text "local_path") (given.text "remote_path") },
    { name := "fs-stat"
      positionals := [{ name := "path" }]
      action := fun given => .fileStatus (given.text "path") },
    { name := "fs-hash"
      named := [textOption "hash-type" (some 't')]
      positionals := [{ name := "path" }]
      action := fun given => .fileHash (given.text "path") (given.text? "hash-type") },
    { name := "fs-hash-types", action := fun _ => .hashKinds },
    { name := "stat-list", action := fun _ => .statisticsGroups },
    { name := "stat-read"
      positionals := [{ name := "name" }]
      action := fun given => .statistics (given.text "name") },
    { name := "settings-read"
      named := [numberOption "max-size" (some 'm')]
      positionals := [{ name := "name" }]
      action := fun given => .readSetting (given.text "name") (given.number? "max-size") },
    { name := "settings-write"
      positionals := [{ name := "name" }, { name := "value" }]
      action := fun given => .writeSetting (given.text "name") (given.text "value") },
    { name := "settings-delete"
      positionals := [{ name := "name" }]
      action := fun given => .deleteSetting (given.text "name") },
    { name := "settings-commit", action := fun _ => .commitSettings },
    { name := "settings-load", action := fun _ => .loadSettings },
    { name := "settings-save", action := fun _ => .saveSettings },
    { name := "erase-storage", action := fun _ => .eraseStorage },
    { name := "log-show"
      positionals := [{ name := "name", isRequired := false }]
      action := fun given => .showLogs (given.text? "name") },
    { name := "log-clear", action := fun _ => .clearLogs }]

def verbs : List Verb := systemVerbs ++ recordVerbs

def Verb.grammar (verb : Verb) : Grammar :=
  { named := verb.named ++ [helpOption], positionals := verb.positionals }

/-- The name of the command that shows the help. -/
def helpName : String := "help"

/-- The arguments before the command. -/
def programGrammar : Grammar :=
  { named :=
      [textOption "device" (some 'd'), textOption "host",
        { name := "port", kind := .value (.number 0x10000) }, flagOption "verbose" (some 'v'),
        numberOption "initial_timeout" (some 't'), numberOption "subsequent_timeout" (some 'u'),
        numberOption "nb-retry", sizeOption "linelength" (some 'l'), sizeOption "mtu" (some 'm'),
        numberOption "baudrate" (some 'b'), helpOption,
        { name := "version", short := some 'V', kind := .ends .displayVersion }]
    commands := verbs.map Verb.name ++ [helpName] }

/-- The connection that the arguments before the command describe: datagrams if a host is named,
and a serial port if not. -/
def Connection.ofArguments (given : Arguments) : Connection :=
  match given.text? "host" with
  | some host =>
      .udp
        { host
          port := given.number "port" 1337
          timeout := given.number "initial_timeout" 60
          mtu := given.number "mtu" 512 }
  | none =>
      .serial
        { device := given.text "device"
          initialTimeout := given.number "initial_timeout" 60
          subsequentTimeout := given.number "subsequent_timeout" 200
          retries := given.number "nb-retry" 4
          lineLength := given.number "linelength" 128
          mtu := given.number "mtu" 512
          baudRate := given.number "baudrate" 115200 }

/-- What a command line says. -/
structure CommandLine where
  connection : Connection
  action : Action

namespace CommandLine

/-- What is asked of the help: all of it, or one command. -/
def help : List String → UsageError
  | [] => .displayHelp
  | [command] =>
      if programGrammar.commands.contains command then .displayHelp else .invalidCommand
  | _ => .invalidCommand

def readVerb (name : String) (arguments : List String) : Except UsageError Action := do
  if name == helpName then throw (help arguments)
  match verbs.find? fun verb => verb.name == name with
  | some verb => return verb.action (← verb.grammar.readAll arguments)
  | none => throw .invalidCommand

/-- Reads a command line.  Faults after the command are found before those of the last option in
front of it. -/
def read (arguments : List String) : Except UsageError CommandLine := do
  match ← programGrammar.read arguments {} with
  | (reading, some (name, rest)) =>
      let action ← readVerb name rest
      let reading ← reading.resolve
      return { connection := .ofArguments reading.given, action }
  | (reading, none) =>
      let reading ← reading.resolve
      throw (if reading.given.isEmpty then .displayHelpOnMissingCommand else .missingCommand)

end CommandLine

end Cli

end SmpClient
