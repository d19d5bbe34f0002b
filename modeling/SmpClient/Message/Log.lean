import SmpClient.Message.Basic

/-!
# Messages about logs, statistics and settings

Log entries and what modules and levels are called, counters by group, and named settings.
-/

namespace SmpClient

/-- One entry of a log.  The message is a text or bytes, as its kind of entry wants. -/
structure LogEntry where
  content : Cbor.Value
  timestamp : Int := 0
  level : Nat := 0
  index : Nat := 0
  source : Nat := 0
  deriving Inhabited

/-- Only the message must be there. -/
def LogEntry.read : Cbor.Reader LogEntry := fun value => do
  let fields ← Cbor.Reader.fields ["msg", "ts", "level", "index", "module"] value
  return {
    content := ← fields.required "msg" Cbor.Reader.value
    timestamp := ← fields.optional "ts" 0 Cbor.Reader.int64
    level := ← fields.optional "level" 0 Cbor.Reader.nat32
    index := ← fields.optional "index" 0 Cbor.Reader.nat64
    source := ← fields.optional "module" 0 Cbor.Reader.nat32 }

/-- Entries of one log. -/
structure Log where
  name : String
  kind : Nat := 0
  entries : List LogEntry := []
  deriving Inhabited

/-- Only the name must be there. -/
def Log.read : Cbor.Reader Log := fun value => do
  let fields ← Cbor.Reader.fields ["name", "type", "entries"] value
  return {
    name := ← fields.required "name" Cbor.Reader.text
    kind := ← fields.optional "type" 0 Cbor.Reader.nat32
    entries := ← fields.optional "entries" [] (Cbor.Reader.list LogEntry.read) }

/-- A page of log entries, and the index at which the next one starts. -/
structure LogPage where
  nextIndex : Nat := 0
  logs : List Log := []
  deriving Inhabited

/-- Both fields may be left out. -/
def LogPage.read : Cbor.Reader LogPage := fun value => do
  let fields ← Cbor.Reader.fields ["next_index", "logs"] value
  return {
    nextIndex := ← fields.optional "next_index" 0 Cbor.Reader.nat64
    logs := ← fields.optional "logs" [] (Cbor.Reader.list Log.read) }

/-- The number of entries on a page. -/
def LogPage.entryCount (page : LogPage) : Nat :=
  page.logs.foldl (fun count log => count + log.entries.length) 0

/-- Numbers by name, as the device lists its log modules or its log levels. -/
def readNumberTable (field : String) : Cbor.Reader (List (String × Nat)) := fun value => do
  let fields ← Cbor.Reader.fields [field] value
  fields.optional field [] (Cbor.Reader.table Cbor.Reader.nat32)

/-- Names, as the device lists its logs or its groups of statistics. -/
def readNameList (field : String) : Cbor.Reader (List String) := fun value => do
  let fields ← Cbor.Reader.fields [field] value
  fields.optional field [] (Cbor.Reader.list Cbor.Reader.text)

/-- The counters of one group. -/
structure Statistics where
  name : String
  counters : List (String × Int) := []
  deriving DecidableEq, Inhabited

/-- Only the name must be there. -/
def Statistics.read : Cbor.Reader Statistics := fun value => do
  let fields ← Cbor.Reader.fields ["name", "fields"] value
  return {
    name := ← fields.required "name" Cbor.Reader.text
    counters := ← fields.optional "fields" [] (Cbor.Reader.table Cbor.Reader.int64) }

instance : Cbor.Payload Statistics where
  toValue group := .record [("name", .text group.name), ("fields", .table .int group.counters)]

/-- The value of a setting. -/
structure Setting where
  value : Bytes := []
  deriving DecidableEq, Inhabited

/-- The value may be left out. -/
def Setting.read : Cbor.Reader Setting := fun value => do
  let fields ← Cbor.Reader.fields ["val"] value
  return { value := ← fields.optional "val" [] Cbor.Reader.blob }

instance : Cbor.Payload Setting where
  toValue setting := .record [("val", .bytes setting.value)]

namespace Message

open Cbor.Value (optionalField)

/-- Asks for log entries from an index and a time on. -/
def showLogs (name : Option String) (index : Option Nat) (timestamp : Option Int) : Cbor.Value :=
  .record (optionalField "log_name" name .text ++ optionalField "index" index .nat ++
    optionalField "ts" timestamp .int)

/-- Asks for the counters of a group. -/
def readStatistics (name : String) : Cbor.Value :=
  .record [("name", .text name)]

/-- Asks for the value of a setting, of at most `maximum` bytes. -/
def readSetting (name : String) (maximum : Option Nat) : Cbor.Value :=
  .record ([("name", .text name)] ++ optionalField "max_size" maximum .nat)

def writeSetting (name : String) (value : Bytes) : Cbor.Value :=
  .record [("name", .text name), ("val", .bytes value)]

def deleteSetting (name : String) : Cbor.Value :=
  .record [("name", .text name)]

end Message

end SmpClient
