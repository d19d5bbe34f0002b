import SmpClient.Command.Record

/-!
# Reading all logs

A device sends log entries page by page.  Each page names the index at which the next one
starts; the last page is the one that brings nothing, or that does not move the index.
-/

namespace SmpClient

/-- The reading of all pages, on its way. -/
structure LogReader where
  scheme : Scheme
  /-- The log that is read; all of them if none is named. -/
  name : Option String
  seq : UInt8
  /-- What has been read. -/
  logs : List Log := []
  /-- The index that the page asked for starts at. -/
  index : Option Nat := none
  phase : Command.State LogPage

namespace LogReader

/-- Adds entries to the first log of the same name, or as a log of its own. -/
def mergeLog (log : Log) : List Log → List Log
  | [] => [log]
  | present :: rest =>
      if present.name = log.name then
        { present with entries := present.entries ++ log.entries } :: rest
      else present :: mergeLog log rest

def merge (logs : List Log) (page : LogPage) : List Log :=
  page.logs.foldl (fun logs log => mergeLog log logs) logs

/-- Asks for the page that starts at an index. -/
def ask (scheme : Scheme) (name : Option String) (seq : UInt8) (logs : List Log)
    (index : Option Nat) : LogReader :=
  let running := (Command.logPage name index).start scheme seq
  { scheme, name, seq := running.seq, logs, index, phase := running.state }

def start (scheme : Scheme) (name : Option String) (seq : UInt8) : LogReader :=
  ask scheme name seq [] none

def isLast (reader : LogReader) (page : LogPage) : Bool :=
  page.entryCount == 0 || reader.index == some page.nextIndex

/-- Takes in a page. -/
def advance (page : LogPage) (reader : LogReader) : LogReader :=
  let logs := merge reader.logs page
  if reader.isLast page then { reader with logs, phase := .done (.ok page) }
  else ask reader.scheme reader.name reader.seq logs (some page.nextIndex)

def need (reader : LogReader) : Need Empty (Except Error (List Log)) :=
  match reader.phase with
  | .asking command _ packet => .exchange packet command.kind
  | .done result => .finished (result.map fun _ => reader.logs)

/-- Takes in an answer. -/
def feed (reply : Reply) (reader : LogReader) : LogReader :=
  match reader.phase, reply with
  | .asking command scheme packet, .answer outcome =>
      match command.conclude scheme packet outcome with
      | .ok page => reader.advance page
      | .error failure => { reader with phase := .done (.error failure) }
  | _, _ => reader

/-- The reading of all logs as a machine, which no signal reaches. -/
def machine : Machine LogReader Empty (Except Error (List Log)) where
  need := need
  feed := feed
  signal := fun _ reader => (false, reader)
  seq := LogReader.seq

end LogReader

end SmpClient
