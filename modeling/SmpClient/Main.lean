import SmpClient.Cli.Job

/-!
# The program

Reads the command line, carries out its command on a serial port, and prints what comes of it.
Everything that is decided here is decided by the library; this module opens, reads and writes.
-/

namespace SmpClient

namespace Program

/-- Bytes as files and ports take them. -/
def packed (bytes : Bytes) : ByteArray := ⟨bytes.toArray⟩

/-- The usual reasons for which a file cannot be used, in words. -/
def reason : IO.Error → String
  | .noFileOrDirectory .. => "No such file or directory (os error 2)"
  | .permissionDenied .. => "Permission denied (os error 13)"
  | failure => toString failure

def readFile (path : String) : IO (Except String Bytes) := do
  try return .ok (← IO.FS.readBinFile path).toList
  catch failure => return .error (reason failure)

def writeFile (path : String) (content : Bytes) : IO (Except Cli.Failure Unit) := do
  try return .ok (← IO.FS.writeBinFile path (packed content))
  catch failure => return .error (.file (reason failure))

/-- Reads one frame from a port, after what was read of it before. -/
partial def receive (port : IO.FS.Handle) (before : Bytes) : IO (Except Error Bytes) := do
  let more ← port.read 1
  if more.isEmpty then return .error (.io "failed to fill whole buffer")
  let input := before ++ more.toList
  match Frame.receive .timeout input with
  | (.error .timeout, _) => receive port input
  | (outcome, _) => return outcome

/-- Sends a packet and waits for the response. -/
def exchange (port : IO.FS.Handle) (settings : SerialSettings) (packet : Bytes)
    (kind : ResponseKind) : IO (Except Error Response) := do
  if settings.mtu < packet.length then
    return .error (.insufficientMtu packet.length settings.mtu)
  let prepared : Except Error (Header × Bytes) := do
    return (← Packet.header .serial packet, ← Frame.encode settings.lineLength packet)
  match prepared with
  | .error failure => return .error failure
  | .ok (request, frame) =>
      port.write (packed frame)
      port.flush
      let answer ← receive port []
      return do Response.decode .serial (← SerialLink.matching request (← answer)) kind

/-- Runs a job to its end; `inbox` holds acknowledgements that nobody has collected yet. -/
partial def run (port : IO.FS.Handle) (settings : SerialSettings) (inbox : List Reply)
    (job : Cli.Job) : IO (Except Cli.Failure Cli.Done) := do
  match job.need with
  | .step | .tell _ => run port settings inbox (job.feed .ready)
  | .exchange packet kind =>
      let outcome ← exchange port settings packet kind
      run port settings inbox (job.feed (.answer outcome))
  | .post packet kind ticket =>
      let outcome ← exchange port settings packet kind
      run port settings (inbox ++ [.acknowledgement ticket outcome]) (job.feed .ready)
  | .collect =>
      match inbox with
      | reply :: inbox => run port settings inbox (job.feed reply)
      | [] => return .error (.link .timeout)
  | .wake => return .error (.link .aborted)
  | .connect => run port settings inbox (job.feed (.connected (.ok ())))
  | .awaitDrop milliseconds =>
      IO.sleep milliseconds.toUInt32
      run port settings inbox (job.feed .silence)
  | .sleep milliseconds =>
      IO.sleep milliseconds.toUInt32
      run port settings inbox (job.feed .ready)
  | .finished result => return result

def carryOut (line : Cli.CommandLine) : IO (Except Cli.Failure Unit) := do
  match line.connection with
  | .udp _ => return .error (.link (.io "this program has no datagram sockets"))
  | .serial settings =>
      match ← (line.action.job readFile .serial settings.mtu).run with
      | .error failure => return .error failure
      | .ok job =>
          let port ← IO.FS.Handle.mk settings.device .readWrite
          match ← run port settings [] job with
          | .error failure => return .error failure
          | .ok done =>
              IO.print done.text
              match done.file with
              | some (path, content) => writeFile path content
              | none => return .ok ()

/-- The program on the words of a command line; gives its exit code. -/
def start (words : List String) : IO UInt32 := do
  match Cli.CommandLine.read words with
  | .error .displayHelp | .error .displayVersion =>
      IO.println (", ".intercalate (Cli.verbs.map Cli.Verb.name))
      return 0
  | .error failure =>
      IO.eprintln ("error: " ++ failure.name)
      return 2
  | .ok line =>
      try
        match ← carryOut line with
        | .ok () => return 0
        | .error failure =>
            IO.eprintln ("Error: " ++ failure.message)
            return 1
      catch failure =>
        IO.eprintln ("Error: " ++ reason failure)
        return 1

end Program

end SmpClient

def main (words : List String) : IO UInt32 :=
  SmpClient.Program.start words
