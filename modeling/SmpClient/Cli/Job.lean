import SmpClient.Cli.CommandLine
import SmpClient.Cli.Report
import SmpClient.Command.File
import SmpClient.Command.LogReader
import SmpClient.Transfer.Download
import SmpClient.Upgrade.Session

/-!
# Carrying out a command

What the program is told to do becomes a job: a machine that ends with what is printed and with
the file that is written.  Files are read before the job begins.
-/

namespace SmpClient

namespace Cli

/-- What comes of a command that was carried out. -/
structure Done where
  text : String := ""
  /-- A file to be written, with its path. -/
  file : Option (String × Bytes) := none

/-- Why a command was not carried out. -/
inductive Failure
  | link (error : Error)
  /-- A file cannot be read or written, for this reason. -/
  | file (reason : String)
  | badHash (reason : Bytes.HexError)
  | badValue (reason : Bytes.HexError)
  | nothingToExecute
  | upgradeFailed (state : UpgradeState) (error : Error)
  | upgradeCanceled (state : UpgradeState)
  | noOutcome

/-- The cause in words. -/
def Failure.message : Failure → String
  | .link error => error.message
  | .file reason => reason
  | .badHash reason => reason.message
  | .badValue reason => "Invalid hex value: " ++ reason.message
  | .nothingToExecute => "No command provided"
  | .upgradeFailed state error =>
      "upgrade failed in state " ++ state.name ++ ": " ++ error.message
  | .upgradeCanceled state => "upgrade canceled in state " ++ state.name
  | .noOutcome => "upgrade ended without an outcome"

/-- A command on its way. -/
inductive Job
  | asking (running : Command.Running Done)
  | readingLogs (reader : LogReader)
  | uploading (upload : UploadJob)
  | downloading (download : DownloadJob) (path : String)
  /-- An upgrade, with the outcome that it has reported. -/
  | upgrading (session : Session) (outcome : Option SessionNote)

namespace Job

/-- What comes of an upgrade with the outcome that it has reported. -/
def upgraded : Option SessionNote → Except Failure Done
  | some .completed => .ok {}
  | some (.failed state error) => .error (.upgradeFailed state error)
  | some (.canceled state) => .error (.upgradeCanceled state)
  | _ => .error .noOutcome

/-- The outcome of an upgrade after it has told a note. -/
def outcomeAfter (note : SessionNote) (outcome : Option SessionNote) : Option SessionNote :=
  match note with
  | .completed | .failed _ _ | .canceled _ => outcome.or (some note)
  | _ => outcome

/-- The end of a job on the link. -/
def ended {α : Type} (report : α → Done) (result : Except Error α) : Except Failure Done :=
  (result.map report).mapError .link

def need : Job → Need Unit (Except Failure Done)
  | .asking running => running.need.map (fun _ => ()) (ended id)
  | .readingLogs reader =>
      reader.need.map (fun _ => ()) (ended fun logs => { text := Report.logs logs })
  | .uploading upload =>
      (UploadJob.machine.need upload).map (fun _ => ()) (ended fun _ => {})
  | .downloading download path =>
      (DownloadJob.machine.need download).map (fun _ => ())
        (ended fun content => { file := some (path, content) })
  | .upgrading session outcome => session.need.map (fun _ => ()) fun _ => upgraded outcome

/-- Takes in a reply. -/
def feed (reply : Reply) : Job → Job
  | .asking running => .asking (running.feed reply)
  | .readingLogs reader => .readingLogs (reader.feed reply)
  | .uploading upload => .uploading (UploadJob.machine.feed reply upload)
  | .downloading download path => .downloading (DownloadJob.machine.feed reply download) path
  | .upgrading session outcome =>
      let outcome := match session.need with
        | .tell note => outcomeAfter note outcome
        | _ => outcome
      .upgrading (session.feed reply) outcome

/-- The job after a signal.  Nobody controls a job from outside: only the loss of the link reaches
it, and that only an upgrade. -/
def signal (signal : Signal) : Job → Bool × Job
  | .upgrading session outcome =>
      match signal with
      | .dropped =>
          let (accepted, session) := session.signal .dropped
          (accepted, .upgrading session outcome)
      | _ => (false, .upgrading session outcome)
  | job => (false, job)

def seq : Job → UInt8
  | .asking running => running.seq
  | .readingLogs reader => reader.seq
  | .uploading upload => UploadJob.machine.seq upload
  | .downloading download _ => DownloadJob.machine.seq download
  | .upgrading session _ => session.seq

/-- Jobs as machines. -/
def machine : Machine Job Unit (Except Failure Done) where
  need := need
  feed := feed
  signal := signal
  seq := seq

end Job

namespace Action

/-- Where a job begins: the first sequence number is zero. -/
def asking {α : Type} (scheme : Scheme) (command : Command α) (text : α → String) : Job :=
  .asking ((command.map fun answer => { text := text answer : Done }).start scheme 0)

/-- A command that prints one line when it is done. -/
def telling (scheme : Scheme) (command : Command Unit) (line : String) : Job :=
  asking scheme command fun _ => Report.lines [line]

/-- A hash as it is typed. -/
def hashOf (text : String) : Except Failure Bytes :=
  (Bytes.ofHex text).mapError .badHash

variable {m : Type → Type} [Monad m] (read : String → m (Except String Bytes))

def fileAt (path : String) : ExceptT Failure m Bytes := do
  match ← read path with
  | .ok content => return content
  | .error reason => throw (.file reason)

/-- The images in files, the first of them image zero. -/
def imagesAt : (index : Nat) → List String → ImageSet → ExceptT Failure m ImageSet
  | _, [], images => return images
  | index, path :: rest, images => do
      let content ← fileAt read path
      match images.addFile index content with
      | .ok images => imagesAt (index + 1) rest images
      | .error failure => throw (.link failure)

/-- The job that an action is, on a link of some scheme and packet length; `read` reads files. -/
def job (scheme : Scheme) (mtu : Nat) (action : Action) : ExceptT Failure m Job := do
  let asking {α : Type} := asking (α := α) scheme
  let telling := telling scheme
  let quiet := fun (command : Command Unit) => asking command fun _ => ""
  let upload := fun destination data options =>
    let plan := UploadJob.plan scheme mtu destination data options
    Job.uploading (UploadJob.start plan options.window 0 0 {})
  match action with
  | .list => return asking .images Report.images
  | .upload path image window =>
      return upload (.image image) (← fileAt read path) { window }
  | .test hash forGood =>
      let hash ← hashOf hash
      return asking (if forGood then .confirmImage (some hash) else .testImage hash) Report.images
  | .confirm hash =>
      let hash ← (hash.mapM hashOf : Except Failure _)
      return asking (.confirmImage hash) Report.images
  | .erase slot => return quiet (.eraseImage slot)
  | .upgrade paths mode window alignment swapNanoseconds eraseSettings =>
      let images ← imagesAt read 0 paths {}
      let settings : UpgradeSettings :=
        { swapTime := swapNanoseconds / 1000000, eraseSettings
          upload := UpgradeSettings.uploadOptions window alignment }
      match Session.start scheme mtu settings images mode 0 with
      | .ok session => return .upgrading session none
      | .error failure => throw (.link failure)
  | .reset force => return quiet (.reset force)
  | .echo message => return asking (.echo message) Report.echo
  | .tasks => return asking .tasks Report.tasks
  | .parameters => return asking .parameters Report.parameters
  | .systemInfo format => return asking (.systemInfo (some format)) Report.systemInfo
  | .bootloaderInfo query => return asking (.bootloaderInfo query) Report.bootloaderInfo
  | .shell words =>
      if words.isEmpty then throw .nothingToExecute
      return asking (.shell words) ShellOutput.output
  | .download remote destination =>
      return .downloading (DownloadJob.start scheme remote 0 {}) destination
  | .store source remote => return upload (.file remote) (← fileAt read source) {}
  | .fileStatus path => return asking (.fileStatus path) (Report.fileStatus path)
  | .fileHash path kind =>
      return asking (.fileHash path kind none none) (Report.fileHash path)
  | .hashKinds => return asking .hashKinds Report.hashKinds
  | .statisticsGroups => return asking .statisticsGroups Report.statisticsGroups
  | .statistics name => return asking (.statistics name) Report.statistics
  | .readSetting name maximum => return asking (.setting name maximum) (Report.setting name)
  | .writeSetting name value =>
      let value ← (Bytes.ofHex value).mapError Failure.badValue
      return asking (.writeSetting name value) fun _ => Report.settingDone name "written"
  | .deleteSetting name =>
      return asking (.deleteSetting name) fun _ => Report.settingDone name "deleted"
  | .commitSettings => return telling .commitSettings "Settings committed successfully"
  | .loadSettings => return telling .loadSettings "Settings loaded successfully"
  | .saveSettings => return telling .saveSettings "Settings saved successfully"
  | .eraseStorage => return telling .eraseStorage "Storage erased"
  | .showLogs name => return .readingLogs (LogReader.start scheme name 0)
  | .clearLogs => return telling .clearLogs "Logs cleared"

end Action

end Cli

end SmpClient
