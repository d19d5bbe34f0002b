import SmpClient.Bench.Run
import SmpClient.Cli.Job

/-!
# Carrying out commands on a scripted link

The files are those of one folder, held in memory, which lies in others.  A path is followed part
by part, and leads to a folder or to a name, which need not stand for anything yet.
-/

namespace SmpClient

namespace Bench

/-- The files of a folder. -/
structure Folder where
  files : List (String × Bytes) := []

namespace Folder

/-- Why a path cannot be used. -/
inductive BadPath
  | noSuchFile
  /-- The path goes on after a file. -/
  | notAFolder
  | isAFolder
  | tooLong
  | nul
  deriving DecidableEq

/-- The cause in words. -/
def BadPath.message : BadPath → String
  | .noSuchFile => "No such file or directory (os error 2)"
  | .notAFolder => "Not a directory (os error 20)"
  | .isAFolder => "Is a directory (os error 21)"
  | .tooLong => "File name too long (os error 36)"
  | .nul => "file name contained an unexpected NUL byte"

/-- The bytes that a name may have at most. -/
def maxName : Nat := 255

/-- The bytes that a path may have at most. -/
def maxPath : Nat := 4095

def rootFolders : List String :=
  ["bin", "boot", "dev", "etc", "home", "lib", "media", "mnt", "opt", "proc", "root", "run", "sbin",
    "srv", "sys", "tmp", "usr", "var"]

/-- A folder that a path has come to. -/
inductive Standing
  /-- The folder of the files. -/
  | inside
  /-- A folder around it, of which nothing else is known. -/
  | around
  | root
  /-- One of the folders at the root. -/
  | below (name : String)
  deriving DecidableEq

def Standing.up : Standing → Standing
  | .inside | .around => .around
  | .root | .below _ => .root

/-- What a name stands for. -/
inductive Found
  | file (content : Bytes)
  | folder (standing : Standing)

/-- Where a path leads. -/
inductive Place
  /-- A name, in the folder that the path has come to. -/
  | entry (standing : Standing) (name : String)
  | folder
  deriving DecidableEq

/-- What a name stands for in a folder, if it stands for anything.  The null device is a file
without content. -/
def lookup? (folder : Folder) (standing : Standing) (name : String) : Option Found :=
  match standing with
  | .inside => (folder.files.lookup name).map .file
  | .around => none
  | .root => if rootFolders.contains name then some (.folder (.below name)) else none
  | .below parent => if parent = "dev" ∧ name = "null" then some (.file []) else none

/-- What a name stands for in a folder. -/
def find (folder : Folder) (standing : Standing) (name : String) : Except BadPath Found :=
  if maxName < name.utf8ByteSize then .error .tooLong
  else match folder.lookup? standing name with
    | some found => .ok found
    | none => .error .noSuchFile

def follow (folder : Folder) : Standing → List String → Except BadPath Place
  | _, [] => .ok .folder
  | standing, name :: rest =>
      if name = "." then follow folder standing rest
      else if name = ".." then follow folder standing.up rest
      else if rest.isEmpty then .ok (.entry standing name)
      else match folder.find standing name with
        | .ok (.folder standing) => follow folder standing rest
        | .ok (.file _) => .error .notAFolder
        | .error failure => .error failure

def place (path : String) (folder : Folder) : Except BadPath Place :=
  if path.contains '\x00' then .error .nul
  else if path.isEmpty then .error .noSuchFile
  else if maxPath < path.utf8ByteSize then .error .tooLong
  else folder.follow (if path.startsWith "/" then .root else .inside)
    ((path.splitOn "/").filter (· != ""))

def read (path : String) (folder : Folder) : Except BadPath Bytes := do
  match ← folder.place path with
  | .folder => throw .isAFolder
  | .entry standing name =>
      match ← folder.find standing name with
      | .folder _ => throw .isAFolder
      | .file content => if path.endsWith "/" then throw .notAFolder else return content

/-- The folder after a file is written.  A file in another folder is not kept. -/
def write (path : String) (content : Bytes) (folder : Folder) : Except BadPath Folder := do
  match ← folder.place path with
  | .folder => throw .isAFolder
  | .entry standing name =>
      if path.endsWith "/" then throw .isAFolder
      if maxName < name.utf8ByteSize then throw .tooLong
      match folder.lookup? standing name with
      | some (.folder _) => throw .isAFolder
      | _ =>
          if standing = .inside then
            return { files :=
              (name, content) :: folder.files.filter fun entry => entry.1 != name }
          else return folder

/-- Writes the file that a command leaves, if it leaves one; gives what it prints. -/
def finish (done : Cli.Done) (folder : Folder) : Except Cli.Failure String × Folder :=
  match done.file with
  | none => (.ok done.text, folder)
  | some (path, content) =>
      match folder.write path content with
      | .ok folder => (.ok done.text, folder)
      | .error reason => (.error (.file reason.message), folder)

/-- Carries out an action; gives what it prints, if it comes to an end. -/
def carryOut (action : Cli.Action) (link : Link) (folder : Folder) :
    Option (Except Cli.Failure String × Folder × Link) :=
  let read := fun path => (folder.read path).mapError BadPath.message
  match Id.run (action.job (m := Id) read link.scheme link.mtu).run with
  | .error failure => some (.error failure, folder, link)
  | .ok job =>
      match link.run Cli.Job.machine job with
      | (none, _) => none
      | (some (.error failure), _, link) => some (.error failure, folder, link)
      | (some (.ok done), _, link) =>
          let (printed, folder) := folder.finish done
          some (printed, folder, link)

end Folder

end Bench

end SmpClient
