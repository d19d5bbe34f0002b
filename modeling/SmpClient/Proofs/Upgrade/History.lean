import SmpClient.Proofs.Machine.Logged
import SmpClient.Proofs.Machine.Trace
import SmpClient.Proofs.Upgrade.TaskOrder
import SmpClient.Upgrade.Session

/-!
# The history of an upgrade

Of a session one can see what it tells its owner, which tasks it performs with what results, how the
device lists its images, and the packets that it sends.  A log keeps what matters later.
-/

namespace SmpClient

namespace Session

inductive Happening
  | told (note : SessionNote)
  | began (task : Task)
  /-- The task that was begun last has ended. -/
  | returned (result : Except Error (List Task))
  /-- The device has listed its images. -/
  | listed (slots : ImageState)
  | sent (packet : Bytes)

/-- What a reply brings about in the tasks. -/
def turns (session : Session) (reply : Reply) : List Happening :=
  match session.phase, reply with
  | .performing task, .ready => [.began task]
  | .performed result, .ready => [.returned result]
  | .asking (.slots _ _) packet, .answer outcome =>
      match Command.images.conclude session.scheme packet outcome with
      | .ok slots => [.listed slots]
      | .error _ => []
  | _, _ => []

/-- What a reply brings about, apart from packets. -/
def notices (session : Session) (reply : Reply) : List Happening :=
  ((machine.need session).notes reply).map .told ++ session.turns reply

/-- What an event brings about. -/
def happenings (session : Session) : Event → List Happening
  | .reply reply =>
      session.notices reply ++ (machine.hands session (.reply reply)).map .sent
  | .signal _ => []

/-- What happens in a session. -/
def history (events : List Event) (session : Session) : List Happening :=
  machine.trace happenings events session

/-- What was seen of a session. -/
structure Log where
  begun : List Task := []
  returned : List (Except Error (List Task)) := []
  /-- The last list of images. -/
  listed : Option ImageState := none
  /-- Whether a reset has ended well since the last list of images. -/
  reset : Bool := false
  /-- Whether the upgrade was said to be complete. -/
  completed : Bool := false

namespace Log

def add (log : Log) : Happening → Log
  | .told .completed => { log with completed := true }
  | .told _ => log
  | .began task => { log with begun := log.begun ++ [task] }
  | .returned result =>
      { log with
        returned := log.returned ++ [result]
        reset := log.reset || (log.begun.getLast? = some .reset && result.toBool) }
  | .listed slots => { log with listed := some slots, reset := false }
  | .sent _ => log

/-- The log with more that happened. -/
def addAll (log : Log) (history : List Happening) : Log :=
  history.foldl add log

/-- The log of all that happened. -/
def of (history : List Happening) : Log :=
  addAll {} history

@[simp]
theorem addAll_nil (log : Log) : log.addAll [] = log :=
  rfl

@[simp]
theorem addAll_cons (log : Log) (happening : Happening) (history : List Happening) :
    log.addAll (happening :: history) = (log.add happening).addAll history :=
  rfl

@[simp]
theorem addAll_append (log : Log) (first second : List Happening) :
    log.addAll (first ++ second) = (log.addAll first).addAll second :=
  List.foldl_append

theorem of_append (first second : List Happening) : of (first ++ second) = (of first).addAll second :=
  addAll_append {} first second

/-- Packets are not kept. -/
@[simp]
theorem addAll_sent (log : Log) (packets : List Bytes) :
    log.addAll (packets.map .sent) = log := by
  induction packets with
  | nil => rfl
  | cons packet packets ih => exact ih

theorem begun_isPrefix_addAll (log : Log) (history : List Happening) :
    log.begun <+: (log.addAll history).begun := by
  induction history generalizing log with
  | nil => exact List.prefix_refl _
  | cons happening history ih =>
      have added : log.begun <+: (log.add happening).begun := by
        cases happening with
        | began task => exact List.prefix_append _ _
        | told note => cases note <;> exact List.prefix_refl _
        | _ => exact List.prefix_refl _
      exact added.trans (ih (log.add happening))

theorem completed_addAll {log : Log} {history : List Happening}
    (said : log.completed = true ∨ .told .completed ∈ history) :
    (log.addAll history).completed = true := by
  induction history generalizing log with
  | nil =>
      rcases said with said | member
      · exact said
      · cases member
  | cons happening history ih =>
      rw [addAll_cons]
      refine ih ?_
      rcases said with said | member
      · left
        cases happening with
        | told note => cases note <;> first | rfl | exact said
        | _ => exact said
      · rcases List.mem_cons.mp member with rfl | later
        · exact .inl rfl
        · exact .inr later

theorem addAll_happenings (log : Log) (session : Session) (reply : Reply) :
    log.addAll (session.happenings (.reply reply)) = log.addAll (session.notices reply) := by
  rw [happenings, addAll_append, addAll_sent]

end Log

/-! ## What stays -/

/-- What an upgrade was told to do. -/
def brief (session : Session) : Scheme × UpgradeSettings × List TargetImage × UpgradeMode :=
  (session.scheme, session.settings, session.images, session.mode)

/-- What is to be done when the device lists its slots. -/
def plan (session : Session) (attempt : Nat) (slots : ImageState)
    (bootloader : Option BootloaderMode) : Plan :=
  { images := session.images, mode := session.mode, slots, bootloader,
    eraseSettings := session.settings.eraseSettings, attempt }

end Session

end SmpClient
