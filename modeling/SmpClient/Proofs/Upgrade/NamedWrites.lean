import SmpClient.Proofs.Upgrade.MarkedByMode

/-!
# Which image a request names

A request that marks an image is made for the task that is on its way, and names the image of that task
by its hash.  A message leaves out an empty hash, and a device takes a request without one for the image
that runs.  So a session names its images if and only if all of them have hashes.
-/

namespace SmpClient

namespace Packet

open Cbor.Value (PlainFields)

/-- What a device reads under a name in the payload of a packet. -/
def field? (scheme : Scheme) (packet : Bytes) (name : String) : Option Cbor.Value :=
  match Cbor.Value.decode (Response.payloadOf scheme packet) with
  | .ok (.map entries) => Cbor.Value.entry? entries name
  | _ => none

theorem field?_build {scheme : Scheme} {op : Op} {group : UInt16} {seq id : UInt8}
    {fields : List (String × Cbor.Value)} {packet : Bytes} (plain : PlainFields fields)
    (unreserved : headerKey ∉ fields.map Prod.fst) (count : fields.length ≤ 8)
    (built : build scheme op 0 group seq id (.record fields) = .ok packet) {name : String}
    (other : name ≠ headerKey) : field? scheme packet name = fields.lookup name := by
  obtain ⟨entries, decoded, found⟩ := decode_build plain unreserved (by omega) built
  rw [field?, decoded]
  exact found name other

end Packet

theorem Marking.field?_of_read? {scheme : Scheme} {packet : Bytes} {marking : Marking}
    (read : Marking.read? scheme packet = some marking) :
    Packet.field? scheme packet "hash" = some (.bytes marking.hash) := by
  rw [Marking.read?] at read
  split at read
  · rename_i entries decoded
    rw [Packet.field?, decoded]
    split at read
    · rename_i hash confirm found _
      rw [← Option.some.inj read]
      exact found
    · cases read
  · cases read

namespace Session

namespace Question

variable {scheme : Scheme} {seq : UInt8} {packet : Bytes}

/-- A request to mark an image names it, unless its hash is empty. -/
theorem field?_markImage {hash : Bytes} (hash_lt : hash.length < 2 ^ 64) {confirm : Bool}
    (built : (Command.markImage hash confirm).packet scheme seq = .ok packet) :
    (∃ header, Packet.header scheme packet = .ok header ∧ header.marksImages = true) ∧
      Packet.field? scheme packet "hash" = if hash = [] then none else some (.bytes hash) := by
  by_cases unnamed : hash = []
  · have plain : Cbor.Value.PlainFields [("confirm", .bool confirm)] :=
      Cbor.Value.PlainFields.nil.cons (by simp) (by decide +kernel) (by simp [Cbor.Value.canonical])
        (fun _ => trivial) (by simp)
    have unreserved : Packet.headerKey ∉ [("confirm", Cbor.Value.bool confirm)].map Prod.fst := by
      simp [Packet.headerKey]
    have messageEq : Message.markImage hash (some confirm) = .record [("confirm", .bool confirm)] := by
      simp [Message.markImage, Cbor.Value.optionalField, unnamed]
    simp only [Command.packet, Command.markImage, Command.asking, messageEq] at built
    refine ⟨Packet.marksImages_build plain unreserved (by simp) built, ?_⟩
    rw [Packet.field?_build plain unreserved (by simp) built (by decide), if_pos unnamed]
    rfl
  · obtain ⟨marks, read⟩ := marks_of_markImage unnamed hash_lt built
    refine ⟨marks, ?_⟩
    rw [if_neg unnamed]
    exact Marking.field?_of_read? read

/-- A request that marks an image is one for a target, which it names if it can. -/
theorem field?_packet {question : Question}
    (addressable : ∀ target ∈ question.target?, target.Addressable)
    (built : question.packet scheme seq = .ok packet) :
    ∃ header, Packet.header scheme packet = .ok header ∧
      (header.marksImages = true → ∃ target ∈ question.target?,
        Packet.field? scheme packet "hash" =
          if target.hash = [] then none else some (.bytes target.hash)) := by
  cases question with
  | test target | confirm target =>
      obtain ⟨⟨header, read, -⟩, entryEq⟩ := field?_markImage (addressable target rfl).hash_lt built
      exact ⟨header, read, fun _ => ⟨target, rfl, entryEq⟩⟩
  | _ =>
      obtain ⟨⟨header, read, marksEq⟩, -⟩ := marksImages_packet (fun target names => by cases names) built
      exact ⟨header, read, fun marks => by cases marksEq.symm.trans marks⟩

end Question

variable {origin session : Session} {events : List Event}

/-- A request that names an image is made for a task for that image. -/
theorem target?_of_serves {question : Question} {task : Task} (serves : question.Serves task) :
    ∀ target ∈ question.target?, task.target? = some target := by
  intro target names
  cases question with
  | test named =>
      obtain rfl : task = .test named := serves
      exact names
  | confirm named => rcases serves with rfl | rfl <;> exact names
  | _ => cases names

/-- Every packet that an upgrade sends has a header, and if it writes the state of images it is for the
image of the task that has begun last.  It names that image by its hash, unless the hash is empty: then
it names none. -/
theorem named_of_sent {scheme : Scheme} {mtu : Nat} {settings : UpgradeSettings} {images : ImageSet}
    {mode : UpgradeMode} {seq : UInt8}
    (started : start scheme mtu settings images mode seq = .ok origin)
    (addressable : ∀ target ∈ images.images, target.Addressable) (events : List Event)
    (before after : List Happening) (packet : Bytes)
    (split : history events origin = before ++ .sent packet :: after) :
    ∃ header, Packet.header scheme packet = .ok header ∧
      (header.marksImages = true → ∃ target ∈ images.images,
        (Log.of before).begun.getLast?.bind Task.target? = some target ∧
          Packet.field? scheme packet "hash" =
            if target.hash = [] then none else some (.bytes target.hash)) := by
  have fresh := isFresh_of_start started
  have briefEq := brief_of_start started
  have schemeEq : origin.scheme = scheme := congrArg Prod.fst briefEq
  have imagesEq : origin.images = images.images := congrArg (fun brief => brief.2.2.1) briefEq
  obtain ⟨sent, logEq, handed⟩ := exists_of_sent split
  have speaks := speaks_after fresh sent
  rw [logEq]
  rcases sends_of_packet? handed with ⟨question, phaseEq⟩ | ⟨job, phaseEq, jobHanded⟩
  · obtain ⟨completed, ahead, task, stage, begunEq, -, -, serves, -⟩ :=
      (course_after fresh sent).1.of_working (.inl (congrArg Phase.isWorking phaseEq))
    rw [phaseEq] at speaks serves
    obtain ⟨seq, built⟩ := speaks
    rw [schemeEq] at built
    have member : ∀ target ∈ question.target?, target ∈ images.images := by
      rw [← imagesEq]
      exact target_mem_of_serves serves stage
    obtain ⟨header, read, names⟩ := Question.field?_packet
      (fun target named => addressable target (member target named)) built
    refine ⟨header, read, fun marks => ?_⟩
    obtain ⟨target, named, entryEq⟩ := names marks
    refine ⟨target, member target named, ?_, entryEq⟩
    rw [begunEq, List.getLast?_append, List.getLast?_singleton]
    exact target?_of_serves serves target named
  · rw [phaseEq] at speaks
    obtain ⟨target, member, mtu, options, underway⟩ := speaks
    have fits := addressable target (imagesEq ▸ member)
    have holds : (UploadJob.plan origin.scheme mtu (.image target.index) target.data
        options).Addressable := ⟨fits.data_lt, fits.index_lt⟩
    obtain ⟨header, read, marksEq⟩ := (underway.sends jobHanded).marksImages holds rfl
    refine ⟨header, schemeEq ▸ read, fun marks => ?_⟩
    cases marksEq.symm.trans marks

theorem named_of_sent_blockedOnce :
    (start .ble 65 { disconnectTimeout := 0 } ⟨[oneByteImage]⟩ .testAndConfirm 0 =
        .ok oneByteStart ∧ ∀ target ∈ [oneByteImage], target.Addressable) ∧
      ((machine.handed blockedOnce oneByteStart).filterMap (Marking.read? .ble)).map Marking.hash =
        [[7], [7]] ∧
      ∀ before after packet, history blockedOnce oneByteStart = before ++ .sent packet :: after →
        ∃ header, Packet.header .ble packet = .ok header ∧
          (header.marksImages = true → ∃ target ∈ [oneByteImage],
            (Log.of before).begun.getLast?.bind Task.target? = some target ∧
              Packet.field? .ble packet "hash" =
                if target.hash = [] then none else some (.bytes target.hash)) := by
  have started : start .ble 65 { disconnectTimeout := 0 } ⟨[oneByteImage]⟩ .testAndConfirm 0 =
      .ok oneByteStart := rfl
  have addressable : ∀ target ∈ [oneByteImage], target.Addressable := by
    intro target member
    rw [List.mem_singleton.mp member]
    exact ⟨by decide, by decide, by decide⟩
  refine ⟨⟨started, addressable⟩, by decide +kernel, fun before after packet split => ?_⟩
  exact named_of_sent started addressable blockedOnce before after packet split

/-- A firmware file in which the entry for the hash holds no bytes. -/
def hashlessFile : Bytes :=
  [0x3d, 0xb8, 0xf3, 0x96, 0, 0, 0, 0, 32, 0, 0, 0, 1, 0, 0, 0] ++ List.replicate 16 0 ++
    [1, 0x07, 0x69, 8, 0, 0x10, 0, 0, 0]

def hashlessImage : TargetImage :=
  { index := 0, slot := secondarySlot, data := hashlessFile, hash := [] }

def hashlessStart : Session :=
  { scheme := .ble, mtu := 65, settings := { disconnectTimeout := 0 }, images := [hashlessImage],
    mode := .confirmOnly, seq := 0, queue := ⟨[.validate 0]⟩ }

/-- The device lists a slot without a hash, and is asked to confirm. -/
def hashlessListed : List Event :=
  goingOn 5 ++ [answering .readResponse .os 0 8 (.record [("rc", .nat 8)])] ++
    goingOn 1 ++ [listing .readResponse 1 {}] ++ goingOn 5

/-- The session sends the very request that confirms the running image. -/
theorem unnamed_of_hashless :
    (ImageSet.addFile {} 0 hashlessFile).toOption = some ⟨[hashlessImage]⟩ ∧
      start .ble 65 { disconnectTimeout := 0 } ⟨[hashlessImage]⟩ .confirmOnly 0 = .ok hashlessStart ∧
      ∃ packet ∈ machine.handed hashlessListed hashlessStart,
        (Command.confirmImage none).packet .ble 2 = .ok packet ∧
          (∃ header, Packet.header .ble packet = .ok header ∧ header.marksImages = true) ∧
          Packet.field? .ble packet "hash" = none := by
  refine ⟨by decide +kernel, rfl, ?_⟩
  have built : (Command.confirmImage none).packet .ble 2 = .ok
      [0x0a, 0, 0, 10, 0, 1, 2, 0, 0xa1, 0x67, 0x63, 0x6f, 0x6e, 0x66, 0x69, 0x72, 0x6d, 0xf5] := by
    with_unfolding_all rfl
  have hash_lt : ([] : Bytes).length < 2 ^ 64 := by decide
  exact ⟨_, by decide +kernel, built, Question.field?_markImage hash_lt built⟩

end Session

end SmpClient
