import SmpClient.Proofs.Machine.Contract
import SmpClient.Proofs.Transfer.ChunkPackets
import SmpClient.Proofs.Transfer.ChunkSize
import SmpClient.Proofs.Transfer.Halt
import SmpClient.Proofs.Transfer.Reordering

/-!
# Aligned chunks

A chunk starts where the device says that its bytes end.  So chunks are aligned as long as the bytes
that the device holds are, and these are as long as the chunks are.
-/

namespace SmpClient

namespace Upload

/-- A multiple of the alignment, or the end of the data. -/
def OnGrid (upload : Upload) (offset : Nat) : Prop :=
  upload.alignment ∣ offset ∨ upload.data.length ≤ offset

/-- A chunk that starts at a multiple of the alignment, and is one or goes on to the end. -/
structure AlignedChunk (upload : Upload) (offset length : Nat) : Prop where
  within : offset + length ≤ upload.data.length
  start_dvd : upload.alignment ∣ offset
  last_or_dvd : upload.alignment ∣ length ∨ offset + length = upload.data.length

/-- A packet in which a device reads an aligned chunk. -/
def SendsAligned (upload : Upload) (packet : Bytes) : Prop :=
  ∃ offset length, Storage.Carries upload packet offset length ∧ upload.AlignedChunk offset length

variable {upload : Upload} {offset length : Nat}

theorem onGrid_zero (upload : Upload) : upload.OnGrid 0 :=
  .inl (Nat.dvd_zero _)

theorem AlignedChunk.onGrid (chunk : upload.AlignedChunk offset length) :
    upload.OnGrid (offset + length) :=
  chunk.last_or_dvd.imp (fun whole => Nat.dvd_add chunk.start_dvd whole) fun last =>
    Nat.le_of_eq last.symm

/-- A chunk that is sized for an aligned offset is aligned. -/
theorem alignedChunk_of_sized (aligned : 1 ≤ upload.alignment) {mtu : Nat} {seq : UInt8}
    (sized : ({ upload with mtu } : Upload).chunkLength seq offset = .ok length)
    (grid : upload.OnGrid offset) (short : offset < upload.data.length) :
    upload.AlignedChunk offset length := by
  have bounds := chunkLength_bounds sized
  have length_le : length ≤ upload.data.length - offset := bounds.1
  have length_pos : 0 < length := bounds.2 short
  have lastOrDvd : length = upload.data.length - offset ∨ max upload.alignment 1 ∣ length := by
    cases built : ({ upload with mtu } : Upload).chunkPacket seq offset 0 with
    | error failure => simp [chunkLength, built, bind, Except.bind] at sized
    | ok emptyPacket =>
        rw [chunkLength_of_fixedLength built rfl short] at sized
        split_ifs at sized with none
        obtain rfl := Except.ok.inj sized
        exact (allowed_aligned length_pos).last_or_dvd
  rw [Nat.max_eq_left aligned] at lastOrDvd
  exact
    { within := by omega
      start_dvd := grid.resolve_right (Nat.not_le.mpr short)
      last_or_dvd := lastOrDvd.symm.imp_right fun rest => by omega }

theorem AlignedChunk.length_slice (chunk : upload.AlignedChunk offset length) :
    (upload.data.slice offset length).length = length := by
  have within := chunk.within
  rw [Bytes.length_slice]
  omega

theorem SendsAligned.exists_request {packet : Bytes} (sends : upload.SendsAligned packet) :
    ∃ request, StoreRequest.read? upload.scheme packet = some request ∧
      upload.alignment ∣ request.offset ∧
      (upload.alignment ∣ request.data.length ∨
        request.offset + request.data.length = upload.data.length) := by
  obtain ⟨offset, length, carries, chunk⟩ := sends
  have lengthEq := chunk.length_slice
  refine ⟨_, carries, chunk.start_dvd, ?_⟩
  simp only [Storage.chunkRequest, lengthEq]
  exact chunk.last_or_dvd

/-- An outcome that acknowledges no offset off the grid. -/
def AcknowledgesGrid (upload : Upload) (outcome : Except Error Response) : Prop :=
  ∀ response offset, outcome = .ok response → upload.acknowledged response = .ok offset →
    upload.OnGrid offset

end Upload

/-! ## The device -/

/-- The device takes a chunk whole or not at all. -/
def Treatment.IsWhole : Treatment → Prop
  | .store (some (_ + 1)) _ => False
  | _ => True

instance (treatment : Treatment) : Decidable treatment.IsWhole :=
  match treatment with
  | .store (some (_ + 1)) _ => .isFalse id
  | .store (some 0) _ | .store none _ | .lose _ => .isTrue trivial

namespace Storage

/-- What the device held before the upload ends on the grid, or the first request that it processed
made it start over. -/
def StartsAligned (upload : Upload) (stored : Bytes) (storage : Storage) : Prop :=
  upload.OnGrid stored.length ∨ ∀ visit ∈ storage.past.getLast?, visit.offset = 0

/-- What the device holds ends on the grid, or is what it held before the upload. -/
def EndsAligned (upload : Upload) (stored : Bytes) (storage : Storage) : Prop :=
  upload.OnGrid storage.held.length ∨ storage.past = [] ∧ storage.held = stored

variable {upload : Upload} {stored : Bytes} {storage after : Storage} {offset length : Nat}
  {limit : Option Nat} {packet : Bytes} {treatment : Treatment} {outcome : Except Error Response}

theorem startsAligned_of_store {request : StoreRequest}
    (starts : (storage.store limit request).StartsAligned upload stored) :
    storage.StartsAligned upload stored := by
  refine starts.imp_right fun first visit last => first visit ?_
  rw [Option.mem_def] at last ⊢
  rw [store, List.getLast?_cons, last, Option.getD_some]

theorem startsAligned_of_storing
    (conducted : storing upload.scheme treatment packet storage = some (outcome, after))
    (starts : after.StartsAligned upload stored) : storage.StartsAligned upload stored := by
  cases treatment with
  | lose failure =>
      cases conducted
      exact starts
  | store limit answer =>
      simp only [storing] at conducted
      split at conducted
      · split at conducted
        · cases conducted
          exact startsAligned_of_store starts
        · cases conducted
      · cases conducted

/-- What a device holds when it comes to a chunk ends on the grid, or that is the first request that it
processes, and does not make it start over. -/
theorem onGrid_opened (ends : storage.EndsAligned upload stored)
    (starts : (storage.store limit (chunkRequest upload.data offset length)).StartsAligned upload
      stored) :
    upload.OnGrid (storage.opened (chunkRequest upload.data offset length)).length := by
  by_cases first : offset = 0
  · simpa [Storage.opened, chunkRequest, first] using upload.onGrid_zero
  · have openedEq : storage.opened (chunkRequest upload.data offset length) = storage.held := by
      simp [Storage.opened, chunkRequest, first]
    rw [openedEq]
    rcases ends with grid | ⟨untouched, rfl⟩
    · exact grid
    · refine starts.resolve_right fun restarted => first ?_
      rw [store, untouched] at restarted
      exact restarted _ rfl

/-- Whole chunks that are aligned leave the device with bytes up to the grid. -/
theorem onGrid_store (whole : Treatment.IsWhole (.store limit outcome))
    (chunk : upload.AlignedChunk offset length)
    (opened : upload.OnGrid (storage.opened (chunkRequest upload.data offset length)).length) :
    upload.OnGrid (storage.store limit (chunkRequest upload.data offset length)).held.length := by
  simp only [store]
  generalize storage.opened (chunkRequest upload.data offset length) = bytes at opened ⊢
  split
  · rename_i ends
    have ends : offset = bytes.length := ends
    cases limit with
    | none =>
        simp only [chunkRequest, Option.getD_none, List.take_length, List.length_append]
        rw [chunk.length_slice, ← ends]
        exact chunk.onGrid
    | some taken =>
        cases taken with
        | zero => simpa using opened
        | succ taken => exact absurd whole id
  · exact opened

/-- A device that starts aligned keeps to the grid, and acknowledges nothing else. -/
theorem endsAligned_of_storing (whole : treatment.IsWhole) (sends : upload.SendsAligned packet)
    (ends : storage.EndsAligned upload stored)
    (conducted : storing upload.scheme treatment packet storage = some (outcome, after))
    (starts : after.StartsAligned upload stored) :
    after.EndsAligned upload stored ∧ upload.AcknowledgesGrid outcome := by
  obtain ⟨offset, length, carries, chunk⟩ := sends
  cases treatment with
  | lose failure =>
      cases conducted
      exact ⟨ends, fun _ _ impossible => by cases impossible⟩
  | store limit answer =>
      have readEq : StoreRequest.read? upload.scheme packet =
          some (chunkRequest upload.data offset length) := carries
      simp only [storing, readEq] at conducted
      split at conducted
      · rename_i honest
        cases conducted
        have opened := onGrid_opened ends starts
        have grid := onGrid_store whole chunk opened
        refine ⟨.inl grid, ?_⟩
        rintro response reached rfl acknowledged
        rw [offset_eq_of_acknowledges honest acknowledged]
        exact grid
      · cases conducted

end Storage

/-! ## Plain uploads -/

namespace SingleUpload

/-- A plain upload that keeps to the grid. -/
structure KeepsGrid (upload : Upload) (run : Stepwise SingleUpload Exchange) : Prop where
  within : Within upload run.transfer
  offset : upload.OnGrid run.transfer.offset
  sending : ∀ offset request, run.phase = .sending offset request →
    upload.SendsAligned request.packet

variable {upload : Upload} {run : Stepwise SingleUpload Exchange}

theorem KeepsGrid.advance (representable : upload.Representable) (aligned : 1 ≤ upload.alignment)
    (keeps : KeepsGrid upload run) : KeepsGrid upload (run.advance transfer) := by
  obtain ⟨within, grid, sending⟩ := keeps
  have advanced := Stepwise.advanced_advance transfer run
  generalize run.advance transfer = after at advanced ⊢
  cases advanced with
  | stayed => exact ⟨within, grid, sending⟩
  | refused | begun | completed | aborted | told => exact ⟨within, grid, by simp⟩
  | failed phaseEq uncanceled requested =>
      obtain ⟨seq, rfl⟩ := request_eq_error requested
      exact ⟨⟨within.upload_eq, within.offset_le⟩, grid, by simp⟩
  | requested phaseEq unfinished uncanceled requested =>
      obtain ⟨⟨seq, rfl⟩, number, length, sized, built⟩ := request_eq_ok requested
      refine ⟨⟨within.upload_eq, within.offset_le⟩, grid, ?_⟩
      rintro offset sent phase
      cases phase
      obtain ⟨mtu, uploadEq⟩ := within.upload_eq
      have short : run.transfer.offset < upload.data.length := by
        refine Nat.lt_of_le_of_ne within.offset_le fun complete => ?_
        simp [Transfer.isFinished, transfer, uploadEq, complete] at unfinished
      rw [uploadEq] at sized built
      have chunk := Upload.alignedChunk_of_sized aligned sized grid short
      exact ⟨_, length, Storage.carries_of_chunkPacket representable chunk.within built, chunk⟩

theorem KeepsGrid.accept {state after : SingleUpload} (within : Within upload state)
    (grid : upload.OnGrid state.offset) {request : Exchange} {outcome : Except Error Response}
    (given : upload.AcknowledgesGrid outcome) {result : Except Error Unit}
    (accepted : transfer.accept request outcome state = (result, after)) :
    upload.OnGrid after.offset := by
  obtain rfl : (transfer.accept request outcome state).2 = after := congrArg Prod.snd accepted
  cases acknowledged : state.acknowledged request outcome with
  | error failure =>
      simp only [transfer, SingleUpload.accept, acknowledged]
      exact grid
  | ok reached =>
      obtain ⟨mtu, uploadEq⟩ := within.upload_eq
      obtain ⟨response, outcomeEq, acknowledgedEq⟩ := acknowledged_eq_ok acknowledged
      rw [uploadEq] at acknowledgedEq
      simp only [transfer, SingleUpload.accept, acknowledged]
      exact given response reached outcomeEq acknowledgedEq

theorem KeepsGrid.answer (keeps : KeepsGrid upload run) {outcome : Except Error Response}
    (given : upload.AcknowledgesGrid outcome) : KeepsGrid upload (run.answer transfer outcome) := by
  have accepted := Stepwise.accepted_answer transfer outcome run
  generalize run.answer transfer outcome = answered at accepted ⊢
  cases accepted with
  | stayed idle => exact keeps
  | failed sent accepted | aborted sent accepted | stuck sent accepted | settled sent accepted =>
      have grid := KeepsGrid.accept keeps.within keeps.offset given accepted
      exact ⟨keeps.within.accept accepted, grid, by simp⟩

theorem KeepsGrid.feed (representable : upload.Representable) (aligned : 1 ≤ upload.alignment)
    (keeps : KeepsGrid upload run) {reply : Reply}
    (given : ∀ outcome ∈ reply.outcome?, upload.AcknowledgesGrid outcome) :
    KeepsGrid upload (run.feed transfer reply) := by
  cases reply with
  | ready => exact keeps.advance representable aligned
  | answer outcome => exact keeps.answer (given outcome rfl)
  | acknowledgement ticket outcome => exact keeps
  | silence => exact keeps
  | connected outcome => exact keeps

end SingleUpload

/-! ## Windowed uploads -/

namespace Window

/-- The next chunk starts on the grid, and so would one where the device is. -/
structure Reckoning.OnGrid (upload : Upload) (reckoning : Reckoning) : Prop where
  next : upload.OnGrid reckoning.next
  acked : upload.OnGrid reckoning.acked

/-- A windowed upload that keeps to the grid. -/
structure KeepsGrid (upload : Upload) (window : Window) : Prop where
  upload_eq : ∃ mtu, window.upload = { upload with mtu }
  sound : window.Sound
  grid : window.reckoning.OnGrid upload
  posting : ∀ packet ticket, window.phase = .posting packet ticket →
    upload.AlignedChunk ticket.offset ticket.length

variable {upload : Upload} {window : Window}

theorem turn_ne_posting (window : Window) (packet : Bytes) (ticket : Ticket) :
    window.turn.phase ≠ .posting packet ticket := by
  intro posting
  have turned := window.turned_turn
  rw [posting] at turned
  cases turned

/-- A chunk that is built is an aligned one. -/
theorem KeepsGrid.issue (aligned : 1 ≤ upload.alignment) (keeps : KeepsGrid upload window)
    {packet : Bytes} {ticket : Ticket} (posting : window.issue.phase = .posting packet ticket) :
    upload.AlignedChunk ticket.offset ticket.length := by
  rw [Window.issue] at posting
  split at posting
  · rename_i room
    cases next : window.upload.nextChunk window.seq window.next with
    | mk result seq =>
        cases result with
        | error failure => simp [next] at posting
        | ok chunk =>
            simp only [next] at posting
            split at posting
            · cases posting
            · cases posting
              obtain ⟨sized, -⟩ := Upload.nextChunk_eq_ok next
              obtain ⟨mtu, uploadEq⟩ := keeps.upload_eq
              have short := room.2
              rw [total, uploadEq] at short
              rw [uploadEq] at sized
              exact Upload.alignedChunk_of_sized aligned sized keeps.grid.next short
  · rw [afterIssuing] at posting
    split_ifs at posting

theorem KeepsGrid.acknowledge (keeps : KeepsGrid upload window) (ticket : Ticket)
    {outcome : Except Error Response} (given : upload.AcknowledgesGrid outcome) :
    (window.acknowledge ticket outcome).reckoning.OnGrid upload := by
  by_cases own : ticket.attempt = window.attempt
  · have acked : upload.OnGrid (window.acknowledge ticket outcome).acked := by
      rcases acked_acknowledge window ticket outcome with same | ⟨response, outcomeEq, acknowledged⟩
      · rw [same]
        exact keeps.grid.acked
      · obtain ⟨mtu, uploadEq⟩ := keeps.upload_eq
        rw [uploadEq] at acknowledged
        exact given response _ outcomeEq acknowledged
    refine ⟨?_, acked⟩
    rcases reckoning_acknowledge outcome own with ⟨offset, moved⟩ | ⟨_, offset, -, -, resynced⟩
    · rw [moved]
      exact keeps.grid.next
    · have ackedEq : (window.acknowledge ticket outcome).acked = offset :=
        congrArg Reckoning.acked resynced
      rw [resynced]
      exact ackedEq ▸ acked
  · rw [acknowledge_foreign outcome own]
    exact keeps.grid

theorem KeepsGrid.reckoning (keeps : KeepsGrid upload window) {reply : Reply}
    (given : ∀ outcome ∈ reply.outcome?, upload.AcknowledgesGrid outcome) :
    (window.feed reply).reckoning.OnGrid upload := by
  unfold Window.feed
  split
  · rw [reckoning_begin]
    exact keeps.grid
  · rcases window.reckoning_turn with same | restarted
    · rw [same]
      exact keeps.grid
    · rw [restarted]
      exact ⟨keeps.grid.acked, keeps.grid.acked⟩
  · rw [reckoning_issue]
    exact keeps.grid
  · rename_i packet ticket phaseEq
    have chunk := keeps.posting packet ticket phaseEq
    have promised := keeps.sound.promised
    rw [phaseEq] at promised
    rw [reckoning_posted]
    refine ⟨?_, keeps.grid.acked⟩
    rw [Reckoning.post, ← promised.2.2.offset_eq]
    exact chunk.onGrid
  · rw [reckoning_rise]
    exact keeps.grid
  · exact keeps.grid
  · exact keeps.acknowledge _ (given _ rfl)
  · exact keeps.grid
  · exact keeps.grid

theorem KeepsGrid.feed (aligned : 1 ≤ upload.alignment) (keeps : KeepsGrid upload window)
    {reply : Reply} (given : ∀ outcome ∈ reply.outcome?, upload.AcknowledgesGrid outcome) :
    KeepsGrid upload (window.feed reply) := by
  have uploadEq : (window.feed reply).upload = window.upload :=
    congrArg Prod.fst (fixed_feed reply window)
  refine ⟨uploadEq ▸ keeps.upload_eq, keeps.sound.feed reply, keeps.reckoning given, ?_⟩
  intro packet ticket posting
  unfold Window.feed at posting
  split at posting
  · rw [begin] at posting
    split at posting <;> cases posting
  · exact absurd posting (window.turn_ne_posting packet ticket)
  · exact keeps.issue aligned posting
  · cases posting
  · rw [rise] at posting
    split_ifs at posting
    · exact keeps.posting packet ticket posting
    · cases posting
  · cases posting
  · rename_i acknowledged outcome collecting
    have quiet := quiet_acknowledge collecting acknowledged outcome
    rw [posting] at quiet
    cases quiet
  · cases posting
  · exact keeps.posting packet ticket posting

end Window

/-! ## Jobs -/

/-- An attempt that keeps to the grid. -/
def UploadEngine.KeepsGrid (upload : Upload) : UploadEngine → Prop
  | .single run => SingleUpload.KeepsGrid upload run
  | .windowed window => Window.KeepsGrid upload window

namespace UploadEngine

variable {upload : Upload} {engine : UploadEngine}

theorem keepsGrid_start (upload : Upload) (mtu capacity attempt : Nat) (seq : UInt8)
    (control : Control) :
    (start { upload with mtu } capacity attempt seq control).KeepsGrid upload := by
  rw [start]
  split
  · rename_i several
    refine ⟨⟨mtu, rfl⟩, ⟨?_, trivial⟩, ⟨upload.onGrid_zero, upload.onGrid_zero⟩, by simp⟩
    exact ⟨Nat.lt_of_succ_lt several, Nat.zero_le _, Nat.zero_le _, Nat.zero_le _⟩
  · exact ⟨⟨⟨mtu, rfl⟩, Nat.zero_le _⟩, upload.onGrid_zero, by simp⟩

theorem KeepsGrid.upload_eq (keeps : engine.KeepsGrid upload) :
    ∃ mtu, engine.upload = { upload with mtu } := by
  cases engine with
  | single run => exact keeps.within.upload_eq
  | windowed window => exact Window.KeepsGrid.upload_eq keeps

theorem KeepsGrid.feed (representable : upload.Representable) (aligned : 1 ≤ upload.alignment)
    (keeps : engine.KeepsGrid upload) {reply : Reply}
    (given : ∀ outcome ∈ reply.outcome?, upload.AcknowledgesGrid outcome) :
    (engine.feed reply).KeepsGrid upload := by
  cases engine with
  | single run => exact SingleUpload.KeepsGrid.feed representable aligned keeps given
  | windowed window => exact Window.KeepsGrid.feed aligned keeps given

theorem KeepsGrid.signal (keeps : engine.KeepsGrid upload) (signal : Signal) :
    (engine.signal signal).2.KeepsGrid upload := by
  cases engine with
  | single run => exact ⟨keeps.within, keeps.offset, keeps.sending⟩
  | windowed window =>
      exact ⟨keeps.upload_eq, keeps.sound.signal signal, keeps.grid, keeps.posting⟩

/-- What an attempt sends is an aligned chunk. -/
theorem KeepsGrid.sends (representable : upload.Representable) (keeps : engine.KeepsGrid upload)
    {packet : Bytes} (handed : engine.need.packet? = some packet) : upload.SendsAligned packet := by
  cases engine with
  | single run =>
      cases needEq : run.need SingleUpload.transfer with
      | exchange sent kind =>
          simp only [need, needEq, Need.packet?, Option.some.injEq] at handed
          obtain ⟨offset, request, phaseEq, rfl⟩ := Stepwise.sending_of_need needEq
          exact handed ▸ keeps.sending offset request phaseEq
      | post sent kind ticket => exact absurd needEq Stepwise.need_ne_post
      | _ => simp [need, needEq, Need.packet?] at handed
  | windowed window =>
      cases needEq : Window.machine.need window with
      | exchange sent kind => exact absurd needEq Window.need_ne_exchange
      | post sent kind ticket =>
          obtain rfl : sent = packet := by
            change (Window.machine.need window).packet? = _ at handed
            rw [needEq] at handed
            exact Option.some.inj handed
          have phaseEq := (Window.need_eq_post_iff.mp needEq).1
          have promised := keeps.sound.promised
          rw [phaseEq] at promised
          exact ⟨_, _, promised.2.2.carries representable keeps.upload_eq,
            keeps.posting _ _ phaseEq⟩
      | _ =>
          change (Window.machine.need window).packet? = _ at handed
          rw [needEq] at handed
          cases handed

end UploadEngine

namespace UploadJob

variable {upload : Upload} {job : UploadJob}

theorem keepsGrid_start (upload : Upload) (window attempt : Nat) (seq : UInt8) (control : Control) :
    (start upload window attempt seq control).engine.KeepsGrid upload := by
  rw [start]
  split
  · exact ⟨⟨⟨upload.mtu, rfl⟩, Nat.zero_le _⟩, upload.onGrid_zero, by simp⟩
  · exact UploadEngine.keepsGrid_start upload upload.mtu _ _ _ _

theorem keepsGrid_feed (representable : upload.Representable) (aligned : 1 ≤ upload.alignment)
    (keeps : job.engine.KeepsGrid upload) {reply : Reply}
    (given : ∀ outcome ∈ reply.outcome?, upload.AcknowledgesGrid outcome) :
    (machine.feed reply job).engine.KeepsGrid upload := by
  rcases feed_cases reply job with goesOn | ⟨mtu, retried⟩ | same
  · rw [goesOn]
    exact keeps.feed representable aligned given
  · obtain ⟨first, uploadEq⟩ := keeps.upload_eq
    rw [retried, retry, uploadEq]
    exact UploadEngine.keepsGrid_start upload mtu _ _ _ _
  · rw [same]
    exact keeps

/-- The device takes the chunks of an upload whole or not at all, and either what it held before ends at
a multiple of the alignment or not within the data, or the first request that it comes to made it start
over.  Then every request, of either attempt, stores a chunk that starts at a multiple of the alignment,
and is one or goes on to the end of the data. -/
theorem aligned_requests {upload : Upload} (representable : upload.Representable)
    (aligned : 1 ≤ upload.alignment) (stored : Bytes) (window attempt : Nat) (seq : UInt8)
    (control : Control) (schedule : List (Network.Move Treatment))
    (whole : ∀ move ∈ schedule, ∀ treatment ∈ move.choice?, treatment.IsWhole) :
    let start : Network UploadJob Storage :=
      { state := .start upload window attempt seq control, device := { held := stored } }
    let network := start.run machine (Storage.storing upload.scheme) schedule
    (upload.alignment ∣ stored.length ∨ upload.data.length ≤ stored.length ∨
        ∀ visit ∈ network.device.past.getLast?, visit.offset = 0) →
      ∀ packet, (machine.need network.state).packet? = some packet →
        ∃ request, StoreRequest.read? upload.scheme packet = some request ∧
          upload.alignment ∣ request.offset ∧
          (upload.alignment ∣ request.data.length ∨
            request.offset + request.data.length = upload.data.length) := by
  intro start network starts packet handed
  have sends : ∀ (job : UploadJob) (packet : Bytes), job.engine.KeepsGrid upload →
      (machine.need job).packet? = some packet → upload.SendsAligned packet := by
    intro job packet keeps handed
    rw [packet?_need] at handed
    exact keeps.sends representable handed
  have initially : start.Keeps (fun job => job.engine.KeepsGrid upload) upload.SendsAligned
      (Storage.EndsAligned upload stored) upload.AcknowledgesGrid :=
    { ready := keepsGrid_start upload window attempt seq control
      allowed := fun _ member => absurd member List.not_mem_nil
      sound := .inr ⟨rfl, rfl⟩
      possible := fun _ member => absurd member List.not_mem_nil }
  have keeps := Network.keeps_run initially Treatment.IsWhole (Storage.StartsAligned upload stored)
    (fun _ _ given keeps => keepsGrid_feed representable aligned keeps given)
    (fun signal _ keeps => keeps.signal signal) sends
    (fun _ _ _ _ _ conducted starts => Storage.startsAligned_of_storing conducted starts)
    (fun _ _ _ _ _ whole sends ends conducted starts =>
      Storage.endsAligned_of_storing whole sends ends conducted starts)
    schedule whole (or_assoc.mpr starts)
  exact (sends _ packet keeps.ready handed).exists_request

open Storage (threeBytes taken)

/-- Three bytes in aligned chunks. -/
def alignedBytes : Upload :=
  { threeBytes with alignment := 2 }

/-- They are uploaded, with a window of two, to a device that holds one byte. -/
def alignedStart : Network UploadJob Storage :=
  { state := .start alignedBytes 2 0 0 {}, device := { held := [9] } }

/-- The device starts over with the first chunk and does not take the second, which is built again. -/
def refusing : List (Network.Move Treatment) :=
  List.replicate 7 .advance ++ [taken 0 none 1 2, taken 0 (some 0) 3 2, .collect 0] ++
    List.replicate 3 .advance ++ [.collect 0, .advance, .advance]

theorem aligned_requests_refusing :
    let network := alignedStart.run machine (Storage.storing alignedBytes.scheme) refusing
    (alignedBytes.Representable ∧ 1 ≤ alignedBytes.alignment ∧
        (∀ move ∈ refusing, ∀ treatment ∈ move.choice?, treatment.IsWhole) ∧
        ∀ visit ∈ network.device.past.getLast?, visit.offset = 0) ∧
      ∃ packet, (machine.need network.state).packet? = some packet ∧
        ∃ request, StoreRequest.read? alignedBytes.scheme packet = some request ∧
          2 ∣ request.offset ∧
          (2 ∣ request.data.length ∨ request.offset + request.data.length = 3) := by
  intro network
  have representable : alignedBytes.Representable := ⟨by decide, by decide⟩
  have whole : ∀ move ∈ refusing, ∀ treatment ∈ move.choice?, treatment.IsWhole := by
    decide +kernel
  have first : ∀ visit ∈ network.device.past.getLast?, visit.offset = 0 := by
    have firstOffset : network.device.past.getLast?.map Visit.offset = some 0 := by decide +kernel
    intro visit last
    rw [last] at firstOffset
    exact Option.some.inj firstOffset
  have sending : (machine.need network.state).packet?.isSome = true := by decide +kernel
  obtain ⟨packet, handed⟩ := Option.isSome_iff_exists.mp sending
  have sends := aligned_requests representable (by decide) [9] 2 0 0 {} refusing whole
    (.inr (.inr first)) packet handed
  exact ⟨⟨representable, by decide, whole, first⟩, packet, handed, sends⟩

/-- The second chunk overtakes the first, so that the device comes to it with the byte that it held. -/
def leftover : List (Network.Move Treatment) :=
  List.replicate 7 .advance ++ [taken 1 none 3 1, taken 0 none 1 2, .collect 0] ++
    List.replicate 3 .advance

/-- The byte that the device held is counted as the first of the data, and a chunk starts after it. -/
theorem unaligned_request_of_leftover :
    let network := alignedStart.run machine (Storage.storing alignedBytes.scheme) leftover
    (∀ move ∈ leftover, ∀ treatment ∈ move.choice?, treatment.IsWhole) ∧
      ∃ packet, (machine.need network.state).packet? = some packet ∧
        ∃ request, StoreRequest.read? alignedBytes.scheme packet = some request ∧
          request.offset = 1 ∧ ¬ alignedBytes.alignment ∣ request.offset := by
  intro network
  have whole : ∀ move ∈ leftover, ∀ treatment ∈ move.choice?, treatment.IsWhole := by
    decide +kernel
  have sends : ((machine.need network.state).packet?.bind
      (StoreRequest.read? alignedBytes.scheme)).map StoreRequest.offset = some 1 := by
    decide +kernel
  obtain ⟨request, found, offsetEq⟩ := Option.map_eq_some_iff.mp sends
  obtain ⟨packet, handed, readEq⟩ := Option.bind_eq_some_iff.mp found
  refine ⟨whole, packet, handed, request, readEq, offsetEq, ?_⟩
  rw [offsetEq]
  decide

end UploadJob

end SmpClient
