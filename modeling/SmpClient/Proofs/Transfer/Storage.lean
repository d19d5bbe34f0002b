import SmpClient.Proofs.Machine.Network
import SmpClient.Proofs.Transfer.Chunk
import SmpClient.Proofs.Transfer.StoreRequest

/-!
# A device that stores chunks

A first chunk that announces the length of all makes the device start over.  Otherwise it appends
a chunk exactly if that starts where its bytes end, and perhaps takes only a part of it.  What it
acknowledges is the number of bytes that it then holds.  Here it also remembers what it held after
each request.
-/

namespace SmpClient

/-- A request that a device has processed. -/
structure Visit where
  offset : Nat
  /-- What the device held after it. -/
  held : Bytes
  deriving DecidableEq

/-- What a device holds, and what it held before. -/
structure Storage where
  held : Bytes
  /-- The latest first. -/
  past : List Visit := []
  deriving DecidableEq

/-- What may become of a request. -/
inductive Treatment
  /-- The device takes its chunk, but at most `limit` bytes of it. -/
  | store (limit : Option Nat) (outcome : Except Error Response)
  /-- It never reaches the device. -/
  | lose (failure : Error)

namespace Storage

/-- What the device holds when it comes to the chunk of a request. -/
def opened (request : StoreRequest) (storage : Storage) : Bytes :=
  if request.offset = 0 ∧ request.announces then [] else storage.held

/-- The device after a request of whose chunk it takes at most `limit` bytes. -/
def store (limit : Option Nat) (request : StoreRequest) (storage : Storage) : Storage :=
  let opened := storage.opened request
  let held :=
    if request.offset = opened.length then
      opened ++ request.data.take (limit.getD request.data.length)
    else opened
  { held, past := { offset := request.offset, held } :: storage.past }

/-- Whether what comes back acknowledges no other number of bytes than `held`. -/
def acknowledges (held : Nat) : Except Error Response → Bool
  | .ok response =>
      match response.check with
      | .ok response => response.offset.all (· == held)
      | .error _ => true
  | .error _ => true

/-- The conduct of a device that stores what it is sent under an envelope. -/
def storing (scheme : Scheme) : Conduct Storage Treatment
  | .lose failure, _, storage => some (.error failure, storage)
  | .store limit outcome, packet, storage =>
      match StoreRequest.read? scheme packet with
      | some request =>
          let after := storage.store limit request
          if acknowledges after.held.length outcome then some (outcome, after) else none
      | none => none

theorem offset_eq_of_acknowledges {upload : Upload} {held offset : Nat} {response : Response}
    (honest : acknowledges held (.ok response))
    (acknowledged : upload.acknowledged response = .ok offset) : offset = held := by
  obtain ⟨passed, offsetEq, -⟩ := Upload.acknowledged_eq_ok acknowledged
  simpa [acknowledges, passed, offsetEq] using honest

/-- The request that carries a chunk of the data. -/
def chunkRequest (data : Bytes) (offset length : Nat) : StoreRequest :=
  { offset, data := data.slice offset length, announces := offset == 0 }

/-- A packet in which a device reads a chunk of an upload. -/
def Carries (upload : Upload) (packet : Bytes) (offset length : Nat) : Prop :=
  StoreRequest.read? upload.scheme packet = some (chunkRequest upload.data offset length)

theorem carries_of_chunkPacket {upload : Upload} (representable : upload.Representable)
    {seq : UInt8} {offset length : Nat} (within : offset + length ≤ upload.data.length)
    {packet : Bytes} (built : upload.chunkPacket seq offset length = .ok packet) :
    Carries upload packet offset length :=
  Upload.read?_chunkPacket representable (Nat.le_of_add_right_le within) built

/-- A request is lost, or the device takes its chunk and acknowledges what it then holds. -/
theorem storing_of_carries {upload : Upload} {packet : Bytes} {offset length : Nat}
    (carries : Carries upload packet offset length) {treatment : Treatment}
    {storage after : Storage} {outcome : Except Error Response}
    (conducted : storing upload.scheme treatment packet storage = some (outcome, after)) :
    ((∃ failure, outcome = .error failure) ∧ after = storage) ∨
    ∃ limit, after = storage.store limit (chunkRequest upload.data offset length) ∧
      acknowledges after.held.length outcome := by
  cases treatment with
  | lose failure =>
      cases conducted
      exact .inl ⟨⟨failure, rfl⟩, rfl⟩
  | store limit answer =>
      have readEq : StoreRequest.read? upload.scheme packet =
          some (chunkRequest upload.data offset length) := carries
      simp only [storing, readEq] at conducted
      split at conducted
      · rename_i honest
        cases conducted
        exact .inr ⟨limit, rfl, honest⟩
      · cases conducted

section

variable {data : Bytes} {offset length : Nat} {storage : Storage} {limit : Option Nat}

theorem append_slice_isPrefix {held : Bytes} (holds : held <+: data) (length : Nat)
    (limit : Nat) : held ++ (data.slice held.length length).take limit <+: data := by
  obtain ⟨rest, rfl⟩ := holds
  rw [Bytes.slice, List.drop_left, List.prefix_append_right_inj, List.take_take]
  exact List.take_prefix _ _

/-- A chunk leaves the device with a prefix of the data, if it held one or the chunk is the first
one. -/
theorem store_isPrefix_data (holds : storage.held <+: data ∨ offset = 0) :
    (storage.store limit (chunkRequest data offset length)).held <+: data := by
  have opened : storage.opened (chunkRequest data offset length) <+: data := by
    by_cases first : offset = 0
    · simp [Storage.opened, chunkRequest, first]
    · simpa [Storage.opened, chunkRequest, first] using holds
  simp only [store]
  split
  · rename_i ends
    generalize storage.opened (chunkRequest data offset length) = held at opened ends
    have offsetEq : offset = held.length := ends
    subst offsetEq
    exact append_slice_isPrefix opened _ _
  · exact opened

/-- Only a first chunk takes away what the device holds. -/
theorem held_isPrefix_store (later : offset ≠ 0) :
    storage.held <+: (storage.store limit (chunkRequest data offset length)).held := by
  have opened : storage.opened (chunkRequest data offset length) = storage.held := by
    simp [Storage.opened, chunkRequest, later]
  simp only [store, opened]
  split
  · exact List.prefix_append _ _
  · exact List.prefix_refl _

/-- A device that holds all of the data keeps it until the next first chunk. -/
theorem store_eq_of_full (full : storage.held = data) (later : offset ≠ 0) :
    (storage.store limit (chunkRequest data offset length)).held = data := by
  have stored : (storage.store limit (chunkRequest data offset length)).held <+: data :=
    store_isPrefix_data (.inl ⟨[], by rw [full, List.append_nil]⟩)
  have kept : data <+: (storage.store limit (chunkRequest data offset length)).held :=
    full ▸ held_isPrefix_store later
  exact stored.eq_of_length_le kept.length_le

end

/-! ## A device that three bytes are sent to -/

/-- Three bytes, in chunks of two and one. -/
def threeBytes : Upload :=
  { scheme := .ble, destination := .image 0, data := [1, 2, 3], mtu := 65, alignment := 1 }

/-- The response to a chunk of them. -/
def acknowledgement (seq : UInt8) (held : Nat) : Except Error Response :=
  (Packet.build .ble .writeResponse 0 Group.image.number seq 1
    (.record [("rc", .nat 0), ("off", .nat held)])).bind fun bytes =>
      Response.decode .ble bytes .uploadAck

/-- The device takes at most `limit` bytes of a chunk and acknowledges what it then holds. -/
def taken (position : Nat) (limit : Option Nat) (seq : UInt8) (held : Nat) :
    Network.Move Treatment :=
  .process position (.store limit (acknowledgement seq held))

end Storage

end SmpClient
