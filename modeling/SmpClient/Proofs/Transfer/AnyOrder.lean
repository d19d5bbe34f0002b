import SmpClient.Proofs.Machine.OpenLink
import SmpClient.Proofs.Transfer.ChunkPackets

/-!
# Uploads over links that keep no order

Every request that an upload ever sends, in whatever generation and attempt, carries a chunk of the
data together with its offset.  That alone keeps a device without gaps: whenever and in whatever
order the requests reach it, what it holds is a prefix of the data.
-/

namespace SmpClient

namespace Storage

/-- The device when a packet reaches it, if it takes at most `limit` bytes of a chunk. -/
def receive (scheme : Scheme) (limit : Option Nat) (packet : Bytes) (storage : Storage) :
    Storage :=
  match StoreRequest.read? scheme packet with
  | some request => storage.store limit request
  | none => storage

theorem receive_of_carries {upload : Upload} {packet : Bytes} {offset length : Nat}
    (carries : Carries upload packet offset length) (limit : Option Nat) (storage : Storage) :
    storage.receive upload.scheme limit packet =
      storage.store limit (chunkRequest upload.data offset length) := by
  rw [Carries] at carries
  simp only [receive, carries]

/-- All that a device holds, and ever held, is a prefix of the data. -/
structure Gapless (data : Bytes) (storage : Storage) : Prop where
  held : storage.held <+: data
  past : ∀ visit ∈ storage.past, visit.held <+: data

theorem Gapless.store {data : Bytes} {storage : Storage} (gapless : storage.Gapless data)
    (limit : Option Nat) (offset length : Nat) :
    (storage.store limit (chunkRequest data offset length)).Gapless data := by
  have held : (storage.store limit (chunkRequest data offset length)).held <+: data :=
    store_isPrefix_data (.inl gapless.held)
  exact ⟨held, List.forall_mem_cons.mpr ⟨held, gapless.past⟩⟩

end Storage

open Storage

namespace UploadJob

variable {upload : Upload}

/-- A device that is empty at first holds a prefix of the data after every request, in whatever
order the requests of all generations and attempts reach it. -/
theorem gapless_run (representable : upload.Representable) (window attempt : Nat) (seq : UInt8)
    (control : Control) (schedule : List (OpenLink.Move (Option Nat))) :
    let start : OpenLink UploadJob Storage :=
      { state := .start upload window attempt seq control, device := { held := [] } }
    let link := start.run machine (Storage.receive upload.scheme) schedule
    link.device.held <+: upload.data ∧ ∀ visit ∈ link.device.past, visit.held <+: upload.data := by
  intro start link
  -- What a packet carries is settled when it is sent, so the order of arrival does not matter.
  have keeps : link.Keeps (Underway upload)
      (fun packet => ∃ offset length, Carries upload packet offset length)
      (Gapless upload.data) := by
    refine OpenLink.keeps_run ?_ (fun reply _ underway => underway.feed reply)
      (fun signal _ underway => underway.signal signal)
      (fun _ _ underway handed => (underway.sends handed).carries representable) ?_ schedule
    · exact ⟨underway_start upload window attempt seq control, by simp [start],
        ⟨List.nil_prefix, by simp [start]⟩⟩
    · rintro limit packet device ⟨offset, length, carries⟩ gapless
      rw [receive_of_carries carries]
      exact gapless.store limit offset length
  exact ⟨keeps.sound.held, keeps.sound.past⟩

/-- The upload of three bytes, with a window of two, to an empty device. -/
def threeBytesLink : OpenLink UploadJob Storage :=
  { state := .start threeBytes 2 0 0 {}, device := { held := [] } }

/-- Both chunks are sent, the link refuses the first as too long, and the upload starts over with
shorter chunks.  The first of these arrives before the others, which arrive twice. -/
def arrivingLate : List (OpenLink.Move (Option Nat)) :=
  List.flatten
    [List.replicate 3 (.reply .ready), [.send], List.replicate 2 (.reply .ready), [.send],
      List.replicate 2 (.reply .ready),
      [.reply (.acknowledgement ⟨0, 0, 0, 2, default⟩ (.error (.insufficientMtu 66 65)))],
      List.replicate 4 (.reply .ready),
      [.send, .deliver 2 none, .deliver 1 none, .deliver 0 (some 1), .deliver 1 none,
        .deliver 0 none, .deliver 1 none]]

theorem visits_arrivingLate :
    (threeBytesLink.run machine (Storage.receive threeBytes.scheme) arrivingLate).device.past.map
      (·.held) = [[1, 2, 3], [1, 2], [1], [1], [1], [1]] := by
  decide +kernel

theorem gapless_run_arrivingLate :
    let link := threeBytesLink.run machine (Storage.receive threeBytes.scheme) arrivingLate
    (threeBytes.Representable ∧
      link.device.past.map (·.held) = [[1, 2, 3], [1, 2], [1], [1], [1], [1]]) ∧
    link.device.held <+: threeBytes.data ∧
      ∀ visit ∈ link.device.past, visit.held <+: threeBytes.data := by
  have representable : threeBytes.Representable := ⟨by decide, by decide⟩
  have visits := visits_arrivingLate
  rw [threeBytesLink] at visits ⊢
  exact ⟨⟨representable, visits⟩, gapless_run representable 2 0 0 {} arrivingLate⟩

end UploadJob

end SmpClient
