import Mathlib.Tactic.SplitIfs
import SmpClient.Transfer.Chunk

/-!
# Chunks and their acknowledgements

A chunk that is ready to be sent lies within the data, and as long as there is data left it is
not empty.  An acknowledgement counts only if it reports success and an offset within the data.
-/

namespace SmpClient

namespace Upload

theorem aligned_le (alignment remaining length : Nat) :
    aligned alignment remaining length ≤ remaining := by
  simp only [aligned]
  split
  · have : min length remaining - min length remaining % max alignment 1 ≤ min length remaining :=
      Nat.sub_le _ _
    omega
  · exact Nat.min_le_right _ _

theorem aligned_le_length (alignment remaining length : Nat) :
    aligned alignment remaining length ≤ length := by
  simp only [aligned]
  split
  · exact Nat.le_trans (Nat.sub_le _ _) (Nat.min_le_left _ _)
  · exact Nat.min_le_left _ _

theorem chunkLength_bounds {upload : Upload} {seq : UInt8} {offset length : Nat}
    (sized : upload.chunkLength seq offset = .ok length) :
    length ≤ upload.data.length - offset ∧ (offset < upload.data.length → 0 < length) := by
  rw [chunkLength] at sized
  cases built : upload.chunkPacket seq offset 0 with
  | error failure => simp [built, bind, Except.bind] at sized
  | ok emptyPacket =>
      simp only [built, bind, Except.bind] at sized
      split at sized
      · cases sized
      · rename_i filled
        cases sized
        refine ⟨aligned_le _ _ _, fun left => ?_⟩
        omega

/-- A chunk that is ready: its packet stores its length of bytes at the offset. -/
theorem nextChunk_eq_ok {upload : Upload} {seq after : UInt8} {offset : Nat} {chunk : Chunk}
    (next : upload.nextChunk seq offset = (.ok chunk, after)) :
    upload.chunkLength seq offset = .ok chunk.length ∧
      upload.chunkPacket (seq + 1) offset chunk.length = .ok chunk.packet := by
  rw [nextChunk] at next
  split at next
  · cases next
  · rename_i length sized
    cases built : upload.chunkPacket (seq + 1) offset length with
    | error failure => simp [built, Except.map] at next
    | ok packet =>
        simp only [built, Except.map, Prod.mk.injEq, Except.ok.injEq] at next
        obtain ⟨rfl, -⟩ := next
        exact ⟨sized, built⟩

/-- A response acknowledges the offset that it carries, if it reports success and the offset is
within the data. -/
theorem acknowledged_eq_ok {upload : Upload} {response : Response} {offset : Nat}
    (acknowledged : upload.acknowledged response = .ok offset) :
    response.check = .ok response ∧ response.offset = some offset ∧
      offset ≤ upload.data.length := by
  simp only [Upload.acknowledged, bind, Except.bind] at acknowledged
  split at acknowledged
  · cases acknowledged
  · rename_i checked passed
    have checkedEq : checked = response := by
      have unfolded := passed
      unfold Response.check at unfolded
      dsimp only at unfolded
      split_ifs at unfolded
      exact (Except.ok.inj unfolded).symm
    rw [checkedEq] at passed acknowledged
    split at acknowledged
    · cases acknowledged
    · rename_i found carried
      split at acknowledged
      · cases acknowledged
      · rename_i within
        cases acknowledged
        simp only [Response.uploadOffset] at carried
        split at carried
        · rename_i offsetEq
          cases carried
          exact ⟨passed, offsetEq, Nat.le_of_not_lt within⟩
        · cases carried

theorem acknowledged_of_check {upload : Upload} {response : Response} {offset : Nat}
    (succeeds : response.check = .ok response) (offsetEq : response.offset = some offset)
    (within : offset ≤ upload.data.length) : upload.acknowledged response = .ok offset := by
  have carried : response.uploadOffset = .ok offset := by
    rw [Response.uploadOffset, offsetEq]
  simp only [Upload.acknowledged, succeeds, carried, bind, Except.bind]
  rw [if_neg (Nat.not_lt.mpr within)]
  rfl

end Upload

end SmpClient
