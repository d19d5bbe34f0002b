import SmpClient.Transfer.Download
import Mathlib.Tactic.SplitIfs

/-!
# What a file is put together from

A chunk puts its bytes into the buffer of a file and leaves all others as they are.  So a byte of
the content is the one that the last chunk over its position brought; where no chunk came it is
zero.  Chunks leave no such place out if each of them starts within or right after what came before.
-/

namespace SmpClient

namespace FileChunk

/-- Where a chunk ends. -/
def after (chunk : FileChunk) : Nat :=
  chunk.offset + chunk.data.length

/-- The byte that a chunk brings for a position of the file, if it covers it. -/
def byteAt? (chunk : FileChunk) (position : Nat) : Option UInt8 :=
  if chunk.offset ≤ position then chunk.data[position - chunk.offset]? else none

/-- The byte that the last of some chunks that covers a position brings for it. -/
def lastByte? (chunks : List FileChunk) (position : Nat) : Option UInt8 :=
  chunks.reverse.findSome? (·.byteAt? position)

/-- Each chunk starts within or right after what came before it, and the first ones before
`frontier`. -/
def Adjoin : (frontier : Nat) → List FileChunk → Prop
  | _, [] => True
  | frontier, chunk :: rest => chunk.offset ≤ frontier ∧ Adjoin (max frontier chunk.after) rest

instance : (frontier : Nat) → (chunks : List FileChunk) → Decidable (Adjoin frontier chunks)
  | _, [] => .isTrue trivial
  | frontier, chunk :: rest =>
      have := instDecidableAdjoin (max frontier chunk.after) rest
      inferInstanceAs (Decidable (_ ∧ _))

@[simp]
theorem lastByte?_nil (position : Nat) : lastByte? [] position = none :=
  rfl

@[simp]
theorem lastByte?_concat (chunks : List FileChunk) (chunk : FileChunk) (position : Nat) :
    lastByte? (chunks ++ [chunk]) position =
      (chunk.byteAt? position).or (lastByte? chunks position) := by
  simp only [lastByte?, List.reverse_append, List.reverse_singleton, List.singleton_append,
    List.findSome?_cons]
  cases chunk.byteAt? position <;> rfl

theorem byteAt?_of_covers {chunk : FileChunk} {position : Nat} (starts : chunk.offset ≤ position)
    (ends : position < chunk.after) :
    chunk.byteAt? position = chunk.data[position - chunk.offset]? ∧
      (chunk.byteAt? position).isSome := by
  have within : position - chunk.offset < chunk.data.length := by
    rw [after] at ends
    omega
  rw [byteAt?, if_pos starts]
  exact ⟨rfl, by simpa using within⟩

theorem byteAt?_eq_none {chunk : FileChunk} {position : Nat}
    (outside : ¬ (chunk.offset ≤ position ∧ position < chunk.after)) :
    chunk.byteAt? position = none := by
  rw [byteAt?]
  split
  · rename_i starts
    rw [List.getElem?_eq_none_iff]
    rw [after] at outside
    omega
  · rfl

/-- Chunks that adjoin cover everything up to where any of them ends. -/
theorem exists_covering {chunks : List FileChunk} {frontier : Nat} (adjoin : Adjoin frontier chunks)
    {last : FileChunk} (member : last ∈ chunks) {position : Nat} (from_frontier : frontier ≤ position)
    (before : position < last.after) :
    ∃ chunk ∈ chunks, (chunk.byteAt? position).isSome := by
  induction chunks generalizing frontier with
  | nil => cases member
  | cons chunk rest ih =>
      obtain ⟨starts, adjoins⟩ := adjoin
      by_cases ends : position < chunk.after
      · have covers := (byteAt?_of_covers (Nat.le_trans starts from_frontier) ends).2
        exact ⟨chunk, List.mem_cons_self, covers⟩
      · have passed : max frontier chunk.after ≤ position :=
          Nat.max_le.mpr ⟨from_frontier, Nat.le_of_not_lt ends⟩
        rcases List.mem_cons.mp member with rfl | later
        · exact absurd before ends
        · obtain ⟨covering, covers⟩ := ih adjoins later passed
          exact ⟨covering, List.mem_cons_of_mem _ covers.1, covers.2⟩

theorem lastByte?_isSome {chunks : List FileChunk} (adjoin : Adjoin 0 chunks) {last : FileChunk}
    (member : last ∈ chunks) {position : Nat} (before : position < last.after) :
    (lastByte? chunks position).isSome := by
  obtain ⟨chunk, covering, covers⟩ :=
    exists_covering adjoin member (Nat.zero_le position) before
  simp only [lastByte?, List.findSome?_isSome_iff]
  exact ⟨chunk, List.mem_reverse.mpr covering, covers⟩

end FileChunk

namespace FileBuffer

@[simp]
theorem length_content (buffer : FileBuffer) : buffer.content.length = buffer.length := by
  have := buffer.length_written_le
  simp only [content, List.length_append, List.length_replicate]
  omega

@[simp]
theorem content_new (length : Nat) (fits : ([] : Bytes).length ≤ length) :
    (FileBuffer.content ⟨length, [], fits⟩) = List.replicate length 0 := by
  simp [content]

/-- A chunk that can be placed ends within the buffer, and replaces what is there. -/
theorem content_place {chunk : FileChunk} {buffer placed : FileBuffer} {offset : Nat}
    (place : buffer.place chunk = .ok (placed, offset)) :
    offset = chunk.after ∧ chunk.after ≤ buffer.length ∧ placed.length = buffer.length ∧
      placed.content =
        buffer.content.take chunk.offset ++ chunk.data ++ buffer.content.drop chunk.after := by
  have written_le := buffer.length_written_le
  simp only [FileBuffer.place] at place
  split_ifs at place with beyond long empty
  simp only [Except.ok.injEq, Prod.mk.injEq] at place
  obtain ⟨rfl, rfl⟩ := place
  refine ⟨rfl, Nat.le_of_not_lt long, rfl, ?_⟩
  have zerosBefore : min (chunk.offset - buffer.written.length)
      (buffer.length - buffer.written.length) = chunk.offset - buffer.written.length := by
    omega
  have zerosAfter : buffer.length - (min chunk.offset buffer.written.length +
        (chunk.offset - buffer.written.length + (chunk.data.length +
          (buffer.written.length - (chunk.offset + chunk.data.length))))) =
      buffer.length - buffer.written.length -
        (chunk.offset + chunk.data.length - buffer.written.length) := by
    omega
  simp only [content, FileChunk.after, List.take_append, List.drop_append, List.take_replicate,
    List.drop_replicate, List.length_append, List.length_take, List.length_replicate,
    List.length_drop, List.append_assoc, zerosBefore, zerosAfter]

theorem getElem?_content_place {chunk : FileChunk} {buffer placed : FileBuffer} {offset : Nat}
    (place : buffer.place chunk = .ok (placed, offset)) (position : Nat) :
    placed.content[position]? = (chunk.byteAt? position).or buffer.content[position]? := by
  obtain ⟨-, after_le, -, contentEq⟩ := content_place place
  have starts_le : chunk.offset ≤ buffer.length :=
    Nat.le_trans (Nat.le_add_right _ _) after_le
  have beforeLength : (buffer.content.take chunk.offset).length = chunk.offset := by
    rw [List.length_take, length_content, Nat.min_eq_left starts_le]
  have chunkLength : (buffer.content.take chunk.offset ++ chunk.data).length = chunk.after := by
    rw [List.length_append, beforeLength, FileChunk.after]
  rw [contentEq]
  by_cases starts : chunk.offset ≤ position
  · by_cases ends : position < chunk.after
    · obtain ⟨byteEq, covers⟩ := FileChunk.byteAt?_of_covers starts ends
      rw [Option.or_of_isSome covers, byteEq,
        List.getElem?_append_left (Nat.lt_of_lt_of_eq ends chunkLength.symm),
        List.getElem?_append_right (by rwa [beforeLength]), beforeLength]
    · have passed := Nat.le_of_not_lt ends
      rw [FileChunk.byteAt?_eq_none (fun covered => ends covered.2), Option.none_or,
        List.getElem?_append_right (by rwa [chunkLength]), chunkLength, List.getElem?_drop,
        Nat.add_sub_cancel' passed]
  · have earlier := Nat.lt_of_not_le starts
    rw [FileChunk.byteAt?_eq_none (fun covered => starts covered.1), Option.none_or,
      List.append_assoc, List.getElem?_append_left (by rwa [beforeLength]),
      List.getElem?_take_of_lt earlier]

end FileBuffer

end SmpClient
