import SmpClient.Proofs.Transfer.ChunkFits
import SmpClient.Transfer.Stepwise

/-!
# The course of an upload

As long as the device acknowledges every chunk with its end, the chunks of an upload follow one
another through the data.  Which chunks these are depends on nothing that the device does.  This file
says which they are, that there always is a next one, and what comes of them when the device refuses
one.
-/

namespace SmpClient

namespace Upload

/-- A chunk on its way, with where it starts and the header of its packet. -/
structure Leg where
  offset : Nat
  chunk : Chunk
  request : Header

namespace Leg

def after (leg : Leg) : Nat :=
  leg.offset + leg.chunk.length

def exchange (leg : Leg) : Exchange :=
  { packet := leg.chunk.packet, kind := .uploadAck }

/-- The ticket of a leg that is sent ahead in the first generation. -/
def ticket (attempt : Nat) (leg : Leg) : Ticket :=
  { attempt, generation := 0, offset := leg.offset, length := leg.chunk.length,
    request := leg.request }

end Leg

def packets (legs : List Leg) : List Bytes :=
  legs.map fun leg => leg.chunk.packet

/-- The progress that is told of when the device acknowledges legs with their ends. -/
def progress (upload : Upload) (legs : List Leg) : List Progress :=
  legs.map fun leg => { current := leg.after, total := upload.data.length }

section

variable (leg : Leg) (legs rest : List Leg) (upload : Upload)

@[simp]
theorem attempt_ticket (attempt : Nat) : (leg.ticket attempt).attempt = attempt :=
  rfl

@[simp]
theorem generation_ticket (attempt : Nat) : (leg.ticket attempt).generation = 0 :=
  rfl

theorem Leg.after_ne_offset {leg : Leg} (pos : 0 < leg.chunk.length) : leg.after ≠ leg.offset := by
  rw [Leg.after]
  omega

@[simp]
theorem packets_nil : packets [] = [] :=
  rfl

@[simp]
theorem packets_cons : packets (leg :: legs) = leg.chunk.packet :: packets legs :=
  rfl

@[simp]
theorem packets_append : packets (legs ++ rest) = packets legs ++ packets rest :=
  List.map_append

@[simp]
theorem progress_nil : upload.progress [] = [] :=
  rfl

end

/-- The legs from an offset to the end of the data, when `seq` is the next sequence number. -/
inductive Course (upload : Upload) : (seq : UInt8) → (offset : Nat) → List Leg → Prop
  | finished {seq : UInt8} {offset : Nat} (complete : offset = upload.data.length) :
      Course upload seq offset []
  | next {seq : UInt8} {offset : Nat} {leg : Leg} {legs : List Leg} (starts : leg.offset = offset)
      (chunkEq : upload.nextChunk seq offset = (.ok leg.chunk, seq + 2))
      (headerEq : Packet.header upload.scheme leg.chunk.packet = .ok leg.request)
      (pos : 0 < leg.chunk.length) (rest : Course upload (seq + 2) leg.after legs) :
      Course upload seq offset (leg :: legs)

variable {upload : Upload}

theorem Course.offset_le {seq : UInt8} {offset : Nat} {legs : List Leg}
    (course : upload.Course seq offset legs) : offset ≤ upload.data.length := by
  induction course with
  | finished complete => exact Nat.le_of_eq complete
  | next starts chunkEq headerEq pos rest ih =>
      rw [Leg.after, starts] at ih
      exact Nat.le_of_add_right_le ih

theorem Course.offset_lt {seq : UInt8} {offset : Nat} {leg : Leg} {legs : List Leg}
    (course : upload.Course seq offset (leg :: legs)) : offset < upload.data.length := by
  cases course with
  | next starts chunkEq headerEq pos rest =>
      have after_le := rest.offset_le
      rw [Leg.after, starts] at after_le
      omega

theorem Course.header_of_mem {seq : UInt8} {offset : Nat} {legs : List Leg}
    (course : upload.Course seq offset legs) {leg : Leg} (member : leg ∈ legs) :
    Packet.header upload.scheme leg.chunk.packet = .ok leg.request := by
  induction course with
  | finished complete => cases member
  | next starts chunkEq headerEq pos rest ih =>
      rcases List.mem_cons.mp member with rfl | later
      · exact headerEq
      · exact ih later

theorem Course.length_packet_le (addressable : upload.Addressable) {seq : UInt8} {offset : Nat}
    {legs : List Leg} (course : upload.Course seq offset legs) {leg : Leg} (member : leg ∈ legs) :
    leg.chunk.packet.length + upload.scheme.framingOverhead ≤ upload.mtu := by
  induction course with
  | finished complete => cases member
  | next starts chunkEq headerEq pos rest ih =>
      rcases List.mem_cons.mp member with rfl | later
      · exact Upload.length_packet_le addressable chunkEq pos
      · exact ih later

theorem nextChunk_of_chunkLength {seq : UInt8} {offset length : Nat} {packet : Bytes}
    (sized : upload.chunkLength seq offset = .ok length)
    (built : upload.chunkPacket (seq + 1) offset length = .ok packet) :
    upload.nextChunk seq offset = (.ok { packet, length }, seq + 2) := by
  simp only [nextChunk, sized, built, Except.map]

/-- If the first chunk can be sized there is a course from every offset. -/
theorem exists_course (addressable : upload.Addressable) (nonempty : upload.data ≠ [])
    {first : UInt8} (fits : ∃ length, upload.chunkLength first 0 = .ok length) (seq : UInt8)
    {offset : Nat} (within : offset ≤ upload.data.length) : ∃ legs, upload.Course seq offset legs := by
  -- Every chunk takes at least one of the bytes that are left.
  induction leftEq : upload.data.length - offset using Nat.strongRecOn generalizing seq offset with
  | ind left ih =>
      rcases Nat.eq_or_lt_of_le within with complete | short
      · exact ⟨[], .finished complete⟩
      · obtain ⟨length, sized⟩ := exists_chunkLength addressable nonempty fits seq short
        obtain ⟨packet, request, built, headerEq⟩ :=
          exists_chunkPacket addressable (seq + 1) offset length
        obtain ⟨length_le, length_pos⟩ := chunkLength_bounds sized
        have pos := length_pos short
        have after_le : offset + length ≤ upload.data.length := by omega
        obtain ⟨legs, rest⟩ := ih _ (by omega) (seq + 2) after_le rfl
        have chunkEq := nextChunk_of_chunkLength sized built
        exact ⟨{ offset, chunk := { packet, length }, request } :: legs,
          .next rfl chunkEq headerEq pos rest⟩

/-! ## What the device answers -/

/-- Success, with the end of a leg as the offset, in a response that belongs to the leg. -/
structure Acknowledged (leg : Leg) (response : Response) : Prop where
  answers : ∀ header, response.header = some header → leg.request.isAnsweredBy header = true
  succeeds : response.check = .ok response
  offsetEq : response.offset = some leg.after

/-- The outcomes by which a leg comes to nothing. -/
inductive Refused (upload : Upload) (leg : Leg) : Except Error Response → Prop
  | failure (failure : Error) : Refused upload leg (.error failure)
  | otherAnswer {response : Response} {header : Header} (headerEq : response.header = some header)
      (other : leg.request.isAnsweredBy header = false) : Refused upload leg (.ok response)
  | deviceError {response : Response} {failure : Error} (fails : response.check = .error failure) :
      Refused upload leg (.ok response)
  | noOffset {response : Response} (offsetEq : response.offset = none) :
      Refused upload leg (.ok response)
  | offsetBeyond {response : Response} {offset : Nat} (offsetEq : response.offset = some offset)
      (beyond : upload.data.length < offset) : Refused upload leg (.ok response)

/-- A device, that answers packets by all those it has, acknowledges legs one after another. -/
def Acknowledging (answer : List Bytes → Except Error Response) : List Bytes → List Leg → Prop
  | _, [] => True
  | sent, leg :: legs =>
      (∃ response, answer (sent ++ [leg.chunk.packet]) = .ok response ∧
        Acknowledged leg response) ∧ Acknowledging answer (sent ++ [leg.chunk.packet]) legs

/-- What comes of legs of which each is sent when the one before is acknowledged: the progress and
the result.  The offset that an outcome acknowledges is its `reading`. -/
inductive Concludes (upload : Upload) (answer : List Bytes → Except Error Response)
    (reading : Leg → Except Error Response → Except Error Nat) :
    (sent : List Bytes) → List Leg → List Progress → Except Error Unit → Prop
  | completed {sent : List Bytes} : Concludes upload answer reading sent [] [] (.ok ())
  | acknowledged {sent : List Bytes} {leg : Leg} {legs : List Leg} {told : List Progress}
      {result : Except Error Unit}
      (read : reading leg (answer (sent ++ [leg.chunk.packet])) = .ok leg.after)
      (rest : Concludes upload answer reading (sent ++ [leg.chunk.packet]) legs told result) :
      Concludes upload answer reading sent (leg :: legs)
        ({ current := leg.after, total := upload.data.length } :: told) result
  | refused {sent : List Bytes} {leg : Leg} {legs : List Leg} {failure : Error}
      (read : reading leg (answer (sent ++ [leg.chunk.packet])) = .error failure) :
      Concludes upload answer reading sent (leg :: legs) [] (.error failure)

/-- Legs that are acknowledged leave the conclusion to those that follow. -/
theorem Concludes.of_acknowledging {answer : List Bytes → Except Error Response}
    {reading : Leg → Except Error Response → Except Error Nat}
    (reads : ∀ {leg : Leg}, Packet.header upload.scheme leg.chunk.packet = .ok leg.request →
      leg.after ≤ upload.data.length → ∀ {response : Response}, Acknowledged leg response →
      reading leg (.ok response) = .ok leg.after)
    {seq : UInt8} {offset : Nat} {legs rest : List Leg}
    (course : upload.Course seq offset (legs ++ rest)) {sent : List Bytes}
    (acknowledging : Acknowledging answer sent legs) {told : List Progress}
    {result : Except Error Unit}
    (concludes : Concludes upload answer reading (sent ++ packets legs) rest told result) :
    Concludes upload answer reading sent (legs ++ rest) (upload.progress legs ++ told) result := by
  induction legs generalizing seq offset sent with
  | nil => simpa using concludes
  | cons leg legs ih =>
      cases course with
      | next starts chunkEq headerEq pos course =>
          obtain ⟨⟨response, answerEq, acknowledged⟩, acknowledging⟩ := acknowledging
          have read := reads headerEq course.offset_le acknowledged
          rw [← answerEq] at read
          refine .acknowledged read (ih course acknowledging ?_)
          simpa using concludes

end Upload

end SmpClient
