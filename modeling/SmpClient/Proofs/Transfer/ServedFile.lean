import SmpClient.Proofs.Transfer.Advancing
import SmpClient.Proofs.Transfer.Bounds
import SmpClient.Proofs.Transfer.ChunkReplies

/-!
# Downloads from an honest device

A device is honest if it answers every request with the next bytes of the file, some while there are
some, and tells the length with the first ones.  How many bytes it sends at a time is left to it.  A
download from such a device asks for each chunk where the one before ended, gets one byte more each
time at least, and returns the file.
-/

namespace SmpClient

open Network

namespace Control

variable {control : Control}

/-- A control that nothing but a cancel has closed keeps a transfer from starting by nothing else. -/
theorem aborted_of_start {failure : Error} (startEq : control.start = .error failure)
    (closed : control.phase = .closed → control.canceled = true) :
    failure = .aborted ∧ control.canceled = true := by
  obtain ⟨phase, canceled⟩ := control
  cases phase with
  | closed =>
      obtain rfl : canceled = true := closed rfl
      cases startEq
      exact ⟨rfl, rfl⟩
  | _ => cases startEq

theorem canceled_of_signal {signal : Signal}
    (canceled : (control.signal signal).2.canceled = true) :
    control.canceled = true ∨ signal = .cancel := by
  rcases control.signal_cases signal with ⟨cancels, -, -⟩ | ⟨-, follows⟩
  · exact .inr cancels
  · exact .inl (follows.canceled_eq.symm.trans canceled)

theorem closed_of_signal {signal : Signal} (closed : (control.signal signal).2.phase = .closed) :
    control.phase = .closed ∨ (control.signal signal).2.canceled = true := by
  obtain ⟨phase, canceled⟩ := control
  cases signal <;> cases phase <;> simp_all [Control.signal, pause, resume, cancel]

theorem Steered.unpaused {after : Control} {complete : Prop}
    (steered : Steered control complete after) (unpaused : control.phase ≠ .paused) :
    after.phase ≠ .paused := by
  cases steered with
  | kept => exact unpaused
  | started startEq =>
      rw [active_of_start unpaused startEq]
      decide
  | closed => exact close_ne_paused control

end Control

namespace Stepwise

open SingleUpload (rank)

theorem rank_le (phase : Phase Exchange) : rank phase ≤ 3 := by
  cases phase <;> simp [rank]

/-- Every step that a run takes by itself brings it closer to its next request, unless it is paused. -/
theorem rank_advance_lt {τ α : Type} (kind : Transfer τ Exchange α) {run : Stepwise τ Exchange}
    (unpaused : run.control.phase ≠ .paused)
    (own : ∀ offset request, run.phase ≠ .sending offset request)
    (unended : ∀ result, run.phase ≠ .ended result) :
    rank (run.advance kind).phase < rank run.phase := by
  have unblocked : run.control.isPaused = false := by
    simpa [Control.isPaused] using unpaused
  cases phaseEq : run.phase with
  | starting =>
      simp only [advance, phaseEq]
      cases run.control.start <;> simp [rank]
  | choosing =>
      simp only [advance, phaseEq, unblocked, Bool.false_eq_true, if_false]
      split_ifs
      · simp [rank]
      · simp [rank]
      · split <;> simp [rank]
  | sending offset request => exact absurd phaseEq (own offset request)
  | telling => simp [advance, phaseEq, rank]
  | ended result => exact absurd phaseEq (unended result)

end Stepwise

theorem Stepwise.exists_answer {τ ρ α : Type} {kind : Transfer τ ρ α} {run : Stepwise τ ρ}
    {offset : Nat} {request : ρ} {answer : α} {transfer : τ}
    (phaseEq : run.phase = .sending offset request)
    (accepted : kind.accept request answer run.transfer = (.ok (), transfer))
    (borne : kind.offset transfer = offset → run.stalls < maxStalls) :
    ∃ stalls, run.answer kind answer =
      { run with
        transfer, stalls
        phase := if run.control.canceled then .ended (.error .aborted) else .telling } := by
  rw [Stepwise.answer, phaseEq]
  simp only [accepted, settle]
  by_cases isCanceled : run.control.canceled = true
  · exact ⟨run.stalls, by simp [isCanceled]⟩
  · by_cases stalled : kind.offset transfer = offset
    · have bears : ¬ maxStalls < run.stalls + 1 := Nat.not_lt.mpr (borne stalled)
      exact ⟨run.stalls + 1, by simp [isCanceled, stalled, bears]⟩
    · exact ⟨0, by simp [isCanceled, stalled]⟩

namespace FileChunk

/-- A chunk that holds the next bytes of a file from an offset on: some, while there are some. -/
structure Continues (file : Bytes) (offset : Nat) (chunk : FileChunk) : Prop where
  offset_eq : chunk.offset = offset
  isPrefix : chunk.data <+: file.drop offset
  nonempty : offset < file.length → chunk.data ≠ []

variable {file : Bytes} {offset : Nat} {chunk : FileChunk}

theorem Continues.after_le (continues : Continues file offset chunk)
    (within : offset ≤ file.length) : chunk.after ≤ file.length := by
  have short := continues.isPrefix.length_le
  rw [List.length_drop] at short
  rw [after, continues.offset_eq]
  omega

theorem Continues.lt_after (continues : Continues file offset chunk) (more : offset < file.length) :
    offset < chunk.after := by
  have present := List.length_pos_iff.mpr (continues.nonempty more)
  rw [after, continues.offset_eq]
  omega

/-- With the chunk there are as many bytes of the file as up to its end. -/
theorem Continues.take_after (continues : Continues file offset chunk) :
    file.take chunk.after = file.take offset ++ chunk.data := by
  obtain ⟨others, split⟩ := continues.isPrefix
  rw [after, continues.offset_eq, List.take_add, ← split, List.take_left]

end FileChunk

namespace Download

open FileChunk (Continues)

/-- A device that serves a file: it answers each request for a chunk with the next bytes, whatever it
was asked before, and announces the length with the first of them. -/
def Serves (scheme : Scheme) (path : String) (file : Bytes)
    (answer : List Bytes → Except Error Response) : Prop :=
  ∀ sent seq offset packet, offset ≤ file.length →
    readPacket scheme path seq offset = .ok packet →
      ∃ chunk, Brings scheme ⟨packet, answer (sent ++ [packet])⟩ chunk ∧
        Continues file offset chunk ∧ (sent = [] → chunk.length = some file.length)

/-- Sending two bytes, then one, then two again is serving a file. -/
theorem serves_servingAnswer (scheme : Scheme) {path : String}
    (path_lt : (Bytes.ofText path).length < 2 ^ 64) {file : Bytes} (small : file.length < 2 ^ 32) :
    Serves scheme path file (servingAnswer scheme file) := by
  intro sent seq offset packet within built
  have small64 : file.length < 2 ^ 64 := Nat.lt_trans small (by decide)
  obtain ⟨⟨header, headerEq⟩, offsetEq⟩ :=
    asked_of_readPacket path_lt (Nat.lt_of_le_of_lt within small) built
  have last : (sent ++ [packet]).getLastD [] = packet := by simp
  let chunk : FileChunk :=
    { offset
      data := file.slice offset ((sent ++ [packet]).length % 2 + 1)
      length := if (sent ++ [packet]).length = 1 then some file.length else none }
  have isPrefix : chunk.data <+: file.drop offset := List.take_prefix _ _
  have shorter : chunk.data.length ≤ file.length :=
    isPrefix.length_le.trans (by simp)
  have writable : chunk.Writable := by
    refine ⟨Nat.lt_of_le_of_lt within small64, Nat.lt_of_le_of_lt shorter small64, ?_⟩
    intro length member
    obtain ⟨-, rfl⟩ : (sent ++ [packet]).length = 1 ∧ file.length = length := by
      simpa only [chunk, Option.mem_ite_none_right, Option.mem_some_iff] using member
    exact small64
  obtain ⟨bytes, replyBuilt⟩ := Packet.exists_build scheme header.op.response 0 header.group
    header.seq header.id chunk.fields
  have answerEq : servingAnswer scheme file (sent ++ [packet]) =
      .ok (replying scheme header bytes chunk) := by
    simp only [servingAnswer, last, headerEq, offsetEq, bind, Except.bind]
    rw [replyBuilt]
    rfl
  refine ⟨chunk, ?_, ⟨rfl, isPrefix, ?_⟩, ?_⟩
  · rw [answerEq]
    exact brings_replying headerEq writable replyBuilt
  · intro more empty
    have lengthEq : chunk.data.length = 0 := by rw [empty, List.length_nil]
    rw [Bytes.length_slice] at lengthEq
    omega
  · rintro rfl
    rfl

/-- Requests each of which asks for the chunk at the offset where the one before ended, the first one
at the start of the file.  The last chunk ended at the given offset. -/
inductive Fetched (scheme : Scheme) (path : String) (answer : List Bytes → Except Error Response) :
    List Bytes → Nat → Prop
  | start : Fetched scheme path answer [] 0
  | next {sent : List Bytes} {offset : Nat} {seq : UInt8} {packet : Bytes} {chunk : FileChunk}
      (fetched : Fetched scheme path answer sent offset)
      (asks : readPacket scheme path seq offset = .ok packet)
      (brings : Brings scheme ⟨packet, answer (sent ++ [packet])⟩ chunk) :
      Fetched scheme path answer (sent ++ [packet]) chunk.after

/-- A download that has the bytes of a file up to its offset. -/
structure Gathers (file : Bytes) (state : Download) : Prop where
  offset_le : state.offset ≤ file.length
  unopened : state.buffer = none → state.offset = 0
  length_eq : ∀ buffer, state.buffer = some buffer → buffer.length = file.length
  content_eq : ∀ buffer, state.buffer = some buffer →
    buffer.content.take state.offset = file.take state.offset

variable {file : Bytes} {state : Download}

theorem exists_place {buffer : FileBuffer} {chunk : FileChunk} {offset : Nat}
    (continues : Continues file offset chunk) (lengthEq : buffer.length = file.length)
    (within : offset ≤ file.length) : ∃ placed, buffer.place chunk = .ok (placed, chunk.after) := by
  have after_le := continues.after_le within
  have ended :
      ¬ (chunk.data.isEmpty && chunk.offset + chunk.data.length < buffer.length) = true := by
    rw [Bool.and_eq_true, List.isEmpty_iff, decide_eq_true_eq]
    rintro ⟨empty, early⟩
    have more : offset < file.length := by
      rw [empty, continues.offset_eq] at early
      simpa [lengthEq] using early
    exact continues.nonempty more empty
  rw [FileBuffer.place]
  simp only [FileChunk.after] at after_le ⊢
  rw [if_neg (by omega), dif_neg (by omega), if_neg ended]
  exact ⟨_, rfl⟩

theorem Gathers.exists_opens (gathers : Gathers file state) (small : file.length < 2 ^ 32)
    {chunk : FileChunk} (announced : state.buffer = none → chunk.length = some file.length) :
    ∃ buffer, state.Opens chunk buffer ∧ buffer.length = file.length ∧
      buffer.content.take state.offset = file.take state.offset := by
  cases bufferEq : state.buffer with
  | some buffer =>
      exact ⟨buffer, .inl bufferEq, gathers.length_eq buffer bufferEq,
        gathers.content_eq buffer bufferEq⟩
  | none =>
      have allowed : ¬ FileBuffer.maxLength < file.length := by
        rw [FileBuffer.maxLength]
        omega
      refine ⟨{ length := file.length }, .inr ⟨bufferEq, ?_⟩, rfl, ?_⟩
      · rw [announced bufferEq, FileBuffer.allocate, if_neg allowed]
      · rw [gathers.unopened bufferEq, List.take_zero, List.take_zero]

/-- The next chunk is taken in, and then there are the bytes up to its end. -/
theorem Gathers.store (gathers : Gathers file state) (small : file.length < 2 ^ 32)
    {chunk : FileChunk} (continues : Continues file state.offset chunk)
    (announced : state.buffer = none → chunk.length = some file.length) :
    ∃ buffer, state.store chunk =
        (.ok (), { state with buffer := some buffer, offset := chunk.after }) ∧
      Gathers file { state with buffer := some buffer, offset := chunk.after } := by
  obtain ⟨buffer, opens, lengthEq, contentEq⟩ := gathers.exists_opens small announced
  obtain ⟨placed, placeEq⟩ := exists_place continues lengthEq gathers.offset_le
  obtain ⟨-, takes⟩ := FileBuffer.takes_of_place placeEq
  refine ⟨placed, ?_, continues.after_le gathers.offset_le, by simp, ?_, ?_⟩
  · rw [store_of_opens opens]
    simp only [Download.store, placeEq]
  · rintro _ ⟨rfl⟩
    exact takes.length_eq.trans lengthEq
  · rintro _ ⟨rfl⟩
    have headLength : (file.take state.offset ++ chunk.data).length = chunk.after := by
      rw [← continues.take_after, List.length_take,
        Nat.min_eq_left (continues.after_le gathers.offset_le)]
    rw [takes.content_eq, continues.offset_eq, contentEq, List.take_left' headLength,
      continues.take_after]

/-- Whether a download has come to its end is seen by its offset once there is a buffer. -/
theorem Gathers.isFinished_iff (gathers : Gathers file state) :
    transfer.isFinished state = true ↔ state.buffer ≠ none ∧ state.offset = file.length := by
  rw [Transfer.isFinished]
  cases bufferEq : state.buffer with
  | none => simp [transfer, bufferEq]
  | some buffer => simp [transfer, bufferEq, gathers.length_eq buffer bufferEq]

theorem Gathers.content (gathers : Gathers file state)
    (finished : transfer.isFinished state = true) : state.content = .ok file := by
  obtain ⟨opened, offsetEq⟩ := gathers.isFinished_iff.mp finished
  obtain ⟨buffer, bufferEq⟩ := Option.ne_none_iff_exists'.mp opened
  have lengthEq := gathers.length_eq buffer bufferEq
  have contentEq := gathers.content_eq buffer bufferEq
  have contentLength : buffer.content.length = file.length := by
    rw [FileBuffer.length_content, lengthEq]
  rw [offsetEq, List.take_length, List.take_of_length_le contentLength.le] at contentEq
  simp only [Download.content, bufferEq, lengthEq, if_pos offsetEq, contentEq]

/-- The requests that a download may still send: one for each byte that is missing, and one if nothing
has come at all. -/
def owed (file : Bytes) (state : Download) : Nat :=
  match state.buffer with
  | none => max 1 file.length
  | some _ => file.length - state.offset

theorem Gathers.owed_lt (gathers : Gathers file state)
    (unfinished : transfer.isFinished state = false) {chunk : FileChunk}
    (continues : Continues file state.offset chunk) :
    file.length - chunk.after < owed file state := by
  rw [← Bool.not_eq_true, gathers.isFinished_iff, not_and] at unfinished
  rw [owed]
  cases bufferEq : state.buffer with
  | none =>
      have offsetEq := gathers.unopened bufferEq
      by_cases empty : file.length = 0
      · simp [empty]
      · have ahead := continues.lt_after (by omega)
        simp only
        omega
  | some buffer =>
      have early : state.offset ≠ file.length := unfinished (by simp [bufferEq])
      have more : state.offset < file.length := Nat.lt_of_le_of_ne gathers.offset_le early
      have ahead := continues.lt_after more
      simp only
      omega

end Download

namespace DownloadJob

open Download (Fetched Gathers Serves owed readPacket transfer)
open FileChunk (Continues)
open SingleUpload (rank)
open Stepwise (rank_le)

/-- A download of a served file after some requests: it has come as far as their chunks reach, and
nothing but a cancel lets it fail. -/
structure OnCourse (scheme : Scheme) (path : String) (file : Bytes)
    (device : List Bytes → Except Error Response) (mayCancel : Prop)
    (run : Stepwise Download Exchange) (sent : List Bytes) : Prop where
  scheme_eq : run.transfer.scheme = scheme
  path_eq : run.transfer.path = path
  gathers : Gathers file run.transfer
  fetched : Fetched scheme path device sent run.transfer.offset
  first : run.transfer.buffer = none → sent = [] ∧ run.stalls = 0
  frugal : sent.length + owed file run.transfer ≤ max 1 file.length
  canceled : run.control.canceled = true → mayCancel
  closed : run.control.phase = .closed →
    run.control.canceled = true ∨ ∃ result, run.phase = .ended result
  sends : ∀ offset request, run.phase = .sending offset request →
    offset = run.transfer.offset ∧ transfer.isFinished run.transfer = false ∧
      ∃ seq, readPacket scheme path seq offset = .ok request.packet
  ends : ∀ result, run.phase = .ended result →
    result = .ok () ∧ transfer.isFinished run.transfer = true ∨
      result = .error .aborted ∧ run.control.canceled = true

theorem exists_request (offset : Nat) (state : Download) :
    ∃ packet, readPacket state.scheme state.path state.seq offset = .ok packet ∧
      transfer.request offset state =
        (.ok { packet, kind := .generic }, { state with seq := state.seq + 1 }) := by
  obtain ⟨packet, built⟩ : ∃ packet,
      readPacket state.scheme state.path state.seq offset = .ok packet :=
    Packet.exists_build state.scheme .read 0 Group.file.number state.seq 0 _
  refine ⟨packet, built, ?_⟩
  simp only [transfer, Download.request, built]
  rfl

variable {scheme : Scheme} {path : String} {file : Bytes}
  {device : List Bytes → Except Error Response} {mayCancel : Prop}
  {run : Stepwise Download Exchange} {sent : List Bytes}

theorem OnCourse.start (scheme : Scheme) (path : String) (file : Bytes)
    (device : List Bytes → Except Error Response) (mayCancel : Prop) (seq : UInt8)
    {control : Control} (unclosed : control.phase ≠ .closed)
    (uncanceled : control.canceled = false) :
    OnCourse scheme path file device mayCancel (DownloadJob.start scheme path seq control).run
      [] where
  scheme_eq := rfl
  path_eq := rfl
  gathers := ⟨Nat.zero_le _, fun _ => rfl, by simp [DownloadJob.start], by simp [DownloadJob.start]⟩
  fetched := .start
  first _ := ⟨rfl, rfl⟩
  frugal := by simp [owed, DownloadJob.start]
  canceled isCanceled := by
    rw [DownloadJob.start, uncanceled] at isCanceled
    cases isCanceled
  closed isClosed := absurd isClosed unclosed
  sends _ _ phaseEq := by cases phaseEq
  ends _ phaseEq := by cases phaseEq

/-- What a download does by itself leaves it on its course. -/
theorem OnCourse.advance (course : OnCourse scheme path file device mayCancel run sent) :
    OnCourse scheme path file device mayCancel (run.advance transfer) sent := by
  have advanced := Stepwise.advanced_advance transfer run
  generalize run.advance transfer = after at advanced
  cases advanced with
  | stayed => exact course
  | refused phaseEq started =>
      obtain ⟨rfl, isCanceled⟩ := Control.aborted_of_start started fun isClosed =>
        (course.closed isClosed).resolve_right (by simp [phaseEq])
      exact
        { course with
          closed := fun _ => .inl isCanceled
          sends := by simp
          ends := by rintro _ ⟨rfl⟩; exact .inr ⟨rfl, isCanceled⟩ }
  | begun phaseEq started =>
      rename_i control
      have steered : Control.Steered run.control False control := .started started
      have canceledEq := steered.follows.canceled_eq
      refine
        { course with
          canceled := fun isCanceled => course.canceled (canceledEq.symm.trans isCanceled)
          closed := fun isClosed => ?_
          sends := by simp
          ends := by simp }
      have wasClosed := (steered.complete_of_closed isClosed).resolve_right id
      exact .inl (canceledEq.trans ((course.closed wasClosed).resolve_right (by simp [phaseEq])))
  | completed phaseEq finished =>
      exact
        { course with
          canceled := course.canceled
          closed := fun _ => .inr ⟨_, rfl⟩
          sends := by simp
          ends := by rintro _ ⟨rfl⟩; exact .inl ⟨rfl, finished⟩ }
  | aborted phaseEq unfinished isAborted =>
      have isCanceled := (Control.isAborted_iff.mp isAborted).2
      exact
        { course with
          closed := fun _ => .inl isCanceled
          sends := by simp
          ends := by rintro _ ⟨rfl⟩; exact .inr ⟨rfl, isCanceled⟩ }
  | failed phaseEq uncanceled requested =>
      obtain ⟨packet, -, requestEq⟩ := exists_request (transfer.offset run.transfer) run.transfer
      rw [requestEq] at requested
      cases requested
  | requested phaseEq unfinished uncanceled requested =>
      obtain ⟨packet, built, requestEq⟩ :=
        exists_request (transfer.offset run.transfer) run.transfer
      rw [requestEq] at requested
      cases requested
      rw [course.scheme_eq, course.path_eq] at built
      have gathers := course.gathers
      exact
        { course with
          gathers := ⟨gathers.offset_le, gathers.unopened, gathers.length_eq, gathers.content_eq⟩
          closed := fun isClosed =>
            .inl ((course.closed isClosed).resolve_right (by simp [phaseEq]))
          sends := by rintro _ _ ⟨rfl, rfl⟩; exact ⟨rfl, unfinished, _, built⟩
          ends := by simp }
  | told phaseEq =>
      exact
        { course with
          closed := fun isClosed =>
            .inl ((course.closed isClosed).resolve_right (by simp [phaseEq]))
          sends := by simp
          ends := by simp }

theorem OnCourse.signal (course : OnCourse scheme path file device mayCancel run sent)
    {signal : Signal} (allowed : signal = .cancel → mayCancel) :
    OnCourse scheme path file device mayCancel (run.signal signal).2 sent where
  scheme_eq := course.scheme_eq
  path_eq := course.path_eq
  gathers := course.gathers
  fetched := course.fetched
  first := course.first
  frugal := course.frugal
  canceled isCanceled := (Control.canceled_of_signal isCanceled).elim course.canceled allowed
  closed isClosed := by
    rcases Control.closed_of_signal isClosed with wasClosed | isCanceled
    · exact (course.closed wasClosed).imp_left (Control.canceled_signal signal)
    · exact .inl isCanceled
  sends := course.sends
  ends result phaseEq :=
    (course.ends result phaseEq).imp_right fun aborted =>
      ⟨aborted.1, Control.canceled_signal signal aborted.2⟩

/-- A chunk that brings a download no further is its first one, so no stall came before it. -/
theorem OnCourse.stalls_of_after_eq (course : OnCourse scheme path file device mayCancel run sent)
    (unfinished : transfer.isFinished run.transfer = false) {chunk : FileChunk}
    (continues : Continues file run.transfer.offset chunk)
    (stalled : chunk.after = run.transfer.offset) : run.stalls = 0 := by
  -- an empty chunk is all that is left of the file, so a buffer would have ended the download
  have complete : file.length ≤ run.transfer.offset :=
    Nat.not_lt.mp fun more => absurd stalled (Nat.ne_of_gt (continues.lt_after more))
  have unopened : run.transfer.buffer = none := by
    by_contra opened
    have finished := course.gathers.isFinished_iff.mpr
      ⟨opened, Nat.le_antisymm course.gathers.offset_le complete⟩
    rw [unfinished] at finished
    cases finished
  exact (course.first unopened).2

/-- What an honest device answers leaves a download on its course, with fewer requests to go. -/
theorem OnCourse.answer (serves : Serves scheme path file device) (small : file.length < 2 ^ 32)
    (course : OnCourse scheme path file device mayCancel run sent) {offset : Nat}
    {request : Exchange} (phaseEq : run.phase = .sending offset request) :
    OnCourse scheme path file device mayCancel
        (run.answer transfer (device (sent ++ [request.packet]))) (sent ++ [request.packet]) ∧
      owed file (run.answer transfer (device (sent ++ [request.packet]))).transfer <
        owed file run.transfer := by
  obtain ⟨rfl, unfinished, seq, asks⟩ := course.sends _ _ phaseEq
  obtain ⟨chunk, brings, continues, announces⟩ :=
    serves sent seq run.transfer.offset request.packet course.gathers.offset_le asks
  obtain ⟨buffer, storeEq, gathers⟩ :=
    course.gathers.store small continues fun unopened => announces (course.first unopened).1
  have accepted : transfer.accept request (device (sent ++ [request.packet])) run.transfer =
      (.ok (), { run.transfer with buffer := some buffer, offset := chunk.after }) := by
    have found : run.transfer.chunkOf request.packet (device (sent ++ [request.packet])) =
        .ok chunk := by
      rw [← course.scheme_eq] at brings
      exact brings
    simp only [transfer, Download.accept, found, storeEq]
  have owed_lt := course.gathers.owed_lt unfinished continues
  have fetched := course.fetched.next asks brings
  have frugal : (sent ++ [request.packet]).length + (file.length - chunk.after) ≤
      max 1 file.length := by
    have := course.frugal
    rw [List.length_append, List.length_singleton]
    omega
  have borne : chunk.after = run.transfer.offset → run.stalls < maxStalls := by
    intro stalled
    rw [course.stalls_of_after_eq unfinished continues stalled, maxStalls]
    decide
  have unclosed (isClosed : run.control.phase = .closed) : run.control.canceled = true :=
    (course.closed isClosed).resolve_right (by simp [phaseEq])
  obtain ⟨stalls, answerEq⟩ := Stepwise.exists_answer phaseEq accepted borne
  rw [answerEq]
  refine ⟨?_, owed_lt⟩
  exact
    { scheme_eq := course.scheme_eq
      path_eq := course.path_eq
      gathers, fetched, frugal
      first := by simp
      canceled := course.canceled
      closed := fun isClosed => .inl (unclosed isClosed)
      sends := by
        intro offset request sending
        dsimp only at sending
        split at sending <;> cases sending
      ends := by
        intro result ended
        dsimp only at ended
        split at ended <;> cases ended
        rename_i isCanceled
        exact .inr ⟨rfl, isCanceled⟩ }

theorem owed_advance (file : Bytes) (run : Stepwise Download Exchange) :
    owed file (run.advance transfer).transfer = owed file run.transfer := by
  have advanced := Stepwise.advanced_advance transfer run
  generalize run.advance transfer = after at advanced
  cases advanced with
  | failed phaseEq uncanceled requested | requested phaseEq unfinished uncanceled requested =>
      obtain rfl := congrArg Prod.snd requested
      rfl
  | _ => rfl

theorem plainStep_of_sending {network : Network DownloadJob (List Bytes)} {offset : Nat}
    {request : Exchange} (phaseEq : network.state.run.phase = .sending offset request) :
    network.plainStep machine device =
      { network with
        state := ⟨network.state.run.answer transfer (device (network.device ++ [request.packet]))⟩
        device := network.device ++ [request.packet] } := by
  simp [plainStep, machine, Stepwise.need, Stepwise.feed, Need.map, phaseEq]

theorem plainStep_of_ne_sending {network : Network DownloadJob (List Bytes)}
    (own : ∀ offset request, network.state.run.phase ≠ .sending offset request) :
    network.plainStep machine device =
      { network with state := ⟨network.state.run.advance transfer⟩ } := by
  cases phaseEq : network.state.run.phase with
  | sending offset request => exact absurd phaseEq (own offset request)
  | choosing =>
      cases blocked : Stepwise.isBlocked transfer network.state.run <;>
        simp [plainStep, machine, Stepwise.need, Stepwise.feed, Need.map, phaseEq, blocked]
  | ended result =>
      simp [plainStep, machine, Stepwise.need, Stepwise.advance, Need.map, phaseEq]
  | _ => simp [plainStep, machine, Stepwise.need, Stepwise.feed, Need.map, phaseEq]

section

variable {network : Network DownloadJob (List Bytes)}
  (serves : Serves scheme path file device) (small : file.length < 2 ^ 32)
  (course : OnCourse scheme path file device mayCancel network.state.run network.device)

include serves small course

theorem OnCourse.plainStep :
    OnCourse scheme path file device mayCancel (network.plainStep machine device).state.run
      (network.plainStep machine device).device := by
  by_cases out : ∃ offset request, network.state.run.phase = .sending offset request
  · obtain ⟨offset, request, phaseEq⟩ := out
    rw [plainStep_of_sending phaseEq]
    exact (course.answer serves small phaseEq).1
  · rw [plainStep_of_ne_sending fun offset request phaseEq => out ⟨offset, request, phaseEq⟩]
    exact course.advance

/-- With every step of a download that is not paused there is less to go: three steps at most go by
between one request and the next. -/
theorem OnCourse.left_lt (unpaused : network.state.run.control.phase ≠ .paused)
    (unended : ∀ result, network.state.run.phase ≠ .ended result) :
    let after := (network.plainStep machine device).state.run
    after.control.phase ≠ .paused ∧
      3 * owed file after.transfer + rank after.phase <
        3 * owed file network.state.run.transfer + rank network.state.run.phase := by
  by_cases out : ∃ offset request, network.state.run.phase = .sending offset request
  · obtain ⟨offset, request, phaseEq⟩ := out
    have steered : Control.Steered network.state.run.control _ (network.state.run.feed transfer
        (.answer (device (network.device ++ [request.packet])))).control :=
      Stepwise.steered_feed _
    have fewer := (course.answer serves small phaseEq).2
    rw [plainStep_of_sending phaseEq, phaseEq]
    refine ⟨steered.unpaused unpaused, ?_⟩
    have rank_le := rank_le (network.state.run.answer transfer
      (device (network.device ++ [request.packet]))).phase
    have one : rank (.sending offset request) = 1 := rfl
    rw [one]
    dsimp only
    omega
  · have own : ∀ offset request, network.state.run.phase ≠ .sending offset request :=
      fun offset request phaseEq => out ⟨offset, request, phaseEq⟩
    have steered : Control.Steered network.state.run.control _
        (network.state.run.feed transfer .ready).control :=
      Stepwise.steered_feed .ready
    have rank_lt := Stepwise.rank_advance_lt transfer unpaused own unended
    rw [plainStep_of_ne_sending own]
    refine ⟨steered.unpaused unpaused, ?_⟩
    simp only [owed_advance]
    omega

end

/-- A download of a served file that is not paused, with so many steps to go at most. -/
def Nearing (scheme : Scheme) (path : String) (file : Bytes)
    (device : List Bytes → Except Error Response) (left : Nat)
    (network : Network DownloadJob (List Bytes)) : Prop :=
  OnCourse scheme path file device True network.state.run network.device ∧
    network.state.run.control.phase ≠ .paused ∧
    3 * owed file network.state.run.transfer + rank network.state.run.phase ≤ left

theorem nears (serves : Serves scheme path file device) (small : file.length < 2 ^ 32) :
    Nears machine device (Nearing scheme path file device)
      fun job => ∃ result, job.run.phase = .ended result where
  signaled := by
    rintro signal left network other ⟨course, unpaused, enough⟩
    exact ⟨course.signal fun _ => trivial, Control.unpaused_signal other unpaused, enough⟩
  done_of_signal _ _ ended := ended
  stepped := by
    rintro left network ⟨course, unpaused, enough⟩ undone
    obtain ⟨stillUnpaused, fewer⟩ := course.left_lt serves small unpaused (not_exists.mp undone)
    exact ⟨_, Nat.lt_of_lt_of_le fewer enough, course.plainStep serves small, stillUnpaused, le_rfl⟩

section

variable {network : Network (Logged DownloadJob Progress) (List Bytes)}
  {rounds : List (List Signal)}

theorem OnCourse.runAtOnce (serves : Serves scheme path file device) (small : file.length < 2 ^ 32)
    (kept : ∀ signals ∈ rounds, .cancel ∉ signals) (idle : network.posted = [])
    (course : OnCourse scheme path file device False network.state.state.run network.device) :
    let after := network.runAtOnce machine device rounds
    after.posted = [] ∧
      OnCourse scheme path file device False after.state.state.run after.device := by
  let holds (network : Network DownloadJob (List Bytes)) : Prop :=
    OnCourse scheme path file device False network.state.run network.device
  refine runAtOnce_invariant holds (· ≠ .cancel) ?_ idle course ?_ ?_
  · intro signal network other course
    exact OnCourse.signal course fun cancels => absurd cancels other
  · intro network course
    exact OnCourse.plainStep serves small course
  · rintro signals member signal among rfl
    exact kept signals member among

theorem runAtOnce_of_ended {result : Except Error Unit} (idle : network.posted = [])
    (phaseEq : network.state.state.run.phase = .ended result) :
    (network.runAtOnce machine device rounds).state.state.run.phase = .ended result := by
  let holds (network : Network DownloadJob (List Bytes)) : Prop :=
    network.state.run.phase = .ended result
  refine (runAtOnce_invariant holds (fun _ => True) ?_ idle phaseEq ?_ ?_).2
  · intro signal network _ phaseEq
    exact phaseEq
  · intro network phaseEq
    have phaseEq : network.state.run.phase = .ended result := phaseEq
    have own : ∀ offset request, network.state.run.phase ≠ .sending offset request := by
      simp [phaseEq]
    have same : network.state.run.advance Download.transfer = network.state.run :=
      Stepwise.feed_ended phaseEq .ready
    simp only [holds, plainStep_of_ne_sending own, same, phaseEq]
  · simp

end

theorem OnCourse.of_ended (course : OnCourse scheme path file device False run sent)
    {result : Except Error Unit} (phaseEq : run.phase = .ended result) :
    machine.need ⟨run⟩ = .finished (.ok file) ∧ run.transfer.offset = file.length := by
  rcases course.ends result phaseEq with ⟨rfl, finished⟩ | ⟨-, isCanceled⟩
  · refine ⟨?_, (course.gathers.isFinished_iff.mp finished).2⟩
    have contentEq := course.gathers.content finished
    simp [machine, Stepwise.need, phaseEq, Need.map, DownloadJob.result, contentEq]
  · exact (course.canceled isCanceled).elim

/-- A download of a file of less than four gigabytes from a device that serves it asks for each chunk
where the one before ended, sends one request for each byte at most, or one for an empty file, and
returns nothing but the file.  Once it is left alone, and not paused, it ends. -/
theorem file_of_served (serves : Serves scheme path file device) (small : file.length < 2 ^ 32)
    (seq : UInt8) {control : Control} (unclosed : control.phase ≠ .closed)
    (uncanceled : control.canceled = false) {rounds : List (List Signal)}
    (kept : ∀ signals ∈ rounds, .cancel ∉ signals) :
    let start : Network (Logged DownloadJob Progress) (List Bytes) :=
      settled (DownloadJob.start scheme path seq control) [] [] [] []
    let reached := start.runAtOnce machine device rounds
    (∃ offset, Fetched scheme path device reached.device offset) ∧
    reached.device.length ≤ max 1 file.length ∧
    (∀ result, machine.need reached.state.state = .finished result →
      result = .ok file ∧ Fetched scheme path device reached.device file.length) ∧
    (reached.state.state.run.control.phase ≠ .paused → ∀ more,
      (∀ signals ∈ more, .pause ∉ signals ∧ .cancel ∉ signals) →
      3 * max 1 file.length + 3 ≤ more.length →
      machine.need (reached.runAtOnce machine device more).state.state = .finished (.ok file)) := by
  intro start reached
  have beginning := OnCourse.start scheme path file device False seq unclosed uncanceled
  have startIdle : start.posted = [] := rfl
  obtain ⟨idle, course⟩ := OnCourse.runAtOnce serves small kept startIdle beginning
  refine ⟨⟨_, course.fetched⟩, Nat.le_of_add_right_le course.frugal, ?_, ?_⟩
  · intro result needEq
    obtain ⟨ended, phaseEq, -⟩ := need_eq_finished needEq
    obtain ⟨needEq', offsetEq⟩ := course.of_ended phaseEq
    have resultEq := Need.finished.inj (needEq.symm.trans needEq')
    exact ⟨resultEq, offsetEq ▸ course.fetched⟩
  · intro unpaused more left enough
    have near : Nearing scheme path file device (3 * max 1 file.length + 3) reached.unlogged := by
      have frugal : reached.device.length + owed file reached.state.state.run.transfer ≤
          max 1 file.length := course.frugal
      have rank_le := rank_le reached.state.state.run.phase
      refine ⟨{ course with canceled := fun _ => trivial }, unpaused, ?_⟩
      -- what was sent already only makes less of what is owed
      change 3 * owed file reached.state.state.run.transfer +
        rank reached.state.state.run.phase ≤ _
      omega
    obtain ⟨prior, later, rfl, endingIdle, -, result, phaseEq⟩ :=
      (nears serves small).exists_done idle near enough fun signals member =>
        (left signals member).1
    have phaseEq : (reached.runAtOnce machine device (prior ++ later)).state.state.run.phase =
        .ended result := by
      rw [Network.runAtOnce, List.foldl_append]
      exact runAtOnce_of_ended endingIdle phaseEq
    obtain ⟨-, ending⟩ := OnCourse.runAtOnce serves small
      (fun signals member => (left signals member).2) idle course
    exact (ending.of_ended phaseEq).1

/-- Five bytes come in three chunks, also when the download is paused and resumed before. -/
theorem file_of_served_fiveBytes :
    let file : Bytes := [1, 2, 3, 4, 5]
    let device := Download.servingAnswer .coapBle file
    let start : Network (Logged DownloadJob Progress) (List Bytes) :=
      settled (DownloadJob.start .coapBle "/lfs/log" 255 {}) [] [] [] []
    let reached := start.runAtOnce machine device [[], [.pause], [.resume]]
    Serves .coapBle "/lfs/log" file device ∧
      (∀ signals ∈ [[], [.pause], [.resume]], Signal.cancel ∉ signals) ∧
      reached.state.state.run.control.phase ≠ .paused ∧
      machine.need (reached.runAtOnce machine device (List.replicate 18 [])).state.state =
        .finished (.ok file) := by
  intro file device
  have path_lt : (Bytes.ofText "/lfs/log").length < 2 ^ 64 := by decide +kernel
  have small : file.length < 2 ^ 32 := by decide
  have serves : Serves .coapBle "/lfs/log" file device :=
    Download.serves_servingAnswer .coapBle path_lt small
  have kept : ∀ signals ∈ [[], [.pause], [.resume]], Signal.cancel ∉ signals := by decide
  have unclosed : ({} : Control).phase ≠ .closed := by decide
  obtain ⟨-, -, -, ends⟩ := file_of_served serves small 255 unclosed rfl kept
  have alone : ∀ signals ∈ List.replicate 18 ([] : List Signal),
      .pause ∉ signals ∧ .cancel ∉ signals := by simp
  refine ⟨serves, kept, ?resumed, ends ?resumed _ alone (by simp [file])⟩
  decide +kernel

end DownloadJob

end SmpClient
