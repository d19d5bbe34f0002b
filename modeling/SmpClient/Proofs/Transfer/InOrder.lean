import SmpClient.Proofs.Transfer.JobSteps
import SmpClient.Proofs.Transfer.SingleSteps
import SmpClient.Proofs.Transfer.WindowQueue

/-!
# Uploads over links that keep the order

An upload over a link that keeps the order of requests and acknowledgements is exact, whatever its
window, whatever the device held before and takes of each chunk, whichever requests get lost, and
also when it starts over with shorter packets.
-/

namespace SmpClient

namespace UploadJob

open Storage

/-- An upload job, its device, and what the link still has of its attempts. -/
inductive Tracked (upload : Upload) (network : Network UploadJob Storage) : Prop
  | single (run : Stepwise SingleUpload Exchange) (engineEq : network.state.engine = .single run)
      (plain : ¬ 1 < network.state.capacity) (posted_eq : network.posted = [])
      (answered_eq : network.answered = [])
      (tracked : SingleUpload.Tracked upload run network.device)
  | windowed (window : Window) (engineEq : network.state.engine = .windowed window)
      (several : 1 < network.state.capacity)
      (attempt_eq : window.attempt = network.state.attempt)
      (tracked : Window.Tracked upload window network)

section

variable {upload : Upload} {before after : Network UploadJob Storage}
  {move : Network.Move Treatment}

/-- A new attempt starts from the beginning, with all requests of older attempts behind it. -/
theorem Tracked.start (nonempty : upload.data ≠ []) {network : Network UploadJob Storage}
    (mtu : Nat) (seq : UInt8) (control : Control)
    (engineEq : network.state.engine = .start { upload with mtu } network.state.capacity
      network.state.attempt seq control)
    (plain : ¬ 1 < network.state.capacity → network.posted = [] ∧ network.answered = [])
    (carries : ∀ request ∈ network.posted,
      Carries upload request.packet request.ticket.offset request.ticket.length)
    (length_pos : ∀ ticket ∈ network.answered.map (·.ticket) ++ network.posted.map (·.ticket),
      0 < ticket.length)
    (older : ∀ ticket ∈ network.answered.map (·.ticket) ++ network.posted.map (·.ticket),
      ticket.attempt < network.state.attempt) : Tracked upload network := by
  have data_pos : 0 < upload.data.length := List.length_pos_iff.mpr nonempty
  rw [UploadEngine.start] at engineEq
  split at engineEq
  · rename_i several
    refine .windowed _ engineEq several rfl ?_
    refine Window.tracked_of_older nonempty ⟨mtu, rfl⟩ ?_ rfl rfl carries length_pos older
    exact ⟨⟨Nat.lt_of_succ_lt several, Nat.zero_le _, Nat.zero_le _, Nat.zero_le _⟩, trivial⟩
  · rename_i single
    refine .single _ engineEq single (plain single).1 (plain single).2 ?_
    exact
      { known :=
          { upload_eq := ⟨mtu, rfl⟩
            offset_le := Nat.zero_le _
            held := .inl rfl
            complete := fun complete => absurd complete (Nat.ne_of_lt data_pos) }
        sending := by simp
        ended := by simp }

theorem Tracked.retry (nonempty : upload.data ≠ []) (tracked : Tracked upload before) (mtu : Nat) :
    Tracked upload { before with state := before.state.retry mtu } := by
  cases tracked with
  | single run engineEq plain posted_eq answered_eq tracked =>
      obtain ⟨first, uploadEq⟩ := tracked.known.upload_eq
      refine .start nonempty mtu before.state.engine.seq before.state.engine.control ?_
        (fun _ => ⟨posted_eq, answered_eq⟩) ?_ ?_ ?_
      · simp [UploadJob.retry, engineEq, UploadEngine.upload, uploadEq]
      · simp [posted_eq]
      · simp [posted_eq, answered_eq]
      · simp [posted_eq, answered_eq]
  | windowed window engineEq several attempt_eq tracked =>
      obtain ⟨first, uploadEq⟩ := tracked.upload_eq
      refine .start nonempty mtu before.state.engine.seq before.state.engine.control ?_
        (fun plain => absurd several plain) tracked.carries tracked.queue.length_pos ?_
      · simp [UploadJob.retry, engineEq, UploadEngine.upload, uploadEq]
      · intro ticket member
        have attempt_le : ticket.attempt ≤ window.attempt := tracked.queue.attempt_le ticket member
        rw [attempt_eq] at attempt_le
        exact Nat.lt_succ_of_le attempt_le

theorem Tracked.fed (representable : upload.Representable) (nonempty : upload.data ≠ [])
    (tracked : Tracked upload before) {reply : Reply}
    (own : Network.OwnReply (machine.need before.state) reply) :
    Tracked upload { before with state := machine.feed reply before.state } := by
  cases retryEq : before.state.retryMtu? with
  | some mtu =>
      have needEq : machine.need before.state = .step := by simp only [machine, need, retryEq]
      cases own with
      | ready =>
          have fedEq : machine.feed .ready before.state = before.state.retry mtu := by
            simp only [machine, feed, retryEq]
          rw [fedEq]
          exact tracked.retry nonempty mtu
      | silence collects =>
          rw [needEq] at collects
          cases collects
  | none =>
      rw [need_of_retryMtu? retryEq] at own
      rw [feed_of_retryMtu? retryEq]
      cases tracked with
      | single run engineEq plain posted_eq answered_eq tracked =>
          rw [engineEq] at own ⊢
          refine .single (run.feed SingleUpload.transfer reply) rfl plain posted_eq answered_eq ?_
          cases own with
          | ready => exact tracked.advance representable
          | silence collects => exact absurd collects run.need_ne_collect
      | windowed window engineEq several attempt_eq tracked =>
          rw [engineEq] at own ⊢
          refine .windowed (window.feed reply) rfl several ?_ (tracked.feed_own own _)
          have fixedEq := congrArg (·.2.2) (Window.fixed_feed reply window)
          exact fixedEq.trans attempt_eq

theorem Tracked.post (representable : upload.Representable) (tracked : Tracked upload before)
    {packet : Bytes} {kind : ResponseKind} {ticket : Ticket}
    (needEq : machine.need before.state = .post packet kind ticket) :
    Tracked upload
      { before with
        state := machine.feed .ready before.state
        posted := before.posted ++ [⟨packet, ticket⟩]
        issued := before.issued ++ [ticket] } := by
  have retryEq := retryMtu?_eq_none needEq (by simp)
  rw [need_of_retryMtu? retryEq] at needEq
  rw [feed_of_retryMtu? retryEq]
  cases tracked with
  | single run engineEq plain posted_eq answered_eq tracked =>
      rw [engineEq] at needEq
      exact absurd needEq run.need_ne_post
  | windowed window engineEq several attempt_eq tracked =>
      rw [engineEq] at needEq ⊢
      have phaseEq := (Window.need_eq_post_iff.mp needEq).1
      refine .windowed (window.posted ticket) ?_ several attempt_eq
        (tracked.post representable phaseEq _ _)
      simp only [UploadEngine.feed, Window.feed_posting phaseEq]

theorem Tracked.exchange (tracked : Tracked upload before) {packet : Bytes} {kind : ResponseKind}
    (needEq : machine.need before.state = .exchange packet kind) {treatment : Treatment}
    {outcome : Except Error Response} {device : Storage}
    (conducted : storing upload.scheme treatment packet before.device = some (outcome, device)) :
    Tracked upload
      { before with device, state := machine.feed (.answer outcome) before.state } := by
  have retryEq := retryMtu?_eq_none needEq (by simp)
  rw [need_of_retryMtu? retryEq] at needEq
  rw [feed_of_retryMtu? retryEq]
  cases tracked with
  | single run engineEq plain posted_eq answered_eq tracked =>
      rw [engineEq] at needEq ⊢
      obtain ⟨offset, request, phaseEq, rfl⟩ := Stepwise.sending_of_need needEq
      exact .single (run.answer SingleUpload.transfer outcome) rfl plain posted_eq answered_eq
        (tracked.answer phaseEq conducted)
  | windowed window engineEq several attempt_eq tracked =>
      rw [engineEq] at needEq
      exact absurd needEq Window.need_ne_exchange

theorem Tracked.process (tracked : Tracked upload before) {request : Network.Posted}
    {rest : List Network.Posted} (postedEq : before.posted = request :: rest)
    {treatment : Treatment} {outcome : Except Error Response} {device : Storage}
    (conducted : storing upload.scheme treatment request.packet before.device =
      some (outcome, device)) :
    Tracked upload
      { before with
        device
        posted := rest
        answered := before.answered ++ [⟨request.ticket, outcome⟩] } := by
  cases tracked with
  | single run engineEq plain posted_eq answered_eq tracked =>
      rw [posted_eq] at postedEq
      cases postedEq
  | windowed window engineEq several attempt_eq tracked =>
      exact .windowed window engineEq several attempt_eq (tracked.process postedEq conducted)

theorem Tracked.collect (tracked : Tracked upload before) {answer : Network.Answered}
    {rest : List Network.Answered} (answeredEq : before.answered = answer :: rest)
    (needEq : machine.need before.state = .collect) :
    Tracked upload
      { before with
        state := machine.feed (.acknowledgement answer.ticket answer.outcome) before.state
        answered := rest } := by
  have retryEq := retryMtu?_eq_none needEq (by simp)
  rw [need_of_retryMtu? retryEq] at needEq
  rw [feed_of_retryMtu? retryEq]
  cases tracked with
  | single run engineEq plain posted_eq answered_eq tracked =>
      rw [engineEq] at needEq
      exact absurd needEq run.need_ne_collect
  | windowed window engineEq several attempt_eq tracked =>
      rw [engineEq] at needEq ⊢
      have phaseEq := Window.need_eq_collect_iff.mp needEq
      have fixedEq := congrArg (·.2.2)
        (Window.fixed_feed (.acknowledgement answer.ticket answer.outcome) window)
      rw [Window.feed_collecting phaseEq] at fixedEq
      refine .windowed (window.acknowledge answer.ticket answer.outcome) ?_ several
        (fixedEq.trans attempt_eq) (tracked.collect answeredEq phaseEq _)
      simp only [UploadEngine.feed, Window.feed_collecting phaseEq]

theorem Tracked.signal (tracked : Tracked upload before) (signal : Signal) :
    Tracked upload { before with state := (machine.signal signal before.state).2 } := by
  cases tracked with
  | single run engineEq plain posted_eq answered_eq tracked =>
      refine .single (run.signal signal).2 ?_ plain posted_eq answered_eq
        ⟨tracked.known, tracked.sending, tracked.ended⟩
      simp only [machine, UploadJob.signal, engineEq, UploadEngine.signal]
  | windowed window engineEq several attempt_eq tracked =>
      refine .windowed (window.signal signal).2 ?_ several attempt_eq
        ⟨tracked.upload_eq, tracked.sound.signal signal, tracked.carries, tracked.queue,
          tracked.standing, tracked.finished⟩
      simp only [machine, UploadJob.signal, engineEq, UploadEngine.signal]

theorem Tracked.step (representable : upload.Representable) (nonempty : upload.data ≠ [])
    (tracked : Tracked upload before) (ordered : move.InOrder)
    (effect : Network.Effect machine (storing upload.scheme) before move after) :
    Tracked upload after := by
  cases effect with
  | none => exact tracked
  | fed own => exact tracked.fed representable nonempty own
  | posted needEq => exact tracked.post representable needEq
  | exchanged needEq conducted => exact tracked.exchange needEq conducted
  | @processed position treatment posted outcome device postedEq conducted =>
      obtain rfl : position = 0 := ordered
      obtain ⟨rest, queueEq⟩ := List.head?_eq_some_iff.mp (List.head?_eq_getElem?.trans postedEq)
      rw [queueEq]
      exact tracked.process queueEq conducted
  | @collected position answered needEq answeredEq =>
      obtain rfl : position = 0 := ordered
      obtain ⟨rest, queueEq⟩ :=
        List.head?_eq_some_iff.mp (List.head?_eq_getElem?.trans answeredEq)
      rw [queueEq]
      exact tracked.collect queueEq needEq
  | signaled signal => exact tracked.signal signal

/-- An upload over a link that keeps the order, however late the device processes what was sent,
leaves the device with exactly the data if it ends well. -/
theorem held_of_finished (representable : upload.Representable) (nonempty : upload.data ≠ [])
    (stored : Bytes) (window attempt : Nat) (seq : UInt8) (control : Control)
    (schedule : List (Network.Move Treatment)) (ordered : ∀ move ∈ schedule, move.InOrder) :
    let start : Network UploadJob Storage :=
      { state := .start upload window attempt seq control, device := { held := stored } }
    let network := start.run machine (storing upload.scheme) schedule
    machine.need network.state = .finished (.ok ()) → network.device.held = upload.data := by
  intro start network finished
  have tracked : Tracked upload network := by
    refine Network.run_invariant_of_forall (Tracked upload) ?_ Network.Move.InOrder
      (fun _ _ _ ordered effect tracked =>
        tracked.step representable nonempty ordered effect) schedule ordered
    refine .start nonempty upload.mtu seq control ?_ (fun _ => ⟨rfl, rfl⟩) (by simp [start])
      (by simp [start]) (by simp [start])
    simp [start, UploadJob.start, nonempty]
  have retryEq := retryMtu?_eq_none finished (by simp)
  rw [need_of_retryMtu? retryEq] at finished
  cases tracked with
  | single run engineEq plain posted_eq answered_eq tracked =>
      rw [engineEq] at finished
      exact tracked.known.complete (tracked.ended (Stepwise.need_eq_finished_iff.mp finished))
  | windowed window engineEq several attempt_eq tracked =>
      rw [engineEq] at finished
      have phaseEq := Window.need_eq_finished_iff.mp finished
      have ackedEq := tracked.sound.promised
      rw [phaseEq] at ackedEq
      exact (tracked.finished (ackedEq.trans tracked.total_eq)).1

end

/-- The upload of three bytes, with a window of two, to a device that holds other bytes. -/
def threeBytesStart : Network UploadJob Storage :=
  { state := .start threeBytes 2 0 0 {}, device := { held := [9, 9, 9] } }

/-- The device takes only a part of the first chunk, the second is lost, and the third is too long
for the link; then all goes well with shorter chunks. -/
def startingOver : List (Network.Move Treatment) :=
  List.replicate 7 .advance ++ [taken 0 (some 1) 1 1, .collect 0] ++
    List.replicate 5 .advance ++ [.process 0 (.lose .timeout), .collect 0, .advance, .advance] ++
    [.process 0 (.lose (.insufficientMtu 66 65)), .collect 0] ++ List.replicate 8 .advance ++
    [taken 0 none 7 1, taken 0 none 9 3, .collect 0, .advance, .advance, .advance, .collect 0,
      .advance, .advance]

theorem inOrder_startingOver : ∀ move ∈ startingOver, move.InOrder := by
  decide +kernel

theorem finished_startingOver :
    machine.need (threeBytesStart.run machine (storing threeBytes.scheme) startingOver).state =
      .finished (.ok ()) := by
  decide +kernel

theorem held_of_finished_startingOver :
    (threeBytes.Representable ∧ threeBytes.data ≠ [] ∧ (∀ move ∈ startingOver, move.InOrder) ∧
      machine.need
          (threeBytesStart.run machine (storing threeBytes.scheme) startingOver).state =
        .finished (.ok ())) ∧
    (threeBytesStart.run machine (storing threeBytes.scheme) startingOver).device.held =
      threeBytes.data := by
  have representable : threeBytes.Representable := ⟨by decide, by decide⟩
  have nonempty : threeBytes.data ≠ [] := by decide
  have finished := finished_startingOver
  rw [threeBytesStart] at finished ⊢
  exact ⟨⟨representable, nonempty, inOrder_startingOver, finished⟩,
    held_of_finished representable nonempty [9, 9, 9] 2 0 0 {} startingOver inOrder_startingOver
      finished⟩

end UploadJob

end SmpClient
