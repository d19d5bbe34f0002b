import Mathlib.Data.List.Chain
import SmpClient.Proofs.Transfer.WindowSteps

/-!
# Windowed uploads over links that reorder

Requests may overtake one another, and so may acknowledgements.  A windowed upload to an empty
device that ends well has brought it to hold exactly the data.  The device still holds it at the
end unless a first chunk came after that and made it start over: acknowledgements of older
generations are recognised, but requests of older generations are not.  A device that is not empty
may also append a chunk to what it held before.
-/

namespace SmpClient

namespace Storage

/-- A device with this past has held exactly the data. -/
def Completed (data : Bytes) (past : List Visit) : Prop :=
  ∃ visit ∈ past, visit.held = data

/-- A device with this past once held all of the data, has then started over, and has not come to
hold all of it again. -/
def Overtaken (data : Bytes) (past : List Visit) : Prop :=
  ∃ since restart before, past = since ++ restart :: before ∧ restart.offset = 0 ∧
    Completed data before ∧ ∀ visit ∈ since ++ [restart], visit.held ≠ data

/-- A device that held `stored`, which is no part of the data, has not started over yet. -/
def Leftover (data stored : Bytes) (past : List Visit) : Prop :=
  ¬ stored <+: data ∧ ∀ visit ∈ past, visit.offset ≠ 0

/-- A device has acknowledged as many bytes as the data has before it ever started over. -/
def Mistaken (data stored : Bytes) (past : List Visit) : Prop :=
  ∃ visit before, visit :: before <:+ past ∧ visit.held.length = data.length ∧
    Leftover data stored (visit :: before)

/-- A device that held `stored` before the upload.  All that it holds, and ever held since then, is
a prefix of the data unless it is left over. -/
structure Faithful (data stored : Bytes) (storage : Storage) : Prop where
  held : storage.held <+: data ∨ Leftover data stored storage.past
  past : ∀ visit before, visit :: before <:+ storage.past →
    visit.held <+: data ∨ Leftover data stored (visit :: before)
  latest : ∀ visit ∈ storage.past.head?, visit.held = storage.held
  /-- Between two requests the data is not lost, unless the second is a first chunk. -/
  keeps : storage.past.IsChain fun later earlier =>
    later.offset = 0 ∨ (earlier.held = data → later.held = data)

section

variable {data stored : Bytes} {storage : Storage}

theorem faithful_new (data stored : Bytes) : Faithful data stored { held := stored } where
  held := by
    by_cases part : stored <+: data
    · exact .inl part
    · exact .inr ⟨part, by simp⟩
  past := by simp
  latest := by simp
  keeps := by simp

theorem Faithful.store (faithful : storage.Faithful data stored) (limit : Option Nat)
    (offset length : Nat) :
    (storage.store limit (chunkRequest data offset length)).Faithful data stored := by
  have held : (storage.store limit (chunkRequest data offset length)).held <+: data ∨
      Leftover data stored (storage.store limit (chunkRequest data offset length)).past := by
    by_cases first : offset = 0
    · exact .inl (store_isPrefix_data (.inr first))
    · rcases faithful.held with part | ⟨other, later⟩
      · exact .inl (store_isPrefix_data (.inl part))
      · exact .inr ⟨other, List.forall_mem_cons.mpr ⟨first, later⟩⟩
  refine ⟨held, ?_, ?_, ?_⟩
  · intro visit before suffix
    rcases List.suffix_cons_iff.mp suffix with new | earlier
    · cases new
      exact held
    · exact faithful.past visit before earlier
  · intro visit latest
    cases latest
    rfl
  · apply faithful.keeps.cons
    intro earlier latest
    by_cases first : offset = 0
    · exact .inl first
    · right
      rw [faithful.latest earlier latest]
      exact fun full => store_eq_of_full full first

theorem overtaken_of_head?_ne {past : List Visit}
    (keeps : past.IsChain fun later earlier =>
      later.offset = 0 ∨ (earlier.held = data → later.held = data))
    (complete : Completed data past) (lost : ∀ visit ∈ past.head?, visit.held ≠ data) :
    Overtaken data past := by
  induction past with
  | nil =>
      obtain ⟨visit, member, -⟩ := complete
      cases member
  | cons latest past ih =>
      have latestNe : latest.held ≠ data := lost latest rfl
      have earlierComplete : Completed data past := by
        obtain ⟨visit, member, heldEq⟩ := complete
        rcases List.mem_cons.mp member with rfl | member
        · exact absurd heldEq latestNe
        · exact ⟨visit, member, heldEq⟩
      obtain ⟨step, earlierKeeps⟩ := List.isChain_cons.mp keeps
      -- If the visit before still held the data, the latest one is the restart.
      by_cases previousLost : ∀ visit ∈ past.head?, visit.held ≠ data
      · obtain ⟨since, restart, before, rfl, first, once, since_ne⟩ :=
          ih earlierKeeps earlierComplete previousLost
        exact ⟨latest :: since, restart, before, rfl, first, once,
          List.forall_mem_cons.mpr ⟨latestNe, since_ne⟩⟩
      · push Not at previousLost
        obtain ⟨previous, isHead, heldEq⟩ := previousLost
        have first : latest.offset = 0 :=
          (step previous isHead).resolve_right fun kept => latestNe (kept heldEq)
        exact ⟨[], latest, past, rfl, first, earlierComplete, by simpa using latestNe⟩

/-- What a device holds after a request is exactly the data if and only if it has held the data and
was not overtaken since. -/
theorem Faithful.held_eq_iff (faithful : storage.Faithful data stored)
    (visited : storage.past ≠ []) :
    storage.held = data ↔ Completed data storage.past ∧ ¬ Overtaken data storage.past := by
  constructor
  · intro heldEq
    obtain ⟨latest, before, pastEq⟩ := List.exists_cons_of_ne_nil visited
    have latestEq : latest.held = data :=
      (faithful.latest latest (by rw [pastEq]; rfl)).trans heldEq
    refine ⟨⟨latest, by rw [pastEq]; exact List.mem_cons_self, latestEq⟩, ?_⟩
    rintro ⟨since, restart, earlier, splitEq, -, -, since_ne⟩
    rw [pastEq] at splitEq
    cases since with
    | nil =>
        cases splitEq
        exact since_ne latest (by simp) latestEq
    | cons last since =>
        cases splitEq
        exact since_ne latest (by simp) latestEq
  · rintro ⟨complete, notOvertaken⟩
    by_contra lost
    apply notOvertaken
    apply overtaken_of_head?_ne faithful.keeps complete
    intro visit latest
    rw [faithful.latest visit latest]
    exact lost

/-- A device that has held as many bytes as the data has held the data, unless these bytes were left
over. -/
theorem Faithful.completed_or_mistaken (faithful : storage.Faithful data stored)
    (full : ∃ visit ∈ storage.past, visit.held.length = data.length) :
    Completed data storage.past ∨ Mistaken data stored storage.past := by
  obtain ⟨visit, member, lengthEq⟩ := full
  obtain ⟨since, before, pastEq⟩ := List.append_of_mem member
  have suffix : visit :: before <:+ storage.past := ⟨since, pastEq.symm⟩
  rcases faithful.past visit before suffix with part | leftover
  · exact .inl ⟨visit, member, part.eq_of_length lengthEq⟩
  · exact .inr ⟨visit, before, suffix, lengthEq, leftover⟩

end

end Storage

namespace Window

open Storage

/-- A windowed upload over a link that reorders, and the device that it sends to: what is on its
way to the device are chunks of the data, and what the upload knows of the device was true once. -/
structure Followed (upload : Upload) (stored : Bytes) (network : Network Window Storage) : Prop where
  upload_eq : network.state.upload = upload
  sound : network.state.Sound
  posted : ∀ posted ∈ network.posted,
    Carries upload posted.packet posted.ticket.offset posted.ticket.length
  faithful : network.device.Faithful upload.data stored
  answered : ∀ answered ∈ network.answered, ∀ response, answered.outcome = .ok response →
    ∃ visit ∈ network.device.past, acknowledges visit.held.length answered.outcome
  acked : network.state.acked = 0 ∨
    ∃ visit ∈ network.device.past, visit.held.length = network.state.acked

theorem acked_acknowledge (window : Window) (ticket : Ticket) (outcome : Except Error Response) :
    (window.acknowledge ticket outcome).acked = window.acked ∨
      ∃ response, outcome = .ok response ∧
        window.upload.acknowledged response = .ok (window.acknowledge ticket outcome).acked := by
  by_cases own : ticket.attempt = window.attempt
  · by_cases current : ticket.generation = window.generation
    · rcases acknowledge_current outcome own current with
        ⟨-, failed⟩ | ⟨offset, reported, -, moved⟩
      · exact .inl (congrArg Reckoning.acked failed)
      · obtain ⟨response, outcomeEq, acknowledged⟩ := reported_eq_ok reported
        have ackedEq : (window.acknowledge ticket outcome).acked = offset := by
          rcases moved with ⟨-, reached⟩ | resynced
          · exact congrArg Reckoning.acked reached
          · exact congrArg Reckoning.acked resynced
        rw [ackedEq]
        exact .inr ⟨response, outcomeEq, acknowledged⟩
    · rw [acknowledge_old outcome own current]
      exact .inl rfl
  · rw [acknowledge_foreign outcome own]
    exact .inl rfl

section

variable {upload : Upload} {stored : Bytes} {before after : Network Window Storage}
  {move : Network.Move Treatment}

theorem Followed.fed (followed : Followed upload stored before) {reply : Reply}
    (own : Network.OwnReply (machine.need before.state) reply) :
    Followed upload stored { before with state := before.state.feed reply } := by
  have reckoning := reckoning_feed_own own
  have sound := followed.sound.feed reply
  generalize before.state.feed reply = state at reckoning sound ⊢
  have uploadEq : state.upload = before.state.upload :=
    reckoning.elim (congrArg Reckoning.upload) (congrArg Reckoning.upload)
  have ackedEq : state.acked = before.state.acked :=
    reckoning.elim (congrArg Reckoning.acked) (congrArg Reckoning.acked)
  exact
    { followed with
      upload_eq := uploadEq.trans followed.upload_eq
      sound
      acked := by
        have acked := followed.acked
        rwa [← ackedEq] at acked }

theorem Followed.post (representable : upload.Representable)
    (followed : Followed upload stored before) {packet : Bytes} {ticket : Ticket}
    (phaseEq : before.state.phase = .posting packet ticket) :
    Followed upload stored
      { before with
        state := before.state.posted ticket
        posted := before.posted ++ [⟨packet, ticket⟩]
        issued := before.issued ++ [ticket] } := by
  have promised := followed.sound.promised
  rw [phaseEq] at promised
  obtain ⟨-, -, issues⟩ := promised
  have sound := followed.sound.feed .ready
  rw [feed_posting phaseEq] at sound
  refine { followed with sound, posted := ?_ }
  intro posted member
  rcases List.mem_append.mp member with earlier | last
  · exact followed.posted posted earlier
  · rw [List.mem_singleton.mp last]
    exact issues.carries representable ⟨upload.mtu, followed.upload_eq⟩

/-- The device processes some request: it is lost, or one visit more is remembered. -/
theorem Followed.process (followed : Followed upload stored before) {position : Nat}
    {posted : Network.Posted} (postedEq : before.posted[position]? = some posted)
    {treatment : Treatment} {outcome : Except Error Response} {device : Storage}
    (conducted : storing upload.scheme treatment posted.packet before.device =
      some (outcome, device)) :
    Followed upload stored
      { before with
        device
        posted := before.posted.eraseIdx position
        answered := before.answered ++ [⟨posted.ticket, outcome⟩] } := by
  have carries := followed.posted posted (List.mem_of_getElem? postedEq)
  rcases storing_of_carries carries conducted with
    ⟨⟨failure, rfl⟩, rfl⟩ | ⟨limit, rfl, honest⟩
  · refine
      { followed with
        posted := fun other member => followed.posted other (List.mem_of_mem_eraseIdx member)
        answered := ?_ }
    intro answered member response outcomeEq
    rcases List.mem_append.mp member with earlier | last
    · exact followed.answered answered earlier response outcomeEq
    · rw [List.mem_singleton.mp last] at outcomeEq
      cases outcomeEq
  · have remembered {known : Visit → Prop} (once : ∃ visit ∈ before.device.past, known visit) :
        ∃ visit ∈ (before.device.store limit (chunkRequest upload.data posted.ticket.offset
          posted.ticket.length)).past, known visit :=
      once.imp fun visit found => ⟨List.mem_cons_of_mem _ found.1, found.2⟩
    refine
      { followed with
        posted := fun other member => followed.posted other (List.mem_of_mem_eraseIdx member)
        faithful := followed.faithful.store limit _ _
        answered := ?_
        acked := followed.acked.imp id remembered }
    intro answered member response outcomeEq
    rcases List.mem_append.mp member with earlier | last
    · exact remembered (followed.answered answered earlier response outcomeEq)
    · rw [List.mem_singleton.mp last]
      exact ⟨_, List.mem_cons_self, honest⟩

theorem Followed.collect (followed : Followed upload stored before) {position : Nat}
    {answered : Network.Answered} (answeredEq : before.answered[position]? = some answered)
    (phaseEq : before.state.phase = .collecting) :
    Followed upload stored
      { before with
        state := before.state.acknowledge answered.ticket answered.outcome
        answered := before.answered.eraseIdx position } := by
  have sound := followed.sound.acknowledge answered.outcome answered.ticket
  have fixedEq := fixed_feed (.acknowledgement answered.ticket answered.outcome) before.state
  have ackedCases := acked_acknowledge before.state answered.ticket answered.outcome
  rw [feed_collecting phaseEq] at fixedEq
  generalize before.state.acknowledge answered.ticket answered.outcome = state
    at sound fixedEq ackedCases ⊢
  refine
    { followed with
      upload_eq := (congrArg Prod.fst fixedEq).trans followed.upload_eq
      sound
      answered := fun other member => followed.answered other (List.mem_of_mem_eraseIdx member)
      acked := ?_ }
  rcases ackedCases with same | ⟨response, outcomeEq, acknowledged⟩
  · rw [same]
    exact followed.acked
  · obtain ⟨visit, member, honest⟩ :=
      followed.answered answered (List.mem_of_getElem? answeredEq) response outcomeEq
    rw [outcomeEq] at honest
    exact .inr ⟨visit, member, (offset_eq_of_acknowledges honest acknowledged).symm⟩

theorem Followed.step (representable : upload.Representable)
    (followed : Followed upload stored before)
    (effect : Network.Effect machine (storing upload.scheme) before move after) :
    Followed upload stored after := by
  cases effect with
  | none => exact followed
  | fed own => exact followed.fed own
  | posted needEq =>
      have phaseEq := (need_eq_post_iff.mp needEq).1
      rw [machine_feed, feed_posting phaseEq]
      exact followed.post representable phaseEq
  | exchanged needEq conducted => exact absurd needEq need_ne_exchange
  | processed postedEq conducted => exact followed.process postedEq conducted
  | collected needEq answeredEq =>
      have phaseEq := need_eq_collect_iff.mp needEq
      rw [machine_feed, feed_collecting phaseEq]
      exact followed.collect answeredEq phaseEq
  | signaled signal => exact { followed with sound := followed.sound.signal signal }

/-- A windowed upload that ends well, over a link that may reorder and lose what it likes, has
brought the device to hold exactly the data, unless what the device held before was taken for a
part of it.  The device holds the data at the end if and only if it held it once and was not
overtaken since by a first chunk of an older generation. -/
theorem held_iff_of_finished (representable : upload.Representable) (nonempty : upload.data ≠ [])
    (stored : Bytes) (capacity attempt : Nat) (seq : UInt8) (control : Control)
    (schedule : List (Network.Move Treatment)) :
    let start : Network Window Storage :=
      { state := fresh upload capacity attempt seq control, device := { held := stored } }
    let network := start.run machine (storing upload.scheme) schedule
    machine.need network.state = .finished (.ok ()) →
    (Completed upload.data network.device.past ∨
        Mistaken upload.data stored network.device.past) ∧
      (network.device.held = upload.data ↔
        Completed upload.data network.device.past ∧
          ¬ Overtaken upload.data network.device.past) := by
  intro start network ended
  have followed : Followed upload stored network := by
    refine Network.run_invariant (Followed upload stored) ?_
      (fun _ _ _ effect followed => followed.step representable effect) schedule
    exact
      { upload_eq := rfl
        sound := sound_fresh upload capacity attempt seq control
        posted := by simp [start]
        faithful := faithful_new upload.data stored
        answered := by simp [start]
        acked := .inl rfl }
  have full : ∃ visit ∈ network.device.past, visit.held.length = upload.data.length := by
    have phaseEq := need_eq_finished_iff.mp ended
    have ackedEq := followed.sound.promised
    rw [phaseEq] at ackedEq
    change network.state.acked = network.state.upload.data.length at ackedEq
    rw [followed.upload_eq] at ackedEq
    rcases followed.acked with none | ⟨visit, member, lengthEq⟩
    · exact absurd (List.length_eq_zero_iff.mp (ackedEq.symm.trans none)) nonempty
    · exact ⟨visit, member, lengthEq.trans ackedEq⟩
  have visited : network.device.past ≠ [] := by
    obtain ⟨visit, member, -⟩ := full
    exact List.ne_nil_of_mem member
  exact ⟨followed.faithful.completed_or_mistaken full, followed.faithful.held_eq_iff visited⟩

end

/-- Both chunks are sent, processed and acknowledged in order. -/
def inOrder : List (Network.Move Treatment) :=
  List.replicate 7 .advance ++ [taken 0 none 1 2, taken 0 none 3 3, .collect 0] ++
    List.replicate 3 .advance ++ [.collect 0, .advance, .advance]

theorem finished_inOrder :
    machine.need (threeBytesStart.run machine (storing .ble) inOrder).state =
      .finished (.ok ()) := by
  decide +kernel

theorem held_iff_of_finished_inOrder :
    let network := threeBytesStart.run machine (storing threeBytes.scheme) inOrder
    (threeBytes.Representable ∧ threeBytes.data ≠ [] ∧
      machine.need network.state = .finished (.ok ())) ∧
    (Completed threeBytes.data network.device.past ∨
        Mistaken threeBytes.data [] network.device.past) ∧
      (network.device.held = threeBytes.data ↔
        Completed threeBytes.data network.device.past ∧
          ¬ Overtaken threeBytes.data network.device.past) :=
  have representable : threeBytes.Representable := ⟨by decide, by decide⟩
  have nonempty : threeBytes.data ≠ [] := by decide
  ⟨⟨representable, nonempty, finished_inOrder⟩,
    held_iff_of_finished representable nonempty [] 2 0 0 {} inOrder finished_inOrder⟩

/-- Both chunks are sent twice, and each time the second overtakes the first on its way to the
device.  The first time the device has nothing to append it to.  The second time it holds the first
chunk already, so that it holds everything; then the first chunk comes again. -/
def overtaking : List (Network.Move Treatment) :=
  List.replicate 7 .advance ++ [taken 1 none 3 0, taken 0 none 1 2, .collect 0] ++
    List.replicate 4 .advance ++ [.collect 0] ++ List.replicate 4 .advance ++
    [taken 1 none 7 3, taken 0 none 5 2, .collect 0, .advance, .advance]

/-- An upload ends well, and the device holds only the first chunk. -/
theorem overtaken_of_finished :
    let network := threeBytesStart.run machine (storing threeBytes.scheme) overtaking
    machine.need network.state = .finished (.ok ()) ∧ network.device.held = [1, 2] ∧
      network.device.held ≠ threeBytes.data := by
  decide +kernel

end Window

end SmpClient
