import SmpClient.Proofs.Machine.Logged
import SmpClient.Proofs.Transfer.Reordering
import SmpClient.Proofs.Transfer.WindowQueue

/-!
# Progress that goes forward

What a windowed upload tells of its progress is what it was acknowledged last.  On a device whose
reports never fall that rises, as long as no acknowledgement overtakes another of the same generation on
its way back.  One that does is followed by a report that was overtaken.
-/

namespace SmpClient

/-- The offset that an outcome reports, if it acknowledges one. -/
def Upload.report? (upload : Upload) : Except Error Response → Option Nat
  | .ok response => (upload.acknowledged response).toOption
  | .error _ => none

/-- The conduct of a device whose reports never fall.  All that is kept of it is the last report. -/
def Upload.ascending (upload : Upload) : Conduct Nat (Except Error Response) :=
  fun outcome _ last =>
    match upload.report? outcome with
    | some offset => if last ≤ offset then some (outcome, offset) else none
    | none => some (outcome, last)

theorem Upload.ascending_eq_some {upload : Upload} {outcome given : Except Error Response}
    {packet : Bytes} {last after : Nat}
    (conducted : upload.ascending outcome packet last = some (given, after)) :
    last ≤ after ∧ ∀ offset ∈ upload.report? given, last ≤ offset ∧ offset ≤ after := by
  rw [ascending] at conducted
  split at conducted
  · rename_i offset reported
    split at conducted
    · rename_i above
      cases conducted
      refine ⟨above, fun found member => ?_⟩
      rw [reported] at member
      cases member
      exact ⟨above, Nat.le_refl _⟩
    · cases conducted
  · rename_i silent
    cases conducted
    refine ⟨Nat.le_refl _, fun found member => ?_⟩
    rw [silent] at member
    cases member

namespace Window

open Network

/-- An acknowledgement of the current generation reaches the upload before another one of it, which the
device gave earlier. -/
def Overtakes (network : Network (Logged Window Progress) Nat) (position : Nat) : Prop :=
  ∃ earlier first second, earlier < position ∧ network.answered[earlier]? = some first ∧
    network.answered[position]? = some second ∧
    Live network.state.state.reckoning first.ticket ∧
    Live network.state.state.reckoning second.ticket

/-- A windowed upload with a log, before it begins, and a device that has reported nothing. -/
def unheard (upload : Upload) (capacity attempt : Nat) (seq : UInt8) (control : Control) :
    Network (Logged Window Progress) Nat :=
  { state := { state := fresh upload capacity attempt seq control }, device := 0 }

/-- A windowed upload that has heard of what a device with rising reports has done, in order. -/
structure Heard (upload : Upload) (network : Network (Logged Window Progress) Nat) : Prop where
  upload_eq : network.state.state.upload = upload
  sound : network.state.state.Sound
  posted_le : ∀ posted ∈ network.posted,
    posted.ticket.generation ≤ network.state.state.generation
  answered_le : ∀ answered ∈ network.answered,
    answered.ticket.generation ≤ network.state.state.generation
  ordered : network.answered.Pairwise fun earlier later =>
    ∀ first ∈ upload.report? earlier.outcome, ∀ second ∈ upload.report? later.outcome,
      first ≤ second
  reported_le : ∀ answered ∈ network.answered, ∀ offset ∈ upload.report? answered.outcome,
    offset ≤ network.device
  acked_le : network.state.state.acked ≤ network.device
  /-- What is still to be collected, and counts, is not behind. -/
  ahead : ∀ answered ∈ network.answered, Live network.state.state.reckoning answered.ticket →
    ∀ offset ∈ upload.report? answered.outcome, network.state.state.acked ≤ offset
  told : (network.state.told.map Progress.current).Pairwise (· < ·)
  told_le : ∀ note ∈ network.state.told, note.current ≤ network.state.state.acked
  telling : network.state.state.phase = .telling →
    ∀ note ∈ network.state.told, note.current < network.state.state.acked

section

variable {upload : Upload} {before : Network (Logged Window Progress) Nat}

theorem need_eq_tell_iff {window : Window} {note : Progress} : machine.need window = .tell note ↔
    window.phase = .telling ∧ note = { current := window.acked, total := window.total } := by
  simp only [machine, need]
  cases window.phase <;> simp
  · split <;> simp
  · exact eq_comm

/-- Only an acknowledgement gives an upload something to tell. -/
theorem phase_ne_telling {window : Window} {reply : Reply}
    (own : OwnReply (machine.need window) reply) : (window.feed reply).phase ≠ .telling := by
  cases own with
  | silence collects =>
      simp [feed, need_eq_collect_iff.mp collects]
  | ready noPost =>
      unfold feed
      split
      · rw [begin]
        split <;> simp [finish]
      · have turned := window.turned_turn
        intro telling
        rw [telling] at turned
        cases turned
      · rcases window.issue_cases with
          ⟨-, -, ⟨failure, ended⟩ | ⟨packet, ticket, posting, -⟩⟩ | ⟨-, collects⟩
        · simp [ended]
        · simp [posting]
        · rw [collects, afterIssuing]
          split_ifs <;> simp
      · simp [posted]
      · rename_i phaseEq _
        rw [rise]
        split_ifs
        · simp [phaseEq]
        · simp [finish]
        · simp
      · simp
      · rename_i impossible
        cases impossible
      · simp
      · rename_i silent
        exact fun telling => silent telling rfl

theorem ne_acked_of_moveTo {window : Window} {offset : Nat}
    (telling : (window.moveTo offset).phase = .telling) :
    (window.moveTo offset).acked ≠ window.acked := by
  rw [moveTo] at telling ⊢
  split at telling
  · cases telling
  · rename_i moved
    rw [if_neg moved]
    exact moved

theorem ne_acked_of_settle {window : Window} {ticket : Ticket} {offset : Nat}
    (telling : (window.settle ticket offset).phase = .telling) :
    (window.settle ticket offset).acked ≠ window.acked := by
  rw [settle] at telling ⊢
  split
  · rename_i reached
    rw [if_pos reached] at telling
    exact ne_acked_of_moveTo telling
  · rename_i elsewhere
    rw [if_neg elsewhere] at telling
    dsimp only at telling ⊢
    generalize (if offset ≤ window.acked then window.stalls + 1 else 0) = stalls at telling ⊢
    split
    · rename_i stuck
      simp [stuck, finish] at telling
    · rename_i unstuck
      rw [if_neg unstuck] at telling
      exact ne_acked_of_moveTo telling

/-- An acknowledgement that leaves something to tell has moved the upload. -/
theorem ne_acked_of_acknowledge {window : Window} (collecting : window.phase = .collecting)
    {ticket : Ticket} {outcome : Except Error Response}
    (telling : (window.acknowledge ticket outcome).phase = .telling) :
    (window.acknowledge ticket outcome).acked ≠ window.acked := by
  rw [acknowledge] at telling ⊢
  split
  · rename_i foreign
    simp [foreign, collecting] at telling
  · rename_i own
    rw [if_neg own] at telling
    dsimp only at telling ⊢
    split
    · rename_i old
      simp [old] at telling
    · rename_i current
      rw [if_neg current] at telling
      split
      · rename_i failed
        simp [failed, finish] at telling
      · rename_i offset reported
        rw [reported] at telling
        exact ne_acked_of_settle telling

/-- Generations only go on. -/
theorem generation_le_feed (reply : Reply) (window : Window) :
    window.generation ≤ (window.feed reply).generation := by
  have same {after : Window} (reckoningEq : after.reckoning = window.reckoning) :
      window.generation ≤ after.generation :=
    Nat.le_of_eq (congrArg Reckoning.generation reckoningEq).symm
  unfold feed
  split
  · exact same (reckoning_begin window)
  · rcases window.reckoning_turn with kept | restarted
    · exact same kept
    · exact Nat.le_of_succ_le (Nat.le_of_eq (congrArg Reckoning.generation restarted).symm)
  · exact same (reckoning_issue window)
  · exact Nat.le_refl _
  · exact same (reckoning_rise window)
  · exact Nat.le_refl _
  · rename_i ticket outcome _
    by_cases own : ticket.attempt = window.attempt
    · rcases reckoning_acknowledge outcome own with ⟨acked, moved⟩ | ⟨_, offset, -, -, resynced⟩
      · exact Nat.le_of_eq (congrArg Reckoning.generation moved).symm
      · exact Nat.le_of_succ_le (Nat.le_of_eq (congrArg Reckoning.generation resynced).symm)
    · rw [acknowledge_foreign outcome own]
  · exact Nat.le_refl _
  · exact Nat.le_refl _

/-- A request that is already out counts only if it did before. -/
theorem live_of_feed {reply : Reply} {window : Window} {ticket : Ticket}
    (out : ticket.generation ≤ window.generation)
    (live : Live (window.feed reply).reckoning ticket) : Live window.reckoning ticket := by
  have attemptEq : (window.feed reply).attempt = window.attempt :=
    congrArg (fun fixed => fixed.2.2) (fixed_feed reply window)
  have later := window.generation_le_feed reply
  exact ⟨live.1.trans attemptEq, Nat.le_antisymm out (live.2 ▸ later)⟩

theorem acked_feed_own {window : Window} {reply : Reply}
    (own : OwnReply (machine.need window) reply) : (window.feed reply).acked = window.acked :=
  (reckoning_feed_own own).elim (congrArg Reckoning.acked) (congrArg Reckoning.acked)

/-! ## What is heard -/

theorem Heard.notes (heard : Heard upload before) {reply : Reply}
    (own : OwnReply (machine.need before.state.state) reply) :
    let told := before.state.told ++ (machine.need before.state.state).notes reply
    (told.map Progress.current).Pairwise (· < ·) ∧
      ∀ note ∈ told, note.current ≤ before.state.state.acked := by
  intro told
  cases needEq : machine.need before.state.state with
  | tell note =>
      obtain ⟨telling, rfl⟩ := need_eq_tell_iff.mp needEq
      cases own with
      | silence collects => simp [collects] at needEq
      | ready =>
          have toldEq : told = before.state.told ++
              [⟨before.state.state.acked, before.state.state.total⟩] := by
            simp only [told, needEq, Need.notes]
          have less := heard.telling telling
          rw [toldEq, List.map_append, List.pairwise_append]
          refine ⟨⟨heard.told, List.pairwise_singleton _ _, ?_⟩, ?_⟩
          · simpa using less
          · simpa [or_imp, forall_and] using heard.told_le
  | _ =>
      have toldEq : told = before.state.told := by simp [told, needEq, Need.notes]
      rw [toldEq]
      exact ⟨heard.told, heard.told_le⟩

theorem Heard.fed (heard : Heard upload before) {reply : Reply}
    (own : OwnReply (machine.need before.state.state) reply) :
    Heard upload { before with state := machine.logged.feed reply before.state } := by
  have later := before.state.state.generation_le_feed reply
  have ackedEq := acked_feed_own own
  obtain ⟨told, told_le⟩ := heard.notes own
  exact
    { heard with
      upload_eq := (congrArg Prod.fst (fixed_feed reply before.state.state)).trans heard.upload_eq
      sound := heard.sound.feed reply
      posted_le := fun posted member => Nat.le_trans (heard.posted_le posted member) later
      answered_le := fun answered member => Nat.le_trans (heard.answered_le answered member) later
      acked_le := ackedEq.le.trans heard.acked_le
      ahead := fun answered member live offset reported =>
        ackedEq.le.trans (heard.ahead answered member
          (live_of_feed (heard.answered_le answered member) live) offset reported)
      told
      told_le := fun note member => (told_le note member).trans ackedEq.ge
      telling := fun telling => absurd telling (phase_ne_telling own) }

theorem Heard.post (heard : Heard upload before) {packet : Bytes} {kind : ResponseKind}
    {ticket : Ticket} (needEq : machine.need before.state.state = .post packet kind ticket) :
    Heard upload
      { before with
        state := machine.logged.feed .ready before.state
        posted := before.posted ++ [{ packet, ticket }]
        issued := before.issued ++ [ticket] } := by
  obtain ⟨phaseEq, -⟩ := need_eq_post_iff.mp needEq
  have promised := heard.sound.promised
  rw [phaseEq] at promised
  have generationEq := promised.2.2.generation_eq
  have sound := heard.sound.feed .ready
  have toldEq : before.state.told ++ (machine.need before.state.state).notes .ready =
      before.state.told := by
    rw [needEq, Need.notes, List.append_nil]
    simp
  rw [feed_posting phaseEq] at sound
  simp only [Machine.logged, toldEq, machine_feed, feed_posting phaseEq]
  refine { heard with sound, posted_le := ?_, telling := by simp [Window.posted] }
  intro posted member
  rcases List.mem_append.mp member with earlier | last
  · exact heard.posted_le posted earlier
  · rw [List.mem_singleton.mp last]
    exact Nat.le_of_eq generationEq

/-- What the device reports is behind nothing that it reported before. -/
theorem Heard.process (heard : Heard upload before) {position : Nat} {posted : Posted}
    (postedEq : before.posted[position]? = some posted) {choice outcome : Except Error Response}
    {last : Nat}
    (conducted : upload.ascending choice posted.packet before.device = some (outcome, last)) :
    Heard upload
      { before with
        device := last
        posted := before.posted.eraseIdx position
        answered := before.answered ++ [{ ticket := posted.ticket, outcome }] } := by
  obtain ⟨rises, reported⟩ := Upload.ascending_eq_some conducted
  have generation_le := heard.posted_le posted (List.mem_of_getElem? postedEq)
  exact
    { heard with
      posted_le := fun other member => heard.posted_le other (List.mem_of_mem_eraseIdx member)
      answered_le := by
        simpa [or_imp, forall_and] using ⟨heard.answered_le, generation_le⟩
      ordered := by
        rw [List.pairwise_append]
        refine ⟨heard.ordered, List.pairwise_singleton _ _, ?_⟩
        intro earlier member later new first firstReported second secondReported
        obtain rfl := List.mem_singleton.mp new
        exact (heard.reported_le earlier member first firstReported).trans
          (reported second secondReported).1
      reported_le := by
        intro answered member offset offsetReported
        rcases List.mem_append.mp member with earlier | new
        · exact (heard.reported_le answered earlier offset offsetReported).trans rises
        · obtain rfl := List.mem_singleton.mp new
          exact (reported offset offsetReported).2
      acked_le := heard.acked_le.trans rises
      ahead := by
        intro answered member live offset offsetReported
        rcases List.mem_append.mp member with earlier | new
        · exact heard.ahead answered earlier live offset offsetReported
        · obtain rfl := List.mem_singleton.mp new
          exact heard.acked_le.trans (reported offset offsetReported).1 }

theorem Heard.signal (heard : Heard upload before) (signal : Signal) :
    Heard upload { before with state := (machine.logged.signal signal before.state).2 } :=
  { heard with sound := heard.sound.signal signal }

/-- An acknowledgement that counts moves the upload to what it reports; others leave it where it is. -/
theorem acked_acknowledge_cases {window : Window} (uploadEq : window.upload = upload)
    (collecting : window.phase = .collecting) (ticket : Ticket) (outcome : Except Error Response) :
    ((window.acknowledge ticket outcome).acked = window.acked ∧
        (window.acknowledge ticket outcome).phase ≠ .telling) ∨
      Live window.reckoning ticket ∧
        upload.report? outcome = some (window.acknowledge ticket outcome).acked := by
  by_cases own : ticket.attempt = window.attempt
  · by_cases current : ticket.generation = window.generation
    · rcases acknowledge_current outcome own current with
        ⟨⟨failure, ended⟩, same⟩ | ⟨offset, reported, -, moved⟩
      · exact .inl ⟨congrArg Reckoning.acked same, by simp [ended]⟩
      · obtain ⟨response, rfl, acknowledged⟩ := reported_eq_ok reported
        have ackedEq : (window.acknowledge ticket (.ok response)).acked = offset := by
          rcases moved with ⟨-, reached⟩ | resynced
          · exact congrArg Reckoning.acked reached
          · exact congrArg Reckoning.acked resynced
        rw [uploadEq] at acknowledged
        refine .inr ⟨⟨own, current⟩, ?_⟩
        rw [ackedEq, Upload.report?, acknowledged]
        rfl
    · rw [acknowledge_old outcome own current]
      exact .inl ⟨rfl, by simp⟩
  · rw [acknowledge_foreign outcome own]
    exact .inl ⟨rfl, by simp [collecting]⟩

/-- Nothing that still counts is behind an acknowledgement that overtakes nothing. -/
theorem Heard.ahead_of_collect (heard : Heard upload before) {position : Nat} {answered : Answered}
    (answeredEq : before.answered[position]? = some answered)
    (inTurn : ¬ Overtakes before position)
    (counts : Live before.state.state.reckoning answered.ticket) {other : Answered}
    (member : other ∈ before.answered.eraseIdx position)
    (live : Live before.state.state.reckoning other.ticket) {offset later : Nat}
    (reported : upload.report? answered.outcome = some offset)
    (otherReported : upload.report? other.outcome = some later) : offset ≤ later := by
  obtain ⟨index, index_ne, otherEq⟩ := List.mem_eraseIdx_iff_getElem?.mp member
  rcases Nat.lt_or_gt_of_ne index_ne with earlier | behind
  · exact absurd ⟨index, other, answered, earlier, otherEq, answeredEq, live, counts⟩ inTurn
  · obtain ⟨first_lt, firstEq⟩ := List.getElem?_eq_some_iff.mp answeredEq
    obtain ⟨second_lt, secondEq⟩ := List.getElem?_eq_some_iff.mp otherEq
    have ordered := List.pairwise_iff_getElem.mp heard.ordered position index first_lt second_lt behind
    rw [firstEq, secondEq] at ordered
    exact ordered offset reported later otherReported

/-- An acknowledgement that overtakes nothing does not take the upload back, nor beyond what is still to
be collected. -/
theorem Heard.acked_collect (heard : Heard upload before) {position : Nat} {answered : Answered}
    (collecting : before.state.state.phase = .collecting)
    (answeredEq : before.answered[position]? = some answered)
    (inTurn : ¬ Overtakes before position) :
    let acked := (before.state.state.acknowledge answered.ticket answered.outcome).acked
    before.state.state.acked ≤ acked ∧ acked ≤ before.device ∧
      ∀ other ∈ before.answered.eraseIdx position,
        Live before.state.state.reckoning other.ticket →
          ∀ offset ∈ upload.report? other.outcome, acked ≤ offset := by
  intro acked
  have member := List.mem_of_getElem? answeredEq
  rcases acked_acknowledge_cases heard.upload_eq collecting answered.ticket answered.outcome with
    ⟨same, -⟩ | ⟨counts, reported⟩
  · have same : acked = before.state.state.acked := same
    rw [same]
    exact ⟨Nat.le_refl _, heard.acked_le, fun other otherMember live =>
      heard.ahead other (List.mem_of_mem_eraseIdx otherMember) live⟩
  · exact ⟨heard.ahead answered member counts acked reported,
      heard.reported_le answered member acked reported,
      fun other otherMember live later otherReported =>
        heard.ahead_of_collect answeredEq inTurn counts otherMember live reported otherReported⟩

theorem Heard.collect (heard : Heard upload before) {position : Nat} {answered : Answered}
    (needEq : machine.need before.state.state = .collect)
    (answeredEq : before.answered[position]? = some answered) (inTurn : ¬ Overtakes before position) :
    Heard upload
      { before with
        state := machine.logged.feed (.acknowledgement answered.ticket answered.outcome) before.state
        answered := before.answered.eraseIdx position } := by
  have collecting := need_eq_collect_iff.mp needEq
  have feedEq := feed_collecting collecting answered.ticket answered.outcome
  obtain ⟨rises, acked_le, ahead⟩ := heard.acked_collect collecting answeredEq inTurn
  have ackedEq := congrArg Window.acked feedEq
  have toldEq : before.state.told ++ (machine.need before.state.state).notes
      (.acknowledgement answered.ticket answered.outcome) = before.state.told := by
    rw [needEq, Need.notes, List.append_nil]
    simp
  have later := before.state.state.generation_le_feed
    (.acknowledgement answered.ticket answered.outcome)
  have uploadEq := congrArg Prod.fst
    (fixed_feed (.acknowledgement answered.ticket answered.outcome) before.state.state)
  simp only [Machine.logged, toldEq, machine_feed]
  exact
    { upload_eq := uploadEq.trans heard.upload_eq
      sound := heard.sound.feed _
      posted_le := fun posted member => (heard.posted_le posted member).trans later
      answered_le := fun other member =>
        (heard.answered_le other (List.mem_of_mem_eraseIdx member)).trans later
      ordered := heard.ordered.sublist (List.eraseIdx_sublist _ _)
      reported_le := fun other member =>
        heard.reported_le other (List.mem_of_mem_eraseIdx member)
      acked_le := ackedEq.le.trans acked_le
      ahead := fun other member live offset reported =>
        ackedEq.le.trans (ahead other member
          (live_of_feed (heard.answered_le other (List.mem_of_mem_eraseIdx member)) live) offset
          reported)
      told := heard.told
      told_le := fun note member => (heard.told_le note member).trans (rises.trans ackedEq.ge)
      telling := fun telling note member => by
        have moved := ne_acked_of_acknowledge collecting (feedEq ▸ telling)
        have above : before.state.state.acked < _ := Nat.lt_of_le_of_ne rises moved.symm
        exact (heard.told_le note member).trans_lt (above.trans_le ackedEq.ge) }

theorem Heard.step (heard : Heard upload before) {move : Move (Except Error Response)}
    {after : Network (Logged Window Progress) Nat}
    (effect : Effect machine.logged upload.ascending before move after)
    (inTurn : ∀ position, move = .collect position → ¬ Overtakes before position) :
    Heard upload after := by
  cases effect with
  | none => exact heard
  | fed own => exact heard.fed own
  | posted needEq => exact heard.post needEq
  | exchanged needEq => exact absurd needEq need_ne_exchange
  | processed postedEq conducted => exact heard.process postedEq conducted
  | collected needEq answeredEq => exact heard.collect needEq answeredEq (inTurn _ rfl)
  | signaled signal => exact heard.signal signal

theorem heard_unheard (upload : Upload) (capacity attempt : Nat) (seq : UInt8)
    (control : Control) : Heard upload (unheard upload capacity attempt seq control) where
  upload_eq := rfl
  sound := sound_fresh upload capacity attempt seq control
  posted_le := by simp [unheard]
  answered_le := by simp [unheard]
  ordered := .nil
  reported_le := by simp [unheard]
  acked_le := Nat.zero_le _
  ahead := by simp [unheard]
  told := .nil
  told_le := by simp [unheard]
  telling := by simp [unheard, fresh]

end

/-- On a device whose reports never fall, the progress that a windowed upload tells of rises strictly as
long as no acknowledgement overtakes another one of its generation. -/
theorem progress_rises (upload : Upload) (capacity attempt : Nat) (seq : UInt8) (control : Control)
    (schedule : List (Move (Except Error Response)))
    (inTurn : ∀ earlier position, earlier ++ [.collect position] <+: schedule →
      ¬ Overtakes ((unheard upload capacity attempt seq control).run machine.logged upload.ascending
        earlier) position) :
    (((unheard upload capacity attempt seq control).run machine.logged upload.ascending
      schedule).state.told.map Progress.current).Pairwise (· < ·) := by
  suffices heard : Heard upload ((unheard upload capacity attempt seq control).run machine.logged
      upload.ascending schedule) from heard.told
  induction schedule using List.reverseRecOn with
  | nil => exact heard_unheard upload capacity attempt seq control
  | append_singleton schedule move ih =>
      rw [run_concat]
      refine (ih fun earlier position first => ?_).step (apply_effect _ _ _ move) ?_
      · exact inTurn earlier position (first.trans (List.prefix_append _ _))
      · rintro position rfl
        exact inTurn schedule position (List.prefix_refl _)

open Storage (threeBytes acknowledgement)

/-- Sixty bytes, in chunks of 1, 44 and 15. -/
def sixtyBytes : Upload :=
  { threeBytes with data := List.replicate 60 7 }

/-- The device processes the first two chunks in order; the acknowledgement at a position is collected
first. -/
def collecting (position : Nat) : List (Move (Except Error Response)) :=
  List.replicate 7 .advance ++
    [.process 0 (acknowledgement 1 1), .process 0 (acknowledgement 3 45), .collect position] ++
    List.replicate 5 .advance ++ [.collect 0] ++ List.replicate 3 .advance ++
    [.process 0 (acknowledgement 5 60), .collect 0, .advance, .advance]

theorem progress_rises_sixtyBytes :
    (∀ earlier position, earlier ++ [.collect position] <+: collecting 0 →
        ¬ Overtakes ((unheard sixtyBytes 2 0 0 {}).run machine.logged sixtyBytes.ascending earlier)
          position) ∧
      ((unheard sixtyBytes 2 0 0 {}).run machine.logged sixtyBytes.ascending
        (collecting 0)).state.told.map Progress.current = [1, 45, 60] ∧
      (((unheard sixtyBytes 2 0 0 {}).run machine.logged sixtyBytes.ascending
        (collecting 0)).state.told.map Progress.current).Pairwise (· < ·) := by
  have inOrder : ∀ move ∈ collecting 0, move.InOrder := by decide
  have inTurn : ∀ earlier position, earlier ++ [.collect position] <+: collecting 0 →
      ¬ Overtakes ((unheard sixtyBytes 2 0 0 {}).run machine.logged sixtyBytes.ascending earlier)
        position := by
    rintro earlier position first ⟨index, -, -, ahead, -⟩
    obtain rfl : position = 0 := inOrder (.collect position) (first.subset (by simp))
    exact Nat.not_lt_zero index ahead
  exact ⟨inTurn, by decide +kernel, progress_rises sixtyBytes 2 0 0 {} (collecting 0) inTurn⟩

/-- Both chunks are acknowledged in order, and the second acknowledgement overtakes the first. -/
theorem progress_falls_sixtyBytes :
    let network := (unheard sixtyBytes 2 0 0 {}).run machine.logged sixtyBytes.ascending (collecting 1)
    machine.need network.state.state = .finished (.ok ()) ∧
      network.state.told.map Progress.current = [45, 1, 60] ∧
      ¬ (network.state.told.map Progress.current).Pairwise (· < ·) := by
  decide +kernel

end Window

end SmpClient
