import SmpClient.Proofs.Upgrade.Reporting
import SmpClient.Proofs.Upgrade.Requests
import SmpClient.Proofs.Upgrade.SlotReports
import SmpClient.Proofs.Upgrade.TaskCounts

/-!
# The check after a mark

A device answers a request to mark an image with a report of its slots.  The session looks at the first
slot with the hash of the image, whatever the index of that slot is.  So it judges the slots of the image
itself in every order of the report if and only if all slots with the hash say what these slots say.
-/

namespace SmpClient

namespace ImageState

/-- Whether an image is listed as waiting for a boot. -/
def ListsPending (report : ImageState) (target : TargetImage) : Prop :=
  ∃ slot ∈ report.images, target.IsIn slot ∧ slot.pending = true

/-- Whether an image is listed, and nowhere as one to stay. -/
def ListsUnconfirmed (report : ImageState) (target : TargetImage) : Prop :=
  report.Lists target ∧ ∀ slot ∈ report.images, target.IsIn slot →
    slot.confirmed = false ∧ slot.permanent = false

instance (report : ImageState) (target : TargetImage) : Decidable (report.ListsPending target) :=
  inferInstanceAs (Decidable (∃ slot ∈ report.images, _))

instance (report : ImageState) (target : TargetImage) : Decidable (report.ListsUnconfirmed target) :=
  inferInstanceAs (Decidable (_ ∧ ∀ slot ∈ report.images, _))

variable {report other : ImageState} {target : TargetImage}

theorem listsPending_of_perm (perm : other.images.Perm report.images) :
    other.ListsPending target ↔ report.ListsPending target := by
  simp only [ListsPending, perm.mem_iff]

theorem listsUnconfirmed_of_perm (perm : other.images.Perm report.images) :
    other.ListsUnconfirmed target ↔ report.ListsUnconfirmed target := by
  simp only [ListsUnconfirmed, Lists, perm.mem_iff]

end ImageState

namespace Session

/-- Whether the checks of a report judge the slots of an image itself. -/
structure ChecksOwn (target : TargetImage) (report : ImageState) : Prop where
  tested : tested target (.ok report) =
    if report.ListsPending target then .ok [] else .error .imageNotPending
  confirmed : confirmed target (.ok report) =
    if report.ListsUnconfirmed target then .error .imageNotConfirmed else .ok []

variable {target : TargetImage} {report other : ImageState}

theorem tested_ok (target : TargetImage) (report : ImageState) :
    tested target (.ok report) =
      if (report.findByHash? target.hash).any (·.pending) = true then .ok []
      else .error .imageNotPending := by
  cases found : report.findByHash? target.hash <;>
    simp only [tested, bind, Except.bind, found, Option.any_some]
  · rfl
  · rfl

theorem confirmed_ok (target : TargetImage) (report : ImageState) :
    confirmed target (.ok report) =
      if (report.findByHash? target.hash).any (fun slot => !(slot.confirmed || slot.permanent)) = true
      then .error .imageNotConfirmed else .ok [] := by
  cases found : report.findByHash? target.hash with
  | none =>
      simp only [confirmed, bind, Except.bind, found]
      rfl
  | some slot =>
      simp only [confirmed, bind, Except.bind, found, Option.any_some]
      by_cases stays : (slot.confirmed || slot.permanent) = true
      · simp only [stays]
        rfl
      · simp only [stays]
        rfl

/-- Whether what was found of an image agrees with what a report lists of it. -/
def Agrees (target : TargetImage) (report : ImageState) (found : Option ImageSlot) : Prop :=
  (found.any (·.pending) = true ↔ report.ListsPending target) ∧
    (found.any (fun slot => !(slot.confirmed || slot.permanent)) = true ↔
      report.ListsUnconfirmed target)

theorem checksOwn_iff :
    ChecksOwn target report ↔ Agrees target report (report.findByHash? target.hash) := by
  constructor
  · rintro ⟨tests, confirms⟩
    rw [tested_ok, ite_eq_ite_iff (by simp)] at tests
    rw [confirmed_ok, ite_eq_ite_iff (by simp)] at confirms
    exact ⟨tests, confirms⟩
  · rintro ⟨tests, confirms⟩
    refine ⟨?_, ?_⟩
    · rwa [tested_ok, ite_eq_ite_iff (by simp)]
    · rwa [confirmed_ok, ite_eq_ite_iff (by simp)]

theorem agrees_of_perm (perm : other.images.Perm report.images) (found : Option ImageSlot) :
    Agrees target other found ↔ Agrees target report found := by
  rw [Agrees, Agrees, ImageState.listsPending_of_perm perm, ImageState.listsUnconfirmed_of_perm perm]

theorem agrees_none (absent : ∀ slot ∈ report.images, ¬ slot.hash = target.hash) :
    Agrees target report none := by
  have unlisted : ¬ report.Lists target :=
    fun ⟨slot, member, isIn⟩ => absent slot member isIn.2
  have unpending : ¬ report.ListsPending target :=
    fun ⟨slot, member, isIn, _⟩ => absent slot member isIn.2
  simp [Agrees, ImageState.ListsUnconfirmed, unlisted, unpending]

/-- A report is judged by the slots of the image itself in every order, if and only if all slots with the
hash agree with these slots. -/
theorem forall_perm_checksOwn_iff :
    (∀ other : ImageState, other.images.Perm report.images → ChecksOwn target other) ↔
      ∀ slot ∈ report.images, slot.hash = target.hash → Agrees target report (some slot) := by
  have inOrder := List.forall_perm_find?_iff report.images (fun slot => slot.hash = target.hash)
    (Agrees target report)
  simp only [decide_eq_true_eq] at inOrder
  constructor
  · intro checks slot member hashEq
    refine (inOrder.mp fun images perm => ?_).1 slot member hashEq
    have own := checksOwn_iff.mp (checks { images } perm)
    exact (agrees_of_perm perm _).mp own
  · intro agree other perm
    refine checksOwn_iff.mpr ((agrees_of_perm perm _).mpr ?_)
    exact inOrder.mpr ⟨agree, agrees_none⟩ other.images perm

/-! ## In a session -/

variable {origin : Session} {events : List Event} {task : Task} {question : Question} {packet : Bytes}

theorem Question.eq_of_serves_test (serves : question.Serves (.test target)) :
    question = .test target := by
  cases question with
  | test other => rw [Task.test.inj serves]
  | confirm other => rcases serves with same | same <;> cases same
  | reset => rcases serves with same | same <;> cases same
  | _ => cases serves

theorem Question.eq_of_serves_confirm (confirms : task = .confirm target ∨ task = .confirmAfterReset target)
    (serves : question.Serves task) : question = .confirm target := by
  rcases confirms with rfl | rfl <;> cases question with
  | confirm other =>
      rcases serves with same | same <;> cases same
      rfl
  | reset => rcases serves with same | same <;> cases same
  | _ => cases serves

/-- A packet on its way asks for the mark that the task begun last is for. -/
theorem asking_of_mark (fresh : origin.IsFresh) (marks : task.isMark = true)
    (last : (Log.of (history events origin)).begun.getLast? = some task)
    (handed : (machine.need (machine.after events origin)).packet? = some packet) :
    ∃ question, (machine.after events origin).phase = .asking question packet ∧
      question.Serves task := by
  have working : (machine.after events origin).phase.isWorking = true := by
    rcases sends_of_packet? handed with ⟨question, phaseEq⟩ | ⟨job, phaseEq, -⟩ <;> rw [phaseEq] <;> rfl
  obtain ⟨completed, ahead, begun, -, begunEq, -, -, serves, -⟩ :=
    (course_after fresh events).1.of_working (.inl working)
  rw [begunEq, List.getLast?_concat] at last
  obtain rfl := Option.some.inj last
  rcases sends_of_packet? handed with ⟨question, phaseEq⟩ | ⟨job, phaseEq, -⟩ <;> rw [phaseEq] at serves
  · exact ⟨question, phaseEq, serves⟩
  · obtain ⟨target, rfl⟩ := serves
    cases marks

/-- A task that marks an image ends with the check of the report that comes in answer, whatever has
happened before.  The check judges the slots of the image itself in every order of the report if and only
if all slots with the hash of the image agree with them. -/
theorem checked_of_answered {scheme : Scheme} {mtu : Nat} {settings : UpgradeSettings}
    {images : ImageSet} {mode : UpgradeMode} {seq : UInt8}
    (started : start scheme mtu settings images mode seq = .ok origin)
    (last : (Log.of (history events origin)).begun.getLast? = some task)
    (handed : (machine.need (machine.after events origin)).packet? = some packet)
    (outcome : Except Error Response) (target : TargetImage) (report : ImageState) :
    (task = .test target →
      (Command.testImage target.hash).conclude scheme packet outcome = .ok report →
        ((machine.after events origin).feed (.answer outcome)).phase =
          .performed (tested target (.ok report))) ∧
      (task = .confirm target ∨ task = .confirmAfterReset target →
        (Command.confirmImage (some target.hash)).conclude scheme packet outcome = .ok report →
          ((machine.after events origin).feed (.answer outcome)).phase =
            .performed (confirmed target (.ok report))) ∧
      ((∀ other : ImageState, other.images.Perm report.images → ChecksOwn target other) ↔
        ∀ slot ∈ report.images, slot.hash = target.hash → Agrees target report (some slot)) := by
  have fresh := isFresh_of_start started
  have schemeEq : (machine.after events origin).scheme = scheme :=
    congrArg Prod.fst ((course_after fresh events).2.trans (brief_of_start started))
  refine ⟨?_, ?_, forall_perm_checksOwn_iff⟩
  · rintro rfl reads
    obtain ⟨question, asks, serves⟩ := asking_of_mark fresh rfl last handed
    obtain rfl := Question.eq_of_serves_test serves
    simp only [feed, asks, answer, schemeEq, reads, finish]
  · rintro confirms reads
    have marks : task.isMark = true := by
      rcases confirms with rfl | rfl <;> rfl
    obtain ⟨question, asks, serves⟩ := asking_of_mark fresh marks last handed
    obtain rfl := Question.eq_of_serves_confirm confirms serves
    simp only [feed, asks, answer, schemeEq, reads, finish]

/-- The device lists the image in a slot, and is asked to mark it. -/
def markAsked (slot : ImageSlot) : List Event :=
  goingOn 5 ++ [answering .readResponse .os 0 8 (.record [("rc", .nat 8)])] ++
    goingOn 1 ++ [listing .readResponse 1 slot] ++ goingOn 5

/-- A report of the slots in answer to the request to mark an image. -/
def reporting (report : ImageState) : Except Error Response := do
  Response.decode .ble
    (← Packet.build .ble .writeResponse 0 Group.image.number 2 0 report.toValue) .generic

/-- An image of another index with the same hash comes first, and does not wait for a boot. -/
def namesakeFirst : ImageState :=
  { images := [{ image := 1, slot := 1, hash := [7] }, { slot := 1, hash := [7], pending := true }] }

/-- The request to test the image, or to confirm it. -/
def markRequest (confirms : Bool) : Bytes :=
  [0x0a, 0, 0, 17, 0, 1, 2, 0, 0xa2, 0x64, 0x68, 0x61, 0x73, 0x68, 0x41, 7, 0x67, 0x63, 0x6f, 0x6e, 0x66,
    0x69, 0x72, 0x6d, if confirms then 0xf5 else 0xf4]

theorem checked_of_answered_namesakeFirst :
    start .ble 65 { disconnectTimeout := 0 } ⟨[oneByteImage]⟩ .testAndConfirm 0 = .ok oneByteStart ∧
      (((Log.of (history (markAsked { hash := [7] }) oneByteStart)).begun.getLast? =
            some (.test oneByteImage) ∧
          (machine.need (machine.after (markAsked { hash := [7] }) oneByteStart)).packet? =
            some (markRequest false) ∧
          (Command.testImage oneByteImage.hash).conclude .ble (markRequest false)
            (reporting namesakeFirst) = .ok namesakeFirst) ∧
        ((machine.after (markAsked { hash := [7] }) oneByteStart).feed
            (.answer (reporting namesakeFirst))).phase =
          .performed (tested oneByteImage (.ok namesakeFirst))) ∧
      (((Log.of (history (markAsked { hash := [7], active := true }) oneByteStart)).begun.getLast? =
            some (.confirm oneByteImage) ∧
          (machine.need
            (machine.after (markAsked { hash := [7], active := true }) oneByteStart)).packet? =
            some (markRequest true) ∧
          (Command.confirmImage (some oneByteImage.hash)).conclude .ble (markRequest true)
            (reporting namesakeFirst) = .ok namesakeFirst) ∧
        ((machine.after (markAsked { hash := [7], active := true }) oneByteStart).feed
            (.answer (reporting namesakeFirst))).phase =
          .performed (confirmed oneByteImage (.ok namesakeFirst))) ∧
      ((∀ other : ImageState, other.images.Perm namesakeFirst.images →
          ChecksOwn oneByteImage other) ↔
        ∀ slot ∈ namesakeFirst.images, slot.hash = oneByteImage.hash →
          Agrees oneByteImage namesakeFirst (some slot)) := by
  have started : start .ble 65 { disconnectTimeout := 0 } ⟨[oneByteImage]⟩ .testAndConfirm 0 =
      .ok oneByteStart := rfl
  have testLast : (Log.of (history (markAsked { hash := [7] }) oneByteStart)).begun.getLast? =
      some (.test oneByteImage) := by decide +kernel
  have testHanded : (machine.need
      (machine.after (markAsked { hash := [7] }) oneByteStart)).packet? = some (markRequest false) := by
    decide +kernel
  have testReads : (Command.testImage oneByteImage.hash).conclude .ble (markRequest false)
      (reporting namesakeFirst) = .ok namesakeFirst := by
    rw [← Except.toOption_eq_some_iff]
    decide +kernel
  have confirmLast : (Log.of (history (markAsked { hash := [7], active := true })
      oneByteStart)).begun.getLast? = some (.confirm oneByteImage) := by decide +kernel
  have confirmHanded : (machine.need
      (machine.after (markAsked { hash := [7], active := true }) oneByteStart)).packet? =
        some (markRequest true) := by decide +kernel
  have confirmReads : (Command.confirmImage (some oneByteImage.hash)).conclude .ble
      (markRequest true) (reporting namesakeFirst) = .ok namesakeFirst := by
    rw [← Except.toOption_eq_some_iff]
    decide +kernel
  have testChecked := checked_of_answered started testLast testHanded (reporting namesakeFirst)
    oneByteImage namesakeFirst
  have confirmChecked := checked_of_answered started confirmLast confirmHanded
    (reporting namesakeFirst) oneByteImage namesakeFirst
  exact ⟨started, ⟨⟨testLast, testHanded, testReads⟩, testChecked.1 rfl testReads⟩,
    ⟨⟨confirmLast, confirmHanded, confirmReads⟩, confirmChecked.2.1 (.inl rfl) confirmReads⟩,
    testChecked.2.2⟩

/-- The image of another index is marked, and the image itself is not. -/
def namesakeMarked : ImageState :=
  { images := [{ image := 1, slot := 1, hash := [7], pending := true, confirmed := true },
      { slot := 1, hash := [7] }] }

/-- The slot that comes first decides, although it is not one of the image: the upgrade fails with an image
that waits for its boot, and marks that came to nothing pass for done. -/
theorem misjudged_of_namesake :
    (namesakeFirst.ListsPending oneByteImage ∧
      tested oneByteImage (.ok namesakeFirst) = .error .imageNotPending ∧
      (outcomes (history (markAsked { hash := [7] } ++
        .reply (.answer (reporting namesakeFirst)) :: goingOn 2) oneByteStart)).map SessionNote.name =
          ["failed"]) ∧
      (¬ namesakeMarked.ListsPending oneByteImage ∧
        tested oneByteImage (.ok namesakeMarked) = .ok []) ∧
      namesakeMarked.ListsUnconfirmed oneByteImage ∧
        confirmed oneByteImage (.ok namesakeMarked) = .ok [] := by
  have outcome : (outcomes (history (markAsked { hash := [7] } ++
      .reply (.answer (reporting namesakeFirst)) :: goingOn 2) oneByteStart)).map SessionNote.name =
        ["failed"] := by decide +kernel
  exact ⟨⟨by decide, rfl, outcome⟩, ⟨by decide, rfl⟩, by decide, rfl⟩

end Session

end SmpClient
