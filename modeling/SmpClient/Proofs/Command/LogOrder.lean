import SmpClient.Proofs.Command.LogPages
import SmpClient.Proofs.Machine.Trace
import Mathlib.Data.List.Chain

/-!
# In which order logs are read

A reader asks for the index that the last page names, whatever that is, unless it is the one that it
asked for.  So it reads forward as long as no page with entries falls back, and the first one names an
index.  If pages only hold entries that lie between two requests, both is the case: then no entry comes
on two pages, and there is an entry for each request but the first and the last.
-/

namespace SmpClient

open Log (labelled)

namespace LogReader

/-- A request for the page from an index on. -/
structure Request where
  index : Option Nat
  packet : Bytes

/-- The least index that is asked for. -/
def Request.minimum (request : Request) : Nat :=
  request.index.getD 0

/-- A request, and what it came to. -/
structure Turn extends Request where
  result : Except Error LogPage

/-- The request that the reader waits for. -/
def awaited (reader : LogReader) : List Request :=
  match reader.phase with
  | .asking _ _ packet => [{ index := reader.index, packet }]
  | .done _ => []

/-- The turn that an event ends. -/
def turned (reader : LogReader) : Event → List Turn
  | .reply (.answer outcome) =>
      match reader.phase with
      | .asking command scheme packet =>
          [{ index := reader.index, packet, result := command.conclude scheme packet outcome }]
      | .done _ => []
  | _ => []

/-- The pages that came. -/
def pages (turns : List Turn) : List LogPage :=
  turns.filterMap fun turn => turn.result.toOption

/-- A page with entries names no lower index than the one that was asked for; the first one names an
index. -/
def Turn.Advances (turn : Turn) : Prop :=
  ∀ page, turn.result = .ok page → page.labelled ≠ [] →
    turn.minimum ≤ page.nextIndex ∧ (turn.index = none → page.nextIndex ≠ 0)

/-- A page only holds entries from the index on that was asked for, and below the one that is asked for
next, if one is. -/
def Turn.Confined (turn : Turn) : Prop :=
  ∀ page, turn.result = .ok page → ∀ item ∈ page.labelled,
    turn.minimum ≤ item.2.index ∧ (turn.index ≠ some page.nextIndex → item.2.index < page.nextIndex)

instance (turn : Turn) : Decidable turn.Confined :=
  match resultEq : turn.result with
  | .error _ => .isTrue fun _ came => by cases resultEq.symm.trans came
  | .ok page =>
      decidable_of_iff
        (∀ item ∈ page.labelled, turn.minimum ≤ item.2.index ∧
          (turn.index ≠ some page.nextIndex → item.2.index < page.nextIndex))
        ⟨fun confined _ came => Except.ok.inj (resultEq.symm.trans came) ▸ confined,
          fun confined => confined page resultEq⟩

theorem Turn.Confined.advances {turn : Turn} (confined : turn.Confined) : turn.Advances := by
  intro page came present
  obtain ⟨item, rest, labelledEq⟩ := List.exists_cons_of_ne_nil present
  obtain ⟨atLeast, before⟩ := confined page came item (labelledEq ▸ List.mem_cons_self)
  by_cases stays : turn.index = some page.nextIndex
  · have minimumEq : turn.minimum = page.nextIndex := by
      rw [Request.minimum, stays, Option.getD_some]
    exact ⟨minimumEq.le, fun absent => by rw [absent] at stays; cases stays⟩
  · have forward := atLeast.trans_lt (before stays)
    exact ⟨forward.le, fun _ => Nat.ne_of_gt (Nat.zero_lt_of_lt forward)⟩

/-! ## The requests that go to the link -/

theorem packets_awaited (reader : LogReader) :
    reader.awaited.map Request.packet = (machine.need reader).packet?.toList := by
  simp only [awaited, machine, need]
  cases reader.phase <;> rfl

/-- Only an answer that is waited for changes anything. -/
theorem take_cases (reader : LogReader) (event : Event) :
    (∃ outcome command scheme packet, event = .reply (.answer outcome) ∧
        reader.phase = .asking command scheme packet) ∨
      (machine.take reader event = reader ∧ reader.turned event = [] ∧
        machine.hands reader event = []) := by
  cases phaseEq : reader.phase with
  | done result =>
      right
      have needEq : machine.need reader = .finished (result.map fun _ => reader.logs) := by
        simp only [machine, need, phaseEq]
      cases event with
      | signal signal => exact ⟨rfl, rfl, rfl⟩
      | reply reply =>
          have unmet : (machine.need reader).isMetBy reply = false := by
            rw [needEq]
            rfl
          refine ⟨?_, ?_, ?_⟩
          · simp only [Machine.take, machine, feed, phaseEq]
          · cases reply <;> simp only [turned, phaseEq]
          · rw [Machine.hands, unmet, if_neg Bool.false_ne_true]
  | asking command scheme packet =>
      have needEq : machine.need reader = .exchange packet command.kind := by
        simp only [machine, need, phaseEq]
      cases event with
      | signal signal => exact .inr ⟨rfl, rfl, rfl⟩
      | reply reply =>
          cases reply with
          | answer outcome => exact .inl ⟨outcome, command, scheme, packet, rfl, rfl⟩
          | _ =>
              refine .inr ⟨?_, rfl, ?_⟩
              · simp only [Machine.take, machine, feed, phaseEq]
              · simp [Machine.hands, needEq, Need.isMetBy]

/-- What was answered and what is waited for are the packets that were handed to the link. -/
theorem packets_take (reader : LogReader) (event : Event) :
    (reader.turned event).map (fun turn => turn.packet) ++
        (machine.take reader event).awaited.map Request.packet =
      reader.awaited.map Request.packet ++ machine.hands reader event := by
  rcases reader.take_cases event with ⟨outcome, command, scheme, packet, rfl, phaseEq⟩ |
    ⟨same, unturned, unhanded⟩
  · have needEq : machine.need reader = .exchange packet command.kind := by
      simp only [machine, need, phaseEq]
    have met : (machine.need reader).isMetBy (.answer outcome) = true := by
      rw [needEq]
      rfl
    rw [packets_awaited, packets_awaited, Machine.hands, if_pos met, needEq]
    simp only [turned, phaseEq]
    rfl
  · rw [same, unturned, unhanded, List.append_nil]
    rfl

theorem packets_requested (events : List Event) (reader : LogReader) :
    (machine.trace turned events reader).map (fun turn => turn.packet) ++
        (machine.after events reader).awaited.map Request.packet =
      reader.awaited.map Request.packet ++ machine.handed events reader := by
  induction events generalizing reader with
  | nil => simp [Machine.trace, Machine.after, Machine.handed]
  | cons event events ih =>
      rw [Machine.trace_cons, Machine.after_cons, Machine.handed, Machine.trace_cons,
        ← Machine.handed, List.map_append, List.append_assoc, ih, ← List.append_assoc, packets_take,
        List.append_assoc]

/-! ## What is asked for next -/

/-- Turns after each of which the reader goes on, and the index that it asks for next. -/
inductive Continued (scheme : Scheme) (name : Option String) : List Turn → Option Nat → Prop
  | start : Continued scheme name [] none
  | page {turns : List Turn} {index : Option Nat} {seq : UInt8} {packet : Bytes} {page : LogPage}
      (earlier : Continued scheme name turns index)
      (asked : (Command.logPage name index).packet scheme seq = .ok packet)
      (present : page.labelled ≠ []) (moved : index ≠ some page.nextIndex) :
      Continued scheme name (turns ++ [{ index, packet, result := .ok page }]) (some page.nextIndex)

/-- The turns of a reader that waits for an answer, or that has come to an end. -/
inductive Reading (scheme : Scheme) (name : Option String) : List Turn → LogReader → Prop
  | waiting {turns : List Turn} {index : Option Nat} {earlier seq : UInt8} {packet : Bytes}
      (continued : Continued scheme name turns index)
      (asked : (Command.logPage name index).packet scheme earlier = .ok packet) :
      Reading scheme name turns (waiting scheme name seq (collected (pages turns)) index packet)
  | ended {turns : List Turn} {turn : Turn} {earlier : UInt8} {reader : LogReader}
      (continued : Continued scheme name turns turn.index)
      (asked : (Command.logPage name turn.index).packet scheme earlier = .ok turn.packet)
      (last : ∀ page, turn.result = .ok page →
        page.labelled = [] ∨ turn.index = some page.nextIndex)
      (phaseEq : reader.phase = .done turn.result)
      (logsEq : reader.logs = collected (pages (turns ++ [turn]))) :
      Reading scheme name (turns ++ [turn]) reader

variable {scheme : Scheme} {name : Option String} {turns : List Turn} {index : Option Nat}

theorem reading_ask (continued : Continued scheme name turns index) (seq : UInt8) :
    Reading scheme name turns (ask scheme name seq (collected (pages turns)) index) := by
  obtain ⟨packet, asked, askEq⟩ := exists_ask scheme name seq (collected (pages turns)) index
  exact askEq ▸ .waiting continued asked

theorem pages_concat_ok (turns : List Turn) {turn : Turn} {page : LogPage}
    (came : turn.result = .ok page) : pages (turns ++ [turn]) = pages turns ++ [page] := by
  simp [pages, came, Except.toOption]

theorem pages_concat_error (turns : List Turn) {turn : Turn} {failure : Error}
    (failed : turn.result = .error failure) : pages (turns ++ [turn]) = pages turns := by
  simp [pages, failed, Except.toOption]

/-- One event: a turn is added, and the reader goes on or ends. -/
theorem Reading.take {reader : LogReader} (reading : Reading scheme name turns reader)
    (event : Event) :
    Reading scheme name (turns ++ reader.turned event) (machine.take reader event) := by
  rcases reader.take_cases event with ⟨outcome, command, other, packet, rfl, asking⟩ |
    ⟨same, unturned, -⟩
  · cases reading with
    | ended _ _ _ phaseEq _ => rw [phaseEq] at asking; cases asking
    | @waiting _ index earlier seq packet continued asked =>
        change Reading scheme name
          (turns ++ [⟨⟨index, packet⟩, (Command.logPage name index).conclude scheme packet outcome⟩])
          (machine.feed (.answer outcome) _)
        cases concluded : (Command.logPage name index).conclude scheme packet outcome with
        | error failure =>
            rw [feed_waiting_failed concluded]
            exact .ended continued asked (fun page came => by cases came) rfl
              (congrArg collected (pages_concat_error turns rfl)).symm
        | ok page =>
            have logsEq : collected (pages (turns ++ [⟨⟨index, packet⟩, .ok page⟩])) =
                merge (collected (pages turns)) page := by
              rw [pages_concat_ok turns rfl, collected_concat]
            by_cases last : page.labelled = [] ∨ index = some page.nextIndex
            · rw [feed_waiting_last concluded last]
              exact .ended continued asked (fun other came => Except.ok.inj came ▸ last) rfl
                logsEq.symm
            · obtain ⟨present, moved⟩ := not_or.mp last
              rw [feed_waiting_next concluded present moved, ← logsEq]
              exact reading_ask (continued.page asked present moved) _
  · rwa [same, unturned, List.append_nil]

theorem reading_after (scheme : Scheme) (name : Option String) (seq : UInt8) (events : List Event) :
    Reading scheme name (machine.trace turned events (start scheme name seq))
      (machine.after events (start scheme name seq)) :=
  Machine.trace_invariant (Reading scheme name) (reading_ask .start seq)
    (fun _ event _ reading => reading.take event) events

/-! ## Reading forward -/

/-- A page after which the reader goes on takes it forward if and only if it advances. -/
theorem advances_iff {turn : Turn} {page : LogPage} (came : turn.result = .ok page)
    (present : page.labelled ≠ []) (moved : turn.index ≠ some page.nextIndex) :
    turn.Advances ↔ turn.minimum < page.nextIndex := by
  have advances_iff_page : turn.Advances ↔
      turn.minimum ≤ page.nextIndex ∧ (turn.index = none → page.nextIndex ≠ 0) := by
    refine ⟨fun advances => advances page came present, fun advances other otherCame _ => ?_⟩
    obtain rfl : page = other := Except.ok.inj (came.symm.trans otherCame)
    exact advances
  rw [advances_iff_page, Request.minimum]
  cases indexEq : turn.index with
  | none => simp [Nat.pos_iff_ne_zero]
  | some minimum =>
      have differs : minimum ≠ page.nextIndex := fun same => moved (indexEq.trans (same ▸ rfl))
      simp only [Option.getD_some, reduceCtorEq, false_implies, and_true]
      omega

theorem advances_of_last {turn : Turn} (last : ∀ page, turn.result = .ok page →
    page.labelled = [] ∨ turn.index = some page.nextIndex) : turn.Advances := by
  intro page came present
  have stays := (last page came).resolve_left present
  rw [Request.minimum, stays]
  exact ⟨le_refl _, fun absent => by cases absent⟩

theorem Continued.rises_iff (continued : Continued scheme name turns index) :
    (turns.map (fun turn => turn.minimum) ++ [index.getD 0]).Pairwise (· < ·) ↔
      ∀ turn ∈ turns, turn.Advances := by
  induction continued with
  | start => simp
  | @page turns index seq packet page earlier asked present moved ih =>
      generalize turnEq : Turn.mk ⟨index, packet⟩ (.ok page) = turn
      have came : turn.result = .ok page := turnEq ▸ rfl
      have indexEq : turn.index = index := turnEq ▸ rfl
      have minimumEq : turn.minimum = index.getD 0 := by rw [Request.minimum, indexEq]
      have onward := advances_iff came present (indexEq ▸ moved)
      rw [← List.isChain_iff_pairwise, ← minimumEq] at ih
      rw [← List.isChain_iff_pairwise, List.forall_mem_append, List.forall_mem_singleton,
        List.map_append, List.map_singleton, List.append_assoc, List.singleton_append,
        List.isChain_append_cons_cons, ih, onward, Option.getD_some]
      simp

/-! ## Entries between two requests -/

/-- All entries of one page come before all of another. -/
def Before (first second : LogPage) : Prop :=
  ∀ item ∈ first.labelled, ∀ other ∈ second.labelled, item.2.index < other.2.index

/-- Entries that were read lie below the index that is asked for next, one page above the other, and one
at least for each page. -/
structure Spread (turns : List Turn) (index : Option Nat) : Prop where
  below : ∀ page ∈ pages turns, ∀ item ∈ page.labelled, item.2.index < index.getD 0
  apart : (pages turns).Pairwise Before
  reached : turns.length ≤ index.getD 0
  filled : ∀ bound, (∀ page ∈ pages turns, ∀ item ∈ page.labelled, item.2.index ≤ bound) →
    turns.length ≤ bound + 1

theorem pairwise_before_concat {came : List LogPage} {page : LogPage} {low : Nat}
    (apart : came.Pairwise Before)
    (below : ∀ page ∈ came, ∀ item ∈ page.labelled, item.2.index < low)
    (above : ∀ item ∈ page.labelled, low ≤ item.2.index) : (came ++ [page]).Pairwise Before := by
  refine List.pairwise_append.mpr ⟨apart, List.pairwise_singleton _ _, ?_⟩
  intro first among last member item ofFirst other ofLast
  obtain rfl := List.mem_singleton.mp member
  exact (below first among item ofFirst).trans_le (above other ofLast)

theorem Continued.spread (continued : Continued scheme name turns index)
    (confined : ∀ turn ∈ turns, turn.Confined) : Spread turns index := by
  induction continued with
  | start => exact ⟨by simp [pages], List.Pairwise.nil, Nat.zero_le _, fun _ _ => Nat.zero_le _⟩
  | @page turns index seq packet page earlier asked present moved ih =>
      obtain ⟨confinedTurns, confinedLast⟩ := List.forall_mem_append.mp confined
      have spread := ih confinedTurns
      have between : ∀ item ∈ page.labelled,
          index.getD 0 ≤ item.2.index ∧ item.2.index < page.nextIndex := by
        intro item member
        obtain ⟨atLeast, before⟩ := confinedLast _ List.mem_cons_self page rfl item member
        exact ⟨atLeast, before moved⟩
      obtain ⟨first, rest, labelledEq⟩ := List.exists_cons_of_ne_nil present
      have firstMember : first ∈ page.labelled := labelledEq ▸ List.mem_cons_self
      obtain ⟨atLeast, before⟩ := between first firstMember
      have reached := spread.reached
      have pagesEq : pages (turns ++ [⟨⟨index, packet⟩, .ok page⟩]) = pages turns ++ [page] :=
        pages_concat_ok turns rfl
      refine ⟨?below, ?apart, ?reached, ?filled⟩
      case below =>
        rw [pagesEq]
        refine List.forall_mem_append.mpr ⟨fun other among item member => ?_,
          List.forall_mem_singleton.mpr fun item member => (between item member).2⟩
        exact (spread.below other among item member).trans (atLeast.trans_lt before)
      case apart =>
        rw [pagesEq]
        exact pairwise_before_concat spread.apart spread.below fun item member =>
          (between item member).1
      case reached =>
        rw [List.length_append, List.length_singleton, Option.getD_some]
        omega
      case filled =>
        intro bound within
        rw [pagesEq] at within
        have firstWithin := (List.forall_mem_append.mp within).2 page List.mem_cons_self first
          firstMember
        rw [List.length_append, List.length_singleton]
        omega

theorem Reading.logs_eq {reader : LogReader} (reading : Reading scheme name turns reader) :
    reader.logs = collected (pages turns) := by
  cases reading with
  | waiting => rfl
  | ended _ _ _ _ logsEq => exact logsEq

/-! ## All requests -/

theorem Continued.asked (continued : Continued scheme name turns index) :
    ∀ turn ∈ turns, ∃ seq, (Command.logPage name turn.index).packet scheme seq = .ok turn.packet := by
  induction continued with
  | start => exact List.forall_mem_nil _
  | page _ asked _ _ ih =>
      exact List.forall_mem_append.mpr ⟨ih, List.forall_mem_singleton.mpr ⟨_, asked⟩⟩

/-- The last request of a reader comes after turns after each of which it goes on.  It is unanswered, or
its answer is the last one. -/
structure Lasts (scheme : Scheme) (name : Option String) (turns : List Turn) (before : List Turn)
    (last : Request) : Prop where
  continued : Continued scheme name before last.index
  asked : ∃ seq, (Command.logPage name last.index).packet scheme seq = .ok last.packet
  unanswered_or : turns = before ∨ ∃ turn, turns = before ++ [turn] ∧ turn.toRequest = last ∧
    ∀ page, turn.result = .ok page → page.labelled = [] ∨ turn.index = some page.nextIndex

theorem Reading.exists_lasts {reader : LogReader} (reading : Reading scheme name turns reader) :
    ∃ before last, Lasts scheme name turns before last ∧
      turns.map Turn.toRequest ++ reader.awaited = before.map Turn.toRequest ++ [last] := by
  cases reading with
  | @waiting _ index _ _ packet continued asked =>
      exact ⟨turns, ⟨index, packet⟩, ⟨continued, ⟨_, asked⟩, .inl rfl⟩, rfl⟩
  | @ended before turn _ _ continued asked last phaseEq =>
      refine ⟨before, turn.toRequest, ⟨continued, ⟨_, asked⟩, .inr ⟨turn, rfl, rfl, last⟩⟩, ?_⟩
      rw [awaited, phaseEq, List.append_nil, List.map_append, List.map_singleton]

theorem Lasts.forall_advances_iff {before : List Turn} {last : Request}
    (lasts : Lasts scheme name turns before last) :
    (∀ turn ∈ turns, turn.Advances) ↔ ∀ turn ∈ before, turn.Advances := by
  rcases lasts.unanswered_or with rfl | ⟨turn, rfl, -, ends⟩
  · rfl
  · rw [List.forall_mem_append, List.forall_mem_singleton]
    exact and_iff_left (advances_of_last ends)

theorem Lasts.subset {before : List Turn} {last : Request}
    (lasts : Lasts scheme name turns before last) : before ⊆ turns := by
  rcases lasts.unanswered_or with rfl | ⟨turn, rfl, -, -⟩
  · exact List.Subset.refl _
  · exact List.subset_append_left _ _

theorem Lasts.apart {before : List Turn} {last : Request}
    (lasts : Lasts scheme name turns before last) (confined : ∀ turn ∈ turns, turn.Confined) :
    (pages turns).Pairwise Before := by
  have spread := lasts.continued.spread fun turn member => confined turn (lasts.subset member)
  rcases lasts.unanswered_or with rfl | ⟨turn, rfl, rfl, -⟩
  · exact spread.apart
  · cases resultEq : turn.result with
    | error failure => exact pages_concat_error before resultEq ▸ spread.apart
    | ok page =>
        rw [pages_concat_ok before resultEq]
        refine pairwise_before_concat spread.apart spread.below fun item member => ?_
        exact (confined turn (by simp) page resultEq item member).1

/-- The requests for pages of a reader, what they came to, and what it has read. -/
structure Orderly (scheme : Scheme) (name : Option String) (turns : List Turn)
    (requests : List Request) (logs : List Log) : Prop where
  asked : ∀ request ∈ requests, ∃ seq,
    (Command.logPage name request.index).packet scheme seq = .ok request.packet
  rises_iff : (requests.map Request.minimum).Pairwise (· < ·) ↔ ∀ turn ∈ turns, turn.Advances
  rises : (∀ turn ∈ turns, turn.Confined) → (requests.map Request.minimum).Pairwise (· < ·)
  once : (∀ turn ∈ turns, turn.Confined) →
    (((labelled logs).map fun item => item.2.index).Nodup ↔
      ∀ page ∈ pages turns, (page.labelled.map fun item => item.2.index).Nodup)
  few : (∀ turn ∈ turns, turn.Confined) →
    ∀ bound, (∀ item ∈ labelled logs, item.2.index ≤ bound) → requests.length ≤ bound + 2

theorem Reading.orderly {reader : LogReader} (reading : Reading scheme name turns reader) :
    Orderly scheme name turns (turns.map Turn.toRequest ++ reader.awaited) reader.logs := by
  obtain ⟨before, last, lasts, requestsEq⟩ := reading.exists_lasts
  have merged := merged_collected (pages turns)
  have labelledEq : labelled ((pages turns).flatMap LogPage.logs) =
      (pages turns).flatMap LogPage.labelled := List.flatMap_assoc
  have read : (labelled reader.logs).Perm ((pages turns).flatMap LogPage.labelled) := by
    rw [reading.logs_eq, ← labelledEq]
    exact merged.labelled_perm
  have rises_iff : ((before.map Turn.toRequest ++ [last]).map Request.minimum).Pairwise (· < ·) ↔
      ∀ turn ∈ turns, turn.Advances := by
    rw [lasts.forall_advances_iff, ← lasts.continued.rises_iff, List.map_append, List.map_map]
    rfl
  rw [requestsEq]
  refine ⟨?asked, rises_iff, ?rises, ?once, ?few⟩
  case asked =>
    refine List.forall_mem_append.mpr ⟨fun request member => ?_,
      List.forall_mem_singleton.mpr lasts.asked⟩
    obtain ⟨turn, among, rfl⟩ := List.mem_map.mp member
    exact lasts.continued.asked turn among
  case rises => exact fun confined =>
    rises_iff.mpr fun turn member => (confined turn member).advances
  case once =>
    intro confined
    rw [(read.map _).nodup_iff, List.map_flatMap, List.nodup_flatMap]
    refine and_iff_left ((lasts.apart confined).imp fun apart => ?_)
    rw [Function.onFun, List.disjoint_left]
    intro number ofFirst ofSecond
    obtain ⟨item, member, rfl⟩ := List.mem_map.mp ofFirst
    obtain ⟨other, otherMember, same⟩ := List.mem_map.mp ofSecond
    exact (apart item member other otherMember).ne' same
  case few =>
    intro confined bound within
    have spread := lasts.continued.spread fun turn member => confined turn (lasts.subset member)
    have filled := spread.filled bound fun page member item ofPage => by
      obtain ⟨turn, among, came⟩ := List.mem_filterMap.mp member
      have came : page ∈ pages turns := List.mem_filterMap.mpr ⟨turn, lasts.subset among, came⟩
      exact within item (read.mem_iff.mpr (List.mem_flatMap.mpr ⟨page, came, ofPage⟩))
    rw [List.length_append, List.length_map, List.length_singleton]
    omega

/-- Whatever happens to a reader, its requests rise if and only if each page that it goes on after takes
it forward.  If pages only hold entries that lie between two requests, the requests rise, no entry is
read from two pages, and the largest index bounds the number of requests. -/
theorem reads_forward_iff (scheme : Scheme) (name : Option String) (seq : UInt8)
    (events : List Event) :
    let first := start scheme name seq
    let turns := machine.trace turned events first
    let reader := machine.after events first
    let requests := turns.map Turn.toRequest ++ reader.awaited
    requests.map Request.packet = first.awaited.map Request.packet ++ machine.handed events first ∧
      Orderly scheme name turns requests reader.logs := by
  intro first turns reader requests
  refine ⟨?_, (reading_after scheme name seq events).orderly⟩
  rw [List.map_append, List.map_map]
  exact packets_requested events first

/-- Two pages with an entry each, and one without. -/
theorem reads_forward_twoPages :
    let payload (index next : UInt8) : Bytes := [0xa2, 0x64, 0x6c, 0x6f, 0x67, 0x73, 0x81, 0xa2, 0x64,
      0x6e, 0x61, 0x6d, 0x65, 0x61, 0x6c, 0x67, 0x65, 0x6e, 0x74, 0x72, 0x69, 0x65, 0x73, 0x81, 0xa2,
      0x63, 0x6d, 0x73, 0x67, 0x62, 0x6d, 0x31, 0x65, 0x69, 0x6e, 0x64, 0x65, 0x78, index, 0x6a, 0x6e,
      0x65, 0x78, 0x74, 0x5f, 0x69, 0x6e, 0x64, 0x65, 0x78, next]
    let answer (seq length : UInt8) (payload : Bytes) : Event :=
      .reply (.answer (Response.decode .ble ([9, 0, 0, length, 0, 4, seq, 0] ++ payload) .generic))
    let events := [answer 0 51 (payload 1 2), answer 1 51 (payload 2 5), answer 2 1 [0xa0]]
    let first := start .ble none 0
    let turns := machine.trace turned events first
    let reader := machine.after events first
    let requests := turns.map Turn.toRequest ++ reader.awaited
    (∀ turn ∈ turns, turn.Confined) ∧ requests.map Request.minimum = [0, 2, 5] ∧
      (requests.map Request.minimum).Pairwise (· < ·) ∧
      ((labelled reader.logs).map fun item => item.2.index).Nodup ∧ requests.length ≤ 2 + 2 := by
  intro payload answer events first turns reader requests
  obtain ⟨-, orderly⟩ := reads_forward_iff .ble none 0 events
  have confined : ∀ turn ∈ turns, turn.Confined := by decide +kernel
  have single : ∀ page ∈ pages turns, (page.labelled.map fun item => item.2.index).Nodup := by
    decide +kernel
  have within : ∀ item ∈ labelled reader.logs, item.2.index ≤ 2 := by decide +kernel
  have asked : requests.map Request.minimum = [0, 2, 5] := by decide +kernel
  exact ⟨confined, asked, orderly.rises confined, (orderly.once confined).mpr single,
    orderly.few confined 2 within⟩

/-- A page that names no index is read twice: the first request asks for no index, the second one for
the index zero. -/
theorem reads_twice_of_unnamed :
    let payload : Bytes := [0xa1, 0x64, 0x6c, 0x6f, 0x67, 0x73, 0x81, 0xa2, 0x64, 0x6e, 0x61, 0x6d,
      0x65, 0x61, 0x6c, 0x67, 0x65, 0x6e, 0x74, 0x72, 0x69, 0x65, 0x73, 0x81, 0xa2, 0x63, 0x6d, 0x73,
      0x67, 0x62, 0x6d, 0x31, 0x65, 0x69, 0x6e, 0x64, 0x65, 0x78, 0x01]
    let answer (seq : UInt8) : Event :=
      .reply (.answer (Response.decode .ble ([9, 0, 0, 39, 0, 4, seq, 0] ++ payload) .generic))
    let first := start .ble none 0
    let turns := machine.trace turned [answer 0, answer 1] first
    let reader := machine.after [answer 0, answer 1] first
    let asked := (turns.map Turn.toRequest ++ reader.awaited).map Request.minimum
    asked = [0, 0] ∧ ¬ asked.Pairwise (· < ·) ∧
      (labelled reader.logs).map (fun item => item.2.index) = [1, 1] := by
  decide +kernel

end LogReader

end SmpClient
