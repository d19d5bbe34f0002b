import SmpClient.Proofs.Command.LogPages
import SmpClient.Proofs.Command.LogReplies
import SmpClient.Proofs.Machine.AtOnce

/-!
# All entries of a device

A device that pages its logs answers each request with its entries from the index that is asked for up
to the one that it names, and moves on while there are entries left.  How far a page goes is left to it.
The entries that were read are then always those below the index that is asked for next, so a reader
that comes to the end has read each of them once.
-/

namespace SmpClient

open Network

/-- The entries of logs from an index on, up to another. -/
def Log.between (logs : List Log) (low high : Nat) : List (String × LogEntry) :=
  (labelled logs).filter fun (_, entry) => low ≤ entry.index ∧ entry.index < high

namespace Log

variable {logs : List Log} {low middle high : Nat}

theorem mem_between {item : String × LogEntry} :
    item ∈ between logs low high ↔
      item ∈ labelled logs ∧ low ≤ item.2.index ∧ item.2.index < high := by
  simp [between]

theorem between_append_perm (first : low ≤ middle) (second : middle ≤ high) :
    (between logs low middle ++ between logs middle high).Perm (between logs low high) := by
  have split := List.filter_append_perm (fun item : String × LogEntry => item.2.index < middle)
    (between logs low high)
  have before : (between logs low high).filter (fun item => item.2.index < middle) =
      between logs low middle := by
    rw [between, List.filter_filter]
    refine List.filter_congr fun item _ => ?_
    rw [← Bool.decide_and, decide_eq_decide]
    omega
  have after : (between logs low high).filter (fun item => !decide (item.2.index < middle)) =
      between logs middle high := by
    rw [between, List.filter_filter]
    refine List.filter_congr fun item _ => ?_
    rw [← decide_not, ← Bool.decide_and, decide_eq_decide]
    omega
  rwa [before, after] at split

/-- The logs with their entries from an index on, up to another. -/
def within (logs : List Log) (low high : Nat) : List Log :=
  logs.map fun log =>
    { log with entries := log.entries.filter fun entry => low ≤ entry.index ∧ entry.index < high }

theorem labelled_within (logs : List Log) (low high : Nat) :
    labelled (within logs low high) = between logs low high := by
  induction logs with
  | nil => rfl
  | cons log logs ih =>
      rw [between, labelled_cons, List.filter_append, List.filter_map, ← between, ← ih, within,
        List.map_cons, labelled_cons]
      rfl

theorem writable_of_mem_within (writable : ∀ log ∈ logs, log.Writable) {log : Log}
    (member : log ∈ within logs low high) : log.Writable := by
  obtain ⟨whole, among, rfl⟩ := List.mem_map.mp member
  have kept := writable whole among
  exact {
    name_lt := kept.name_lt
    kind_lt := kept.kind_lt
    count_lt := (List.length_filter_le _ _).trans_lt kept.count_lt
    entries := fun entry member => kept.entries entry (List.mem_filter.mp member).1 }

/-- Below an index that no entry reaches lie all entries. -/
theorem between_eq_labelled (short : ∀ item ∈ labelled logs, item.2.index < high) :
    between logs 0 high = labelled logs := by
  rw [between, List.filter_eq_self]
  intro item member
  simpa using short item member

end Log

open Log (between labelled)

namespace LogReader

/-- The entries of logs from an index on up to the one that the page names, while there are some one at
least. -/
structure Pages (stored : List Log) (minimum : Nat) (page : LogPage) : Prop where
  entries : page.labelled.Perm (between stored minimum page.nextIndex)
  moves : (∃ item ∈ labelled stored, minimum ≤ item.2.index) →
    minimum < page.nextIndex ∧ page.labelled ≠ []

/-- A device that answers every request for a page of logs with one. -/
def Serves (scheme : Scheme) (name : Option String) (stored : List Log)
    (device : List Bytes → Except Error Response) : Prop :=
  ∀ (sent : List Bytes) (seq : UInt8) (index : Option Nat) (packet : Bytes),
    (∀ minimum ∈ index, minimum < 2 ^ 64) →
    (Command.logPage name index).packet scheme seq = .ok packet →
    ∃ page, (Command.logPage name index).conclude scheme packet (device (sent ++ [packet])) =
        .ok page ∧ Pages stored (index.getD 0) page

/-- What was sent to a device, the pages that came back, and the index that the last of them names. -/
inductive Paged (scheme : Scheme) (name : Option String)
    (device : List Bytes → Except Error Response) :
    List Bytes → List LogPage → Option Nat → Prop
  | start : Paged scheme name device [] [] none
  | page {sent : List Bytes} {pages : List LogPage} {index : Option Nat} {seq : UInt8}
      {packet : Bytes} {page : LogPage} (earlier : Paged scheme name device sent pages index)
      (asked : (Command.logPage name index).packet scheme seq = .ok packet)
      (answered : (Command.logPage name index).conclude scheme packet (device (sent ++ [packet])) =
        .ok page) :
      Paged scheme name device (sent ++ [packet]) (pages ++ [page]) (some page.nextIndex)

theorem Paged.length_eq {scheme : Scheme} {name : Option String}
    {device : List Bytes → Except Error Response} {sent : List Bytes} {pages : List LogPage}
    {index : Option Nat} (paged : Paged scheme name device sent pages index) :
    sent.length = pages.length := by
  induction paged with
  | start => rfl
  | page _ _ _ ih => rw [List.length_append, List.length_append, ih, List.length_singleton,
      List.length_singleton]

/-- Before each request the entries below the index that is asked for have been read, one at least for
each page. -/
structure OnCourse (stored : List Log) (pages : List LogPage) (index : Option Nat) : Prop where
  fits : ∀ minimum ∈ index, minimum < 2 ^ 64
  read : (pages.flatMap LogPage.labelled).Perm (between stored 0 (index.getD 0))
  frugal : pages.length ≤ (pages.flatMap LogPage.labelled).length

variable {scheme : Scheme} {name : Option String} {stored : List Log}
  {device : List Bytes → Except Error Response} {pages : List LogPage} {index : Option Nat}
  {page : LogPage}

theorem OnCourse.start (stored : List Log) : OnCourse stored [] none := by
  refine ⟨by simp, ?_, Nat.zero_le _⟩
  have none_below : between stored 0 0 = [] := by simp [between]
  rw [Option.getD_none, none_below]
  exact List.Perm.refl _

theorem OnCourse.next (course : OnCourse stored pages index)
    (answer : Pages stored (index.getD 0) page) (fits : page.nextIndex < 2 ^ 64)
    (moved : index.getD 0 < page.nextIndex) (present : page.labelled ≠ []) :
    OnCourse stored (pages ++ [page]) (some page.nextIndex) := by
  refine ⟨by simpa using fits, ?_, ?_⟩
  · rw [List.flatMap_append, List.flatMap_singleton, Option.getD_some]
    exact (course.read.append answer.entries).trans
      (Log.between_append_perm (Nat.zero_le _) moved.le)
  · have one : 1 ≤ page.labelled.length := List.length_pos_iff.mpr present
    rw [List.flatMap_append, List.flatMap_singleton, List.length_append, List.length_append]
    exact Nat.add_le_add course.frugal one

/-- With the page after which there is nothing left all entries have been read. -/
theorem OnCourse.last (course : OnCourse stored pages index)
    (answer : Pages stored (index.getD 0) page)
    (rest : ∀ item ∈ labelled stored, item.2.index < index.getD 0) :
    page.labelled = [] ∧
      ((pages ++ [page]).flatMap LogPage.labelled).Perm (labelled stored) := by
  have nothing : between stored (index.getD 0) page.nextIndex = [] := by
    rw [List.eq_nil_iff_forall_not_mem]
    intro item member
    obtain ⟨among, atLeast, -⟩ := Log.mem_between.mp member
    exact absurd (rest item among) (Nat.not_lt.mpr atLeast)
  have empty : page.labelled = [] := List.Perm.eq_nil (nothing ▸ answer.entries)
  refine ⟨empty, ?_⟩
  rw [List.flatMap_append, List.flatMap_singleton, empty, List.append_nil,
    ← Log.between_eq_labelled rest]
  exact course.read

/-- What is known of a reader that has come to the end. -/
structure Complete (scheme : Scheme) (name : Option String) (stored : List Log)
    (device : List Bytes → Except Error Response) (sent : List Bytes) (pages : List LogPage)
    (logs : List Log) : Prop where
  paged : ∃ index, Paged scheme name device sent pages index
  entries : (labelled logs).Perm (labelled stored)
  distinct : (logs.map Log.name).Nodup
  inOrder : ∀ log, Log.entriesOf log logs = Log.entriesOf log (pages.flatMap LogPage.logs)
  frugal : sent.length ≤ (labelled stored).length + 1

/-- Pages with all entries are all that there is to read. -/
theorem complete_of_paged {sent : List Bytes} (paged : Paged scheme name device sent pages index)
    (whole : (pages.flatMap LogPage.labelled).Perm (labelled stored))
    (frugal : sent.length ≤ (labelled stored).length + 1) :
    Complete scheme name stored device sent pages (collected pages) := by
  have merged := merged_collected pages
  have cameEq : labelled (pages.flatMap LogPage.logs) = pages.flatMap LogPage.labelled :=
    List.flatMap_assoc
  exact {
    paged := ⟨index, paged⟩
    entries := merged.labelled_perm.trans (cameEq ▸ whole)
    distinct := merged.distinct
    inOrder := merged.entriesOf_eq
    frugal }

theorem OnCourse.length_le (course : OnCourse stored pages index) :
    (pages.flatMap LogPage.labelled).length ≤ (labelled stored).length := by
  rw [course.read.length_eq]
  exact List.length_filter_le _ _

/-- A reader on its course comes to the end, whatever is left. -/
theorem ends_of_onCourse (serves : Serves scheme name stored device) {left : Nat}
    {sent : List Bytes} (seq : UInt8) (paged : Paged scheme name device sent pages index)
    (course : OnCourse stored pages index)
    (leftEq : (labelled stored).length - (pages.flatMap LogPage.labelled).length = left) :
    ∃ logs allSent allPages,
      EndsAtOnce machine device (settled (ask scheme name seq (collected pages) index) [] sent [] [])
        (.ok logs) [] allSent ∧ Complete scheme name stored device allSent allPages logs := by
  -- on the entries that are left: every page but the last brings one of them at least
  induction left using Nat.strong_induction_on generalizing sent pages index seq with
  | h left ih =>
      obtain ⟨packet, asked, askEq⟩ := exists_ask scheme name seq (collected pages) index
      obtain ⟨page, answered, answer⟩ := serves sent seq index packet course.fits asked
      have more : Paged scheme name device (sent ++ [packet]) (pages ++ [page])
          (some page.nextIndex) := paged.page asked answered
      have exchanged :
          (settled (waiting scheme name (seq + 1) (collected pages) index packet) [] sent [] []).ComesTo
            machine device
            (settled (machine.feed (.answer (device (sent ++ [packet])))
              (waiting scheme name (seq + 1) (collected pages) index packet)) [] (sent ++ [packet])
              [] []) := comesTo_of_exchange rfl
      rw [askEq]
      by_cases rest : ∀ item ∈ labelled stored, item.2.index < index.getD 0
      case pos =>
        obtain ⟨empty, whole⟩ := course.last answer rest
        rw [feed_waiting_last answered (.inl empty), ← collected_concat] at exchanged
        have frugal : (sent ++ [packet]).length ≤ (labelled stored).length + 1 := by
          rw [List.length_append, List.length_singleton, paged.length_eq]
          exact Nat.succ_le_succ (course.frugal.trans course.length_le)
        exact ⟨collected (pages ++ [page]), sent ++ [packet], pages ++ [page],
          ⟨_, exchanged, rfl, rfl, rfl⟩, complete_of_paged more whole frugal⟩
      case neg =>
        push Not at rest
        obtain ⟨moved, present⟩ := answer.moves rest
        have fits := LogPage.nextIndex_lt_of_conclude answered
        have onward := course.next answer fits moved present
        have elsewhere : index ≠ some page.nextIndex := by
          rintro rfl
          exact lt_irrefl _ moved
        rw [feed_waiting_next answered present elsewhere, ← collected_concat] at exchanged
        have less : (labelled stored).length -
            ((pages ++ [page]).flatMap LogPage.labelled).length < left := by
          have one := List.length_pos_iff.mpr present
          have within := onward.length_le
          rw [List.flatMap_append, List.flatMap_singleton, List.length_append] at within ⊢
          omega
        obtain ⟨logs, allSent, allPages, ⟨finish, comes, ended⟩, complete⟩ :=
          ih _ less (seq + 1) more onward rfl
        exact ⟨logs, allSent, allPages, ⟨finish, exchanged.trans comes, ended⟩, complete⟩

/-! ## Devices that page -/

/-- The index at which a page ends: a number of indexes after the first entry on it, if there is one. -/
def pageEnd (stored : List Log) (minimum further : Nat) : Nat :=
  match (((labelled stored).map fun item => item.2.index).filter (minimum ≤ ·)).min? with
  | some least => min (least + 1 + further) (2 ^ 64 - 1)
  | none => minimum

theorem pageEnd_lt (stored : List Log) {minimum : Nat} (small : minimum < 2 ^ 64) (further : Nat) :
    pageEnd stored minimum further < 2 ^ 64 := by
  rw [pageEnd]
  split
  · exact (Nat.min_le_right _ _).trans_lt (by decide)
  · exact small

/-- On a page there is an entry, if there is one left. -/
theorem exists_lt_pageEnd {minimum : Nat} (further : Nat)
    (small : ∀ item ∈ labelled stored, item.2.index < 2 ^ 64 - 1)
    (rest : ∃ item ∈ labelled stored, minimum ≤ item.2.index) :
    ∃ item ∈ labelled stored, minimum ≤ item.2.index ∧
      item.2.index < pageEnd stored minimum further := by
  rw [pageEnd]
  split
  · rename_i least leastEq
    obtain ⟨member, -⟩ := List.min?_eq_some_iff.mp leastEq
    obtain ⟨among, atLeast⟩ := List.mem_filter.mp member
    obtain ⟨item, stored, rfl⟩ := List.mem_map.mp among
    have fits := small item stored
    exact ⟨item, stored, by simpa using atLeast, by omega⟩
  · rename_i noneLeft
    obtain ⟨item, among, atLeast⟩ := rest
    have member : item.2.index ∈
        ((labelled stored).map fun item => item.2.index).filter (minimum ≤ ·) := by
      rw [List.mem_filter]
      exact ⟨List.mem_map_of_mem among, by simpa using atLeast⟩
    rw [List.min?_eq_none_iff.mp noneLeft] at member
    cases member

/-- The page of stored entries from an index on; how many further indexes it holds depends on what was
sent. -/
def pageFrom (stored : List Log) (further : List Bytes → Nat) (minimum : Nat) (sent : List Bytes) :
    LogPage :=
  let nextIndex := pageEnd stored minimum (further sent)
  { nextIndex, logs := Log.within stored minimum nextIndex }

theorem pages_pageFrom {further : List Bytes → Nat} {minimum : Nat} {sent : List Bytes}
    (small : ∀ item ∈ labelled stored, item.2.index < 2 ^ 64 - 1) :
    Pages stored minimum (pageFrom stored further minimum sent) := by
  have entriesEq : (pageFrom stored further minimum sent).labelled =
      between stored minimum (pageEnd stored minimum (further sent)) :=
    Log.labelled_within stored minimum _
  refine ⟨entriesEq ▸ List.Perm.refl _, fun rest => ?_⟩
  obtain ⟨item, among, atLeast, before⟩ := exists_lt_pageEnd (further sent) small rest
  refine ⟨atLeast.trans_lt before, entriesEq ▸ ?_⟩
  exact List.ne_nil_of_mem (Log.mem_between.mpr ⟨among, atLeast, before⟩)

/-- Every device that pages serves its logs, however many indexes it puts on a page. -/
theorem serves_pageFrom (scheme : Scheme) (further : List Bytes → Nat)
    (name_lt : ∀ log ∈ name, (Bytes.ofText log).length < 2 ^ 64) (count : stored.length < 2 ^ 64)
    (writable : ∀ log ∈ stored, log.Writable)
    (small : ∀ item ∈ labelled stored, item.2.index < 2 ^ 64 - 1) :
    Serves scheme name stored (pagingAnswer scheme (pageFrom stored further)) := by
  intro sent seq index packet index_lt asked
  refine ⟨_, conclude_pagingAnswer name_lt index_lt asked ?_, pages_pageFrom small⟩
  have minimum_lt : index.getD 0 < 2 ^ 64 := by
    cases index with
    | none => decide
    | some minimum => exact index_lt minimum rfl
  exact {
    nextIndex_lt := pageEnd_lt stored minimum_lt _
    count_lt := (List.length_map _).trans_lt count
    logs := fun log member => Log.writable_of_mem_within writable member }

/-- Whatever a device sends at a time, a reader comes to the end with all entries of the device, each
once and under the name of its log, and asks once more than there are entries at most. -/
theorem complete_of_served (serves : Serves scheme name stored device) (seq : UInt8) :
    ∃ logs sent pages,
      EndsAtOnce machine device (settled (start scheme name seq) [] [] [] []) (.ok logs) [] sent ∧
        Complete scheme name stored device sent pages logs :=
  ends_of_onCourse serves seq .start (.start stored) rfl

/-- Two logs of which the entries of one are spread over several pages. -/
theorem complete_of_served_twoLogs :
    let stored : List Log :=
      [{ name := "boot", kind := 1
         entries := [{ content := .text "reset", index := 3 },
           { content := .text "ready", index := 7 }] },
       { name := "crash", entries := [{ content := .text "fault", index := 5 }] }]
    let device := pagingAnswer .coapBle (pageFrom stored fun sent => sent.length % 2)
    Serves .coapBle none stored device ∧
      ∃ logs sent pages,
        EndsAtOnce machine device (settled (start .coapBle none 254) [] [] [] []) (.ok logs) [] sent ∧
          Complete .coapBle none stored device sent pages logs := by
  intro stored device
  have boot : ∀ entry ∈ [({ content := .text "reset", index := 3 } : LogEntry),
      { content := .text "ready", index := 7 }], entry.Writable :=
    List.forall_mem_cons.mpr ⟨.ofText (by decide +kernel) (by decide),
      List.forall_mem_singleton.mpr (.ofText (by decide +kernel) (by decide))⟩
  have crash : ∀ entry ∈ [({ content := .text "fault", index := 5 } : LogEntry)], entry.Writable :=
    List.forall_mem_singleton.mpr (.ofText (by decide +kernel) (by decide))
  have writable : ∀ log ∈ stored, log.Writable :=
    List.forall_mem_cons.mpr ⟨⟨by decide +kernel, by decide, by decide, boot⟩,
      List.forall_mem_singleton.mpr ⟨by decide +kernel, by decide, by decide, crash⟩⟩
  have small : ∀ item ∈ labelled stored, item.2.index < 2 ^ 64 - 1 := by
    simp [stored, labelled]
  have serves : Serves .coapBle none stored device :=
    serves_pageFrom .coapBle _ (by simp) (by simp [stored]) writable small
  exact ⟨serves, complete_of_served serves 254⟩

end LogReader

end SmpClient
