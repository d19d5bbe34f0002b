import SmpClient.Command.LogReader
import SmpClient.Proofs.Packet.PacketLength
import Mathlib.Data.List.Induction
import Mathlib.Data.List.Nodup
import Mathlib.Data.List.Perm.Basic

/-!
# Logs that come in pages

Pages are merged log by log.  However often a log comes, on one page or on several, it is there once in
the end, with all of its entries in the order in which they came.  A page is the last one if it brings
nothing or names the index that was asked for; after every other page the reader asks for the one that
starts at the index that it names.
-/

namespace SmpClient

/-- The entries of logs, each with the name of its log. -/
def Log.labelled (logs : List Log) : List (String × LogEntry) :=
  logs.flatMap fun log => log.entries.map fun entry => (log.name, entry)

/-- The entries of logs of one name. -/
def Log.entriesOf (name : String) (logs : List Log) : List LogEntry :=
  (logs.filter (·.name = name)).flatMap Log.entries

namespace Log

@[simp]
theorem labelled_nil : labelled [] = [] :=
  rfl

theorem labelled_cons (log : Log) (logs : List Log) :
    labelled (log :: logs) = log.entries.map (fun entry => (log.name, entry)) ++ labelled logs :=
  List.flatMap_cons

theorem labelled_append (first second : List Log) :
    labelled (first ++ second) = labelled first ++ labelled second :=
  List.flatMap_append

@[simp]
theorem entriesOf_nil (name : String) : entriesOf name [] = [] :=
  rfl

theorem entriesOf_cons (name : String) (log : Log) (logs : List Log) :
    entriesOf name (log :: logs) =
      (if log.name = name then log.entries else []) ++ entriesOf name logs := by
  by_cases same : log.name = name <;> simp [entriesOf, same]

theorem entriesOf_append (name : String) (first second : List Log) :
    entriesOf name (first ++ second) = entriesOf name first ++ entriesOf name second := by
  rw [entriesOf, List.filter_append, List.flatMap_append, entriesOf, entriesOf]

theorem entriesOf_of_notMem {name : String} {logs : List Log}
    (absent : name ∉ logs.map Log.name) : entriesOf name logs = [] := by
  have filtered : logs.filter (·.name = name) = [] := by
    rw [List.filter_eq_nil_iff]
    intro log member same
    exact absent (List.mem_map.mpr ⟨log, member, by simpa using same⟩)
  rw [entriesOf, filtered, List.flatMap_nil]

end Log

/-- The entries of a page, each with the name of its log. -/
def LogPage.labelled (page : LogPage) : List (String × LogEntry) :=
  Log.labelled page.logs

theorem LogPage.entryCount_eq (page : LogPage) : page.entryCount = page.labelled.length := by
  have counted (logs : List Log) (count : Nat) :
      logs.foldl (fun count log => count + log.entries.length) count =
        count + (Log.labelled logs).length := by
    induction logs generalizing count with
    | nil => rfl
    | cons log logs ih =>
        rw [List.foldl_cons, ih, Log.labelled_cons, List.length_append, List.length_map,
          Nat.add_assoc]
  exact (counted page.logs 0).trans (Nat.zero_add _)

namespace LogReader

open Log (entriesOf entriesOf_append entriesOf_cons entriesOf_nil entriesOf_of_notMem labelled
  labelled_append labelled_cons labelled_nil)

/-- The logs that are read from pages. -/
def collected (pages : List LogPage) : List Log :=
  pages.foldl merge []

theorem collected_concat (pages : List LogPage) (page : LogPage) :
    collected (pages ++ [page]) = merge (collected pages) page :=
  List.foldl_concat ..

/-! ## One log more -/

theorem names_mergeLog (log : Log) (logs : List Log) :
    (mergeLog log logs).map Log.name =
      if log.name ∈ logs.map Log.name then logs.map Log.name
      else logs.map Log.name ++ [log.name] := by
  induction logs with
  | nil => rfl
  | cons present rest ih =>
      rw [mergeLog]
      by_cases same : present.name = log.name
      · simp [same]
      · rw [if_neg same, List.map_cons, ih]
        by_cases member : log.name ∈ rest.map Log.name
        · simp [member]
        · simp [member, Ne.symm same]

theorem nodup_names_mergeLog (log : Log) {logs : List Log} (distinct : (logs.map Log.name).Nodup) :
    ((mergeLog log logs).map Log.name).Nodup := by
  rw [names_mergeLog]
  split
  · exact distinct
  · rename_i fresh
    exact List.nodup_append.mpr ⟨distinct, List.nodup_singleton _, by simpa using fresh⟩

theorem labelled_mergeLog_perm (log : Log) (logs : List Log) :
    (labelled (mergeLog log logs)).Perm (labelled (logs ++ [log])) := by
  induction logs with
  | nil => exact List.Perm.refl _
  | cons present rest ih =>
      rw [mergeLog]
      by_cases same : present.name = log.name
      · rw [if_pos same, List.cons_append, labelled_cons, labelled_cons, labelled_append,
          labelled_cons, labelled_nil, List.append_nil, List.map_append, List.append_assoc, same]
        exact List.perm_append_comm.append_left _
      · rw [if_neg same, List.cons_append, labelled_cons, labelled_cons]
        exact ih.append_left _

theorem entriesOf_mergeLog (name : String) (log : Log) {logs : List Log}
    (distinct : (logs.map Log.name).Nodup) :
    entriesOf name (mergeLog log logs) = entriesOf name (logs ++ [log]) := by
  induction logs with
  | nil => rfl
  | cons present rest ih =>
      obtain ⟨fresh, distinct⟩ := List.nodup_cons.mp distinct
      rw [mergeLog]
      by_cases same : present.name = log.name
      · rw [if_pos same, List.cons_append, entriesOf_cons, entriesOf_cons, entriesOf_append,
          entriesOf_cons, entriesOf_nil, List.append_nil]
        by_cases named : present.name = name
        · -- no other log has the name, so the entries of this one come last as well
          rw [entriesOf_of_notMem (named ▸ fresh), if_pos named, if_pos named,
            if_pos (same.symm.trans named), List.append_nil, List.nil_append]
        · rw [if_neg named, if_neg named, if_neg fun also => named (same.trans also),
            List.append_nil]
      · rw [if_neg same, List.cons_append, entriesOf_cons, entriesOf_cons, ih distinct]

/-! ## Pages -/

/-- Logs that hold all that came: each is there once, and it has the entries that came under its name,
in their order. -/
structure Merged (came logs : List Log) : Prop where
  distinct : (logs.map Log.name).Nodup
  entriesOf_eq : ∀ name, entriesOf name logs = entriesOf name came
  labelled_perm : (labelled logs).Perm (labelled came)

theorem Merged.mergeLog {came logs : List Log} (merged : Merged came logs) (log : Log) :
    Merged (came ++ [log]) (mergeLog log logs) := by
  refine ⟨nodup_names_mergeLog log merged.distinct, fun name => ?_, ?_⟩
  · rw [entriesOf_mergeLog name log merged.distinct, entriesOf_append, merged.entriesOf_eq,
      entriesOf_append]
  · refine (labelled_mergeLog_perm log logs).trans ?_
    rw [labelled_append, labelled_append]
    exact merged.labelled_perm.append_right _

theorem Merged.merge {came logs : List Log} (merged : Merged came logs) (page : LogPage) :
    Merged (came ++ page.logs) (merge logs page) := by
  rw [LogReader.merge]
  generalize page.logs = more
  induction more using List.reverseRecOn with
  | nil => rwa [List.append_nil]
  | append_singleton more log ih =>
      rw [List.foldl_concat, ← List.append_assoc]
      exact ih.mergeLog log

theorem merged_collected (pages : List LogPage) :
    Merged (pages.flatMap LogPage.logs) (collected pages) := by
  induction pages using List.reverseRecOn with
  | nil => exact ⟨List.nodup_nil, fun _ => rfl, List.Perm.refl _⟩
  | append_singleton pages page ih =>
      rw [collected_concat, List.flatMap_append, List.flatMap_singleton]
      exact ih.merge page

/-! ## Taking in an answer -/

/-- A reader that has asked for the page from an index on. -/
def waiting (scheme : Scheme) (name : Option String) (seq : UInt8) (logs : List Log)
    (index : Option Nat) (packet : Bytes) : LogReader :=
  { scheme, name, seq, logs, index, phase := .asking (Command.logPage name index) scheme packet }

theorem exists_ask (scheme : Scheme) (name : Option String) (seq : UInt8) (logs : List Log)
    (index : Option Nat) :
    ∃ packet, (Command.logPage name index).packet scheme seq = .ok packet ∧
      ask scheme name seq logs index = waiting scheme name (seq + 1) logs index packet := by
  obtain ⟨packet, built⟩ : ∃ packet, (Command.logPage name index).packet scheme seq = .ok packet :=
    Packet.exists_build ..
  exact ⟨packet, built, by simp [ask, Command.start, built, waiting]⟩

theorem isLast_iff (reader : LogReader) (page : LogPage) :
    reader.isLast page = true ↔ page.labelled = [] ∨ reader.index = some page.nextIndex := by
  simp [isLast, page.entryCount_eq]

section

variable {scheme : Scheme} {name : Option String} {seq : UInt8} {logs : List Log}
  {index : Option Nat} {packet : Bytes} {outcome : Except Error Response} {page : LogPage}

theorem feed_waiting
    (concluded : (Command.logPage name index).conclude scheme packet outcome = .ok page) :
    machine.feed (.answer outcome) (waiting scheme name seq logs index packet) =
      (waiting scheme name seq logs index packet).advance page := by
  simp only [machine, feed, waiting, concluded]

theorem feed_waiting_last
    (concluded : (Command.logPage name index).conclude scheme packet outcome = .ok page)
    (last : page.labelled = [] ∨ index = some page.nextIndex) :
    machine.feed (.answer outcome) (waiting scheme name seq logs index packet) =
      { waiting scheme name seq (merge logs page) index packet with phase := .done (.ok page) } := by
  have ends : (waiting scheme name seq logs index packet).isLast page = true :=
    (isLast_iff _ page).mpr last
  rw [feed_waiting concluded, advance, if_pos ends]
  rfl

theorem feed_waiting_next
    (concluded : (Command.logPage name index).conclude scheme packet outcome = .ok page)
    (present : page.labelled ≠ []) (moved : index ≠ some page.nextIndex) :
    machine.feed (.answer outcome) (waiting scheme name seq logs index packet) =
      ask scheme name seq (merge logs page) (some page.nextIndex) := by
  have goesOn : ¬ (waiting scheme name seq logs index packet).isLast page = true :=
    fun ends => ((isLast_iff _ page).mp ends).elim present moved
  rw [feed_waiting concluded, advance, if_neg goesOn]
  rfl

theorem feed_waiting_failed {failure : Error}
    (concluded : (Command.logPage name index).conclude scheme packet outcome = .error failure) :
    machine.feed (.answer outcome) (waiting scheme name seq logs index packet) =
      { waiting scheme name seq logs index packet with phase := .done (.error failure) } := by
  simp only [machine, feed, waiting, concluded]

end

end LogReader

end SmpClient
