import Mathlib.Data.List.Basic
import SmpClient.Upgrade.Task

/-!
# The order of tasks

Tasks that are pushed one after the other leave their queue sorted by priority, and those of one
priority in the order in which they came.  Only one list is sorted in this way.
-/

namespace SmpClient

namespace Task

/-- Whether a task need not wait for another one. -/
def isBefore (first second : Task) : Bool :=
  first.priority ≤ second.priority

/-- Tasks in the order of their priority; those of one priority keep their order. -/
def byPriority (tasks : List Task) : List Task :=
  tasks.mergeSort isBefore

@[simp]
theorem byPriority_nil : byPriority [] = [] :=
  List.mergeSort_nil

theorem isBefore_iff {first second : Task} :
    isBefore first second = true ↔ first.priority ≤ second.priority := by
  simp [isBefore]

theorem isBefore_trans (first second third : Task) (left : isBefore first second = true)
    (right : isBefore second third = true) : isBefore first third = true := by
  rw [isBefore_iff] at *
  exact Nat.le_trans left right

theorem isBefore_total (first second : Task) :
    (isBefore first second || isBefore second first) = true := by
  rw [Bool.or_eq_true, isBefore_iff, isBefore_iff]
  exact Nat.le_total _ _

/-- Tasks none of which is more urgent than one before it. -/
def Sorted (tasks : List Task) : Prop :=
  tasks.Pairwise fun first second => first.priority ≤ second.priority

variable {tasks first second : List Task}

theorem perm_byPriority (tasks : List Task) : (byPriority tasks).Perm tasks :=
  List.mergeSort_perm tasks isBefore

theorem sorted_byPriority (tasks : List Task) : Sorted (byPriority tasks) := by
  have ordered := List.pairwise_mergeSort isBefore_trans isBefore_total tasks
  exact ordered.imp isBefore_iff.mp

/-- The tasks of a priority. -/
def ofPriority (priority : Nat) (tasks : List Task) : List Task :=
  tasks.filter fun task => task.priority = priority

theorem ofPriority_byPriority (priority : Nat) (tasks : List Task) :
    ofPriority priority (byPriority tasks) = ofPriority priority tasks := by
  have equal : (ofPriority priority tasks).Pairwise fun first second =>
      isBefore first second = true := by
    refine List.Pairwise.imp_of_mem (fun firstMem secondMem _ => ?_)
      (List.pairwise_of_forall fun _ _ => trivial)
    simp only [ofPriority, List.mem_filter, decide_eq_true_eq] at firstMem secondMem
    rw [isBefore_iff]
    exact Nat.le_of_eq (firstMem.2.trans secondMem.2.symm)
  have kept : (ofPriority priority tasks).Sublist (byPriority tasks) :=
    List.sublist_mergeSort isBefore_trans isBefore_total equal List.filter_sublist
  have among : (ofPriority priority tasks).Sublist (ofPriority priority (byPriority tasks)) := by
    have filtered := kept.filter fun task => task.priority = priority
    simpa [ofPriority] using filtered
  have lengthEq : (ofPriority priority (byPriority tasks)).length =
      (ofPriority priority tasks).length :=
    ((perm_byPriority tasks).filter _).length_eq
  exact (among.eq_of_length lengthEq.symm).symm

theorem ofPriority_erase (priority : Nat) (task : Task) (tasks : List Task) :
    ofPriority priority (tasks.erase task) = (ofPriority priority tasks).erase task :=
  List.erase_filter.symm

theorem priority_le_head {task : Task} {rest : List Task} (sorted : Sorted (task :: rest))
    {other : Task} (member : other ∈ task :: rest) : task.priority ≤ other.priority := by
  rcases List.mem_cons.mp member with rfl | later
  · exact Nat.le_refl _
  · exact List.rel_of_pairwise_cons sorted later

/-- What is more urgent than a task comes before it. -/
theorem count_of_byPriority {performed rest found : List Task} {task other : Task}
    (order : performed ++ task :: rest = byPriority found) (urgent : other.priority < task.priority) :
    performed.count other = found.count other := by
  have sorted := sorted_byPriority found
  rw [← order] at sorted
  have later : other ∉ task :: rest := by
    intro member
    have bound := priority_le_head (List.pairwise_append.mp sorted).2.1 member
    omega
  rw [← (perm_byPriority found).count_eq other, ← order, List.count_append,
    List.count_eq_zero.mpr later, Nat.add_zero]

theorem mem_of_ofPriority (same : ∀ priority, ofPriority priority first = ofPriority priority second)
    {task : Task} (member : task ∈ first) : task ∈ second := by
  have found : task ∈ ofPriority task.priority first := by simp [ofPriority, member]
  rw [same] at found
  exact List.mem_of_mem_filter found

/-- Lists that are sorted and agree on every priority are equal. -/
theorem eq_of_ofPriority (sortedFirst : Sorted first) (sortedSecond : Sorted second)
    (same : ∀ priority, ofPriority priority first = ofPriority priority second) :
    first = second := by
  induction first generalizing second with
  | nil =>
      symm
      rw [List.eq_nil_iff_forall_not_mem]
      intro task member
      exact List.not_mem_nil (mem_of_ofPriority (fun priority => (same priority).symm) member)
  | cons task first ih =>
      have member : task ∈ second := mem_of_ofPriority same List.mem_cons_self
      cases second with
      | nil => exact absurd member List.not_mem_nil
      | cons other second =>
          have back : other ∈ task :: first :=
            mem_of_ofPriority (fun priority => (same priority).symm) List.mem_cons_self
          have priorityEq : other.priority = task.priority :=
            Nat.le_antisymm (priority_le_head sortedSecond member) (priority_le_head sortedFirst back)
          have heads := same task.priority
          simp only [ofPriority, List.filter_cons, decide_true, if_true, priorityEq,
            List.cons.injEq] at heads
          obtain ⟨rfl, -⟩ := heads
          have tails (priority : Nat) : ofPriority priority first = ofPriority priority second := by
            have whole := same priority
            by_cases own : task.priority = priority
            · simpa [ofPriority, own] using whole
            · simpa [ofPriority, own] using whole
          rw [ih sortedFirst.of_cons sortedSecond.of_cons tails]

end Task

namespace TaskQueue

open SmpClient.Task

variable {tasks : List Task} {queue : TaskQueue}

theorem mem_insert {task other : Task} :
    other ∈ insert task tasks ↔ other = task ∨ other ∈ tasks := by
  induction tasks with
  | nil => simp [insert]
  | cons first rest ih =>
      rw [insert]
      split
      · exact List.mem_cons
      · rw [List.mem_cons, ih, List.mem_cons]
        exact or_left_comm

theorem sorted_insert (task : Task) (sorted : Sorted tasks) : Sorted (insert task tasks) := by
  induction tasks with
  | nil => exact List.pairwise_singleton _ _
  | cons first rest ih =>
      rw [insert]
      split
      · rename_i urgent
        refine List.pairwise_cons.mpr ⟨fun other member => ?_, sorted⟩
        exact Nat.le_trans (Nat.le_of_lt urgent) (priority_le_head sorted member)
      · rename_i patient
        refine List.pairwise_cons.mpr ⟨fun other member => ?_, ih sorted.of_cons⟩
        rcases mem_insert.mp member with rfl | later
        · exact Nat.le_of_not_lt patient
        · exact List.rel_of_pairwise_cons sorted later

/-- A task comes behind all of its priority. -/
theorem ofPriority_insert (task : Task) (sorted : Sorted tasks) (priority : Nat) :
    ofPriority priority (insert task tasks) =
      ofPriority priority tasks ++ ofPriority priority [task] := by
  induction tasks with
  | nil => rfl
  | cons first rest ih =>
      rw [insert]
      split
      · rename_i urgent
        by_cases own : task.priority = priority
        · have others : ofPriority priority (first :: rest) = [] := by
            rw [ofPriority, List.filter_eq_nil_iff]
            intro other member
            have later := priority_le_head sorted member
            simp only [decide_eq_true_eq]
            omega
          rw [others, List.nil_append]
          change ofPriority priority ([task] ++ (first :: rest)) = _
          rw [ofPriority, List.filter_append]
          change ofPriority priority [task] ++ ofPriority priority (first :: rest) = _
          rw [others, List.append_nil]
        · simp [ofPriority, own]
      · simp only [ofPriority, List.filter_cons] at ih ⊢
        rw [ih sorted.of_cons]
        split <;> rfl

theorem insert_byPriority (task : Task) (tasks : List Task) :
    insert task (byPriority tasks) = byPriority (tasks ++ [task]) := by
  have sorted := sorted_byPriority tasks
  refine eq_of_ofPriority (sorted_insert task sorted) (sorted_byPriority _) fun priority => ?_
  rw [ofPriority_insert task sorted, ofPriority_byPriority, ofPriority_byPriority, ofPriority,
    ofPriority, ofPriority, List.filter_append]

/-- What is pushed comes behind all of its priority that was pushed before. -/
theorem tasks_pushAll_of_byPriority {pushed : List Task} (held : queue.tasks = byPriority pushed)
    (found : List Task) : (queue.pushAll found).tasks = byPriority (pushed ++ found) := by
  induction found generalizing queue pushed with
  | nil => rw [List.append_nil, ← held, pushAll, List.foldl_nil]
  | cons task found ih =>
      have next : (queue.push task).tasks = byPriority (pushed ++ [task]) := by
        rw [push, held, insert_byPriority]
      have rest := ih next
      rwa [List.append_assoc] at rest

/-- What is pushed on an empty queue is sorted by priority. -/
theorem tasks_pushAll (found : List Task) :
    (TaskQueue.pushAll found {}).tasks = byPriority found := by
  have empty : ({} : TaskQueue).tasks = byPriority [] := byPriority_nil.symm
  exact tasks_pushAll_of_byPriority empty found

end TaskQueue

end SmpClient
