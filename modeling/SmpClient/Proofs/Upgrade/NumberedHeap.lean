import SmpClient.Proofs.Upgrade.WaitingTasks

/-!
# Tasks in a heap

A queue of tasks can also be a heap that numbers the tasks as they come, and takes out the one of the
lowest priority and, among those, of the lowest number.  Such a queue cannot be told from one that keeps
its tasks sorted, as long as there are numbers left.
-/

namespace SmpClient

/-- A heap, which takes out one of the greatest of its items.  Nothing else is known of the order in
which it keeps them. -/
structure MaxHeap (Item : Type) (order : Item → Item → Ordering) where
  Store : Type
  items : Store → List Item
  empty : Store
  push : Item → Store → Store
  pop : Store → Option (Item × Store)
  clear : Store → Store
  items_empty : items empty = []
  items_push : ∀ item store, (items (push item store)).Perm (item :: items store)
  items_of_none : ∀ store, pop store = none → items store = []
  perm_of_some : ∀ store item rest, pop store = some (item, rest) →
    (items store).Perm (item :: items rest)
  isLE_of_some : ∀ store item rest, pop store = some (item, rest) →
    ∀ other ∈ items rest, (order other item).isLE = true
  items_clear : ∀ store, items (clear store) = []

namespace MaxHeap

variable {Item : Type} {order : Item → Item → Ordering}

/-- Takes the greatest item out of a list. -/
def takeGreatest (order : Item → Item → Ordering) : List Item → Option (Item × List Item)
  | [] => none
  | item :: items =>
      match takeGreatest order items with
      | none => some (item, [])
      | some (greatest, rest) =>
          if (order greatest item).isLE then some (item, greatest :: rest)
          else some (greatest, item :: rest)

theorem takeGreatest_eq_none {items : List Item} (notTaken : takeGreatest order items = none) :
    items = [] := by
  cases items with
  | nil => rfl
  | cons item items =>
      rw [takeGreatest] at notTaken
      split at notTaken
      · cases notTaken
      · split at notTaken <;> cases notTaken

theorem takeGreatest_eq_some [Std.TransCmp order] {items rest : List Item} {item : Item}
    (taken : takeGreatest order items = some (item, rest)) :
    items.Perm (item :: rest) ∧ ∀ other ∈ rest, (order other item).isLE = true := by
  induction items generalizing item rest with
  | nil => cases taken
  | cons head items ih =>
      rw [takeGreatest] at taken
      cases found : takeGreatest order items with
      | none =>
          simp only [found, Option.some.injEq, Prod.mk.injEq] at taken
          obtain ⟨rfl, rfl⟩ := taken
          rw [takeGreatest_eq_none found]
          exact ⟨List.Perm.refl _, by simp⟩
      | some pair =>
          obtain ⟨greatest, others⟩ := pair
          obtain ⟨perm, least⟩ := ih found
          simp only [found] at taken
          split at taken
          · rename_i below
            obtain ⟨rfl, rfl⟩ := Prod.mk.inj (Option.some.inj taken)
            refine ⟨perm.cons head, fun other member => ?_⟩
            rcases List.mem_cons.mp member with rfl | later
            · exact below
            · exact Std.TransCmp.isLE_trans (least other later) below
          · rename_i above
            obtain ⟨rfl, rfl⟩ := Prod.mk.inj (Option.some.inj taken)
            refine ⟨(perm.cons head).trans (List.Perm.swap _ _ _), fun other member => ?_⟩
            rcases List.mem_cons.mp member with rfl | later
            · have reverse : order greatest other = .gt := by
                cases compared : order greatest other <;> simp_all
              rw [Std.OrientedCmp.gt_iff_lt.mp reverse]
              rfl
            · exact least other later

/-- A heap that is a list, of which all is looked at when an item is taken out. -/
def scanning (order : Item → Item → Ordering) [Std.TransCmp order] : MaxHeap Item order where
  Store := List Item
  items := id
  empty := []
  push := List.cons
  pop := takeGreatest order
  clear := fun _ => []
  items_empty := rfl
  items_push := fun _ _ => List.Perm.refl _
  items_of_none := fun _ notTaken => takeGreatest_eq_none notTaken
  perm_of_some := fun _ _ _ taken => (takeGreatest_eq_some taken).1
  isLE_of_some := fun _ _ _ taken => (takeGreatest_eq_some taken).2
  items_clear := fun _ => rfl

end MaxHeap

/-- A task with the number that it was given when it came. -/
structure NumberedTask where
  priority : Nat
  number : UInt64
  task : Task

namespace NumberedTask

/-- A task that comes when a number is the next. -/
def ofTask (number : UInt64) (task : Task) : NumberedTask :=
  { priority := task.priority, number, task }

/-- Of two tasks the one that comes first is the greater one. -/
def order (first second : NumberedTask) : Ordering :=
  compareLex (compareOn priority) (compareOn number) second first

instance : Std.TransCmp order :=
  inferInstanceAs (Std.TransCmp fun first second =>
    compareLex (compareOn priority) (compareOn number) second first)

theorem isLE_order_iff {first second : NumberedTask} :
    (order first second).isLE = true ↔
      second.priority < first.priority ∨
        second.priority = first.priority ∧ second.number ≤ first.number := by
  rw [order, compareLex, Ordering.isLE_then_iff_or, compareOn, compareOn, Nat.compare_eq_lt,
    Nat.compare_eq_eq, Std.LawfulOrderOrd.isLE_compare]

/-- Tasks in the order in which they came, with numbers below a bound. -/
structure InTurn (count : Nat) (entries : List NumberedTask) : Prop where
  priority_eq : ∀ entry ∈ entries, entry.priority = entry.task.priority
  number_lt : ∀ entry ∈ entries, entry.number.toNat < count
  ascending : entries.Pairwise fun first second => first.number < second.number

variable {count : Nat} {entries : List NumberedTask} {entry : NumberedTask}

theorem InTurn.nil : InTurn count [] :=
  ⟨by simp, by simp, List.Pairwise.nil⟩

theorem InTurn.sublist {fewer : List NumberedTask} (inTurn : InTurn count entries)
    (sublist : fewer.Sublist entries) : InTurn count fewer :=
  ⟨fun entry member => inTurn.priority_eq entry (sublist.subset member),
    fun entry member => inTurn.number_lt entry (sublist.subset member),
    inTurn.ascending.sublist sublist⟩

theorem InTurn.concat (inTurn : InTurn count entries) (few : count < UInt64.size) (task : Task) :
    InTurn (count + 1) (entries ++ [ofTask (UInt64.ofNat count) task]) := by
  have numberEq : (UInt64.ofNat count).toNat = count := UInt64.toNat_ofNat_of_lt' few
  refine ⟨?_, ?_, List.pairwise_append.mpr ⟨inTurn.ascending, List.pairwise_singleton _ _, ?_⟩⟩
  · intro entry member
    rcases List.mem_append.mp member with old | new
    · exact inTurn.priority_eq entry old
    · rw [List.mem_singleton.mp new, ofTask]
  · intro entry member
    rcases List.mem_append.mp member with old | new
    · exact Nat.lt_succ_of_lt (inTurn.number_lt entry old)
    · rw [List.mem_singleton.mp new, ofTask, numberEq]
      exact Nat.lt_succ_self count
  · intro entry member other otherMem
    rw [List.mem_singleton.mp otherMem, ofTask, UInt64.lt_iff_toNat_lt, numberEq]
    exact inTurn.number_lt entry member

/-- The greatest task is more urgent than all that came earlier, and not less than the others. -/
theorem InTurn.urgent {earlier later : List NumberedTask}
    (inTurn : InTurn count (earlier ++ entry :: later))
    (greatest : ∀ other ∈ earlier ++ later, (order other entry).isLE = true) :
    (∀ other ∈ earlier.map task, entry.task.priority < other.priority) ∧
      ∀ other ∈ later.map task, entry.task.priority ≤ other.priority := by
  have priorityEq {other : NumberedTask} (member : other ∈ earlier ++ entry :: later) :
      other.priority = other.task.priority :=
    inTurn.priority_eq other member
  have ranked {other : NumberedTask} (member : other ∈ earlier ++ later) :
      entry.task.priority < other.task.priority ∨
        entry.task.priority = other.task.priority ∧ entry.number ≤ other.number := by
    have whole : other ∈ earlier ++ entry :: later :=
      ((List.sublist_cons_self entry later).append_left earlier).subset member
    rw [← priorityEq whole, ← priorityEq (List.mem_append_right _ List.mem_cons_self)]
    exact isLE_order_iff.mp (greatest other member)
  refine ⟨List.forall_mem_map.mpr fun other member => ?_,
    List.forall_mem_map.mpr fun other member => ?_⟩
  · have older : other.number < entry.number :=
      (List.pairwise_append.mp inTurn.ascending).2.2 other member entry List.mem_cons_self
    rcases ranked (List.mem_append_left later member) with lower | ⟨-, newer⟩
    · exact lower
    · exact absurd older (UInt64.not_lt.mpr newer)
  · rcases ranked (List.mem_append_right earlier member) with lower | ⟨same, -⟩
    · exact Nat.le_of_lt lower
    · exact Nat.le_of_eq same

end NumberedTask

/-- A queue that is a heap of numbered tasks. -/
structure NumberedHeap (heap : MaxHeap NumberedTask NumberedTask.order) where
  store : heap.Store := heap.empty
  /-- The number that the next task gets. -/
  next : UInt64 := 0

namespace NumberedHeap

open NumberedTask (InTurn)
open TaskQueue (IsNext Represents note)

variable {heap : MaxHeap NumberedTask NumberedTask.order}

def push (task : Task) (queue : NumberedHeap heap) : NumberedHeap heap :=
  { store := heap.push (.ofTask queue.next task) queue.store, next := queue.next + 1 }

def pop (queue : NumberedHeap heap) : Option Task × NumberedHeap heap :=
  match heap.pop queue.store with
  | some (entry, store) => (some entry.task, { queue with store })
  | none => (none, queue)

/-- Numbers go on after a clear. -/
def clear (queue : NumberedHeap heap) : NumberedHeap heap :=
  { queue with store := heap.clear queue.store }

def operations (heap : MaxHeap NumberedTask NumberedTask.order) :
    TaskQueue.Operations (NumberedHeap heap) where
  push := push
  pop := pop
  clear := clear

def tasks (queue : NumberedHeap heap) : List Task :=
  (heap.items queue.store).map NumberedTask.task

/-- The heap holds the tasks that wait, and their numbers rise in the order in which they came. -/
structure Holds (count : Nat) (waiting : List Task) (queue : NumberedHeap heap) : Prop where
  next_eq : queue.next = UInt64.ofNat count
  exists_entries : ∃ entries, InTurn count entries ∧ entries.map NumberedTask.task = waiting ∧
    (heap.items queue.store).Perm entries

theorem Holds.new : Holds 0 [] ({} : NumberedHeap heap) :=
  ⟨rfl, [], InTurn.nil, rfl, by rw [heap.items_empty]⟩

theorem Holds.perm {count : Nat} {waiting : List Task} {queue : NumberedHeap heap}
    (holds : Holds count waiting queue) : queue.tasks.Perm waiting := by
  obtain ⟨entries, -, rfl, perm⟩ := holds.exists_entries
  exact perm.map _

theorem represents (heap : MaxHeap NumberedTask NumberedTask.order) :
    Represents (operations heap) UInt64.size Holds where
  push := by
    intro count waiting queue task holds few
    obtain ⟨nextEq, entries, inTurn, rfl, perm⟩ := holds
    have inTurn := inTurn.concat few task
    rw [← nextEq] at inTurn
    refine ⟨?_, entries ++ [.ofTask queue.next task], inTurn, by simp [NumberedTask.ofTask], ?_⟩
    · change queue.next + 1 = _
      rw [nextEq, UInt64.ofNat_add]
      rfl
    · have pushed := (heap.items_push (.ofTask queue.next task) queue.store).trans (perm.cons _)
      exact pushed.trans (List.perm_append_singleton _ entries).symm
  pop := by
    intro count waiting queue holds
    obtain ⟨nextEq, entries, inTurn, rfl, perm⟩ := holds
    change IsNext _ queue.pop.1 ∧ Holds count (note _ (.popped queue.pop.1)) queue.pop.2
    rw [pop]
    cases popEq : heap.pop queue.store with
    | none =>
        have empty : entries = [] := (heap.items_of_none _ popEq ▸ perm).nil_eq.symm
        subst empty
        exact ⟨rfl, nextEq, [], inTurn, rfl, perm⟩
    | some popped =>
        obtain ⟨entry, store⟩ := popped
        have taken := heap.perm_of_some _ _ _ popEq
        have greatest := heap.isLE_of_some _ _ _ popEq
        obtain ⟨earlier, later, rfl⟩ :=
          List.append_of_mem (perm.mem_iff.mp (taken.mem_iff.mpr List.mem_cons_self))
        have restPerm : (heap.items store).Perm (earlier ++ later) :=
          (taken.symm.trans (perm.trans List.perm_middle)).cons_inv
        have fewer : (earlier ++ later).Sublist (earlier ++ entry :: later) :=
          (List.sublist_cons_self entry later).append_left earlier
        obtain ⟨before, behind⟩ :=
          inTurn.urgent fun other member => greatest other (restPerm.mem_iff.mpr member)
        rw [List.map_append, List.map_cons]
        refine ⟨⟨_, _, rfl, before, behind⟩, nextEq, earlier ++ later, inTurn.sublist fewer, ?_,
          restPerm⟩
        rw [List.map_append]
        exact (TaskQueue.erase_of_urgent before _).symm
  clear := by
    intro count waiting queue holds
    refine ⟨holds.next_eq, [], InTurn.nil, rfl, ?_⟩
    change (heap.items (heap.clear queue.store)).Perm []
    rw [heap.items_clear]

end NumberedHeap

namespace TaskQueue

/-- Whatever is pushed, popped and cleared in whatever order, a pop answers with the most urgent of the
tasks that were pushed since the last clear and not popped yet, and of equally urgent ones with the one
pushed first; no task is lost, popped twice or popped after a clear.  A heap of numbered tasks answers
in the same way, whatever the heap, as long as there are numbers left. -/
theorem serves_in_order (calls : List Call) :
    Orderly calls (operations.history calls {}) (operations.after calls {}).tasks ∧
      ∀ heap : MaxHeap NumberedTask NumberedTask.order, pushes calls < UInt64.size →
        (NumberedHeap.operations heap).history calls {} = operations.history calls {} ∧
          ((NumberedHeap.operations heap).after calls {}).tasks.Perm
            (operations.after calls {}).tasks := by
  have fresh : ({} : TaskQueue).tasks = Task.byPriority [] := Task.byPriority_nil.symm
  obtain ⟨serves, tasksEq⟩ :=
    (represents_byPriority (pushes calls)).run fresh calls (Nat.le_refl _)
  have held : (operations.after calls {}).tasks.Perm (waiting (operations.history calls {})) :=
    tasksEq ▸ Task.perm_byPriority _
  refine ⟨⟨operations.map_call_history calls {}, serves, held, ?_⟩, fun heap few => ?_⟩
  · exact serves.accounted.trans (held.symm.append_left _)
  · obtain ⟨heapServes, heapHolds⟩ :=
      (NumberedHeap.represents heap).run NumberedHeap.Holds.new calls (Nat.le_of_lt few)
    have same : (NumberedHeap.operations heap).history calls {} = operations.history calls {} :=
      heapServes.unique serves (by rw [Operations.map_call_history, Operations.map_call_history])
    exact ⟨same, (same ▸ heapHolds.perm).trans held.symm⟩

/-- An image for one of two cores. -/
def coreImage (index : Nat) : TargetImage :=
  { index, slot := secondarySlot, data := [1], hash := [7] }

/-- Equally urgent tasks that are pushed before and after pops, and a clear with a task left. -/
def interleavedCalls : List Call :=
  [.push .reset, .push (.upload (coreImage 0)), .push (.test (coreImage 0)),
    .push (.upload (coreImage 1)), .pop, .push (.validate 1), .push (.upload (coreImage 0)),
    .pop, .pop, .pop, .clear, .pop, .push (.confirm (coreImage 1)), .push .eraseStorage, .pop]

theorem serves_in_order_interleaved :
    pushes interleavedCalls < UInt64.size ∧
      let history : List Event :=
        [.pushed .reset, .pushed (.upload (coreImage 0)), .pushed (.test (coreImage 0)),
          .pushed (.upload (coreImage 1)), .popped (some (.upload (coreImage 0))),
          .pushed (.validate 1), .pushed (.upload (coreImage 0)), .popped (some (.validate 1)),
          .popped (some (.upload (coreImage 1))), .popped (some (.upload (coreImage 0))), .cleared,
          .popped none, .pushed (.confirm (coreImage 1)), .pushed .eraseStorage,
          .popped (some (.confirm (coreImage 1)))]
      Orderly interleavedCalls history [.eraseStorage] ∧
        (NumberedHeap.operations (.scanning NumberedTask.order)).history interleavedCalls {} =
          history := by
  have few : pushes interleavedCalls < UInt64.size := by decide
  obtain ⟨orderly, heaps⟩ := serves_in_order interleavedCalls
  exact ⟨few, orderly, (heaps _ few).1⟩

end TaskQueue

end SmpClient
