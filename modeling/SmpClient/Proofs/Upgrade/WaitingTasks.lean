import Mathlib.Data.List.Induction
import SmpClient.Proofs.Upgrade.TaskOrder

/-!
# Which task is next

What a queue of tasks has to answer is told by the calls on it and their answers alone: a pop answers
with the most urgent of the tasks that wait, and of equally urgent ones with the one pushed first.  These
answers are unique, so that two queues that give them cannot be told apart, whatever they keep their
tasks in.
-/

namespace SmpClient

namespace TaskQueue

/-- A call on a queue. -/
inductive Call
  | push (task : Task)
  | pop
  | clear
  deriving DecidableEq

/-- A call that was made, with the answer to it. -/
inductive Event
  | pushed (task : Task)
  | popped (answer : Option Task)
  | cleared
  deriving DecidableEq

namespace Event

def call : Event → Call
  | .pushed task => .push task
  | .popped _ => .pop
  | .cleared => .clear

def pushed? : Event → Option Task
  | .pushed task => some task
  | _ => none

def popped? : Event → Option Task
  | .popped answer => answer
  | _ => none

/-- Only the answer to a pop is not told by the call. -/
theorem eq_of_call_eq {first second : Event} (same : first.call = second.call)
    (answers : ∀ answer other, first = .popped answer → second = .popped other → answer = other) :
    first = second := by
  cases first with
  | pushed task =>
      cases second with
      | pushed other => exact congrArg pushed (Call.push.inj same)
      | _ => cases same
  | popped answer =>
      cases second with
      | popped other => exact congrArg popped (answers answer other rfl rfl)
      | _ => cases same
  | cleared =>
      cases second with
      | cleared => rfl
      | _ => cases same

end Event

/-- The tasks that wait after an event. -/
def note (tasks : List Task) : Event → List Task
  | .pushed task => tasks ++ [task]
  | .popped none => tasks
  | .popped (some task) => tasks.erase task
  | .cleared => []

/-- The tasks pushed since the last clear and not popped yet, in the order in which they were pushed. -/
def waiting (history : List Event) : List Task :=
  history.foldl note []

/-- The events since the last clear. -/
def sinceClear (history : List Event) : List Event :=
  history.foldl (fun recent event => if event = .cleared then [] else recent ++ [event]) []

/-- Whether an answer is the task that is due: the most urgent one, and among equally urgent ones the
first. -/
def IsNext (tasks : List Task) : Option Task → Prop
  | none => tasks = []
  | some task => ∃ earlier later, tasks = earlier ++ task :: later ∧
      (∀ other ∈ earlier, task.priority < other.priority) ∧
      ∀ other ∈ later, task.priority ≤ other.priority

/-- Every pop answered with the task that was due. -/
def Serves (history : List Event) : Prop :=
  ∀ earlier answer later, history = earlier ++ .popped answer :: later →
    IsNext (waiting earlier) answer

/-- How a queue behaves that answered calls in this way and holds these tasks now: no pop was answered
wrongly, and what was pushed since the last clear either was popped since then or is held, as often as
it was pushed. -/
structure Orderly (calls : List Call) (history : List Event) (held : List Task) : Prop where
  answered : history.map Event.call = calls
  serves : Serves history
  held_perm : held.Perm (waiting history)
  accounted : ((sinceClear history).filterMap Event.pushed?).Perm
    ((sinceClear history).filterMap Event.popped? ++ held)

variable {tasks : List Task} {events : List Event}

@[simp]
theorem waiting_concat (events : List Event) (event : Event) :
    waiting (events ++ [event]) = note (waiting events) event := by
  rw [waiting, List.foldl_append]
  rfl

theorem sinceClear_concat (events : List Event) (event : Event) :
    sinceClear (events ++ [event]) =
      if event = .cleared then [] else sinceClear events ++ [event] := by
  rw [sinceClear, List.foldl_append]
  rfl

/-- A task that is more urgent than all before it is taken from where it stands. -/
theorem erase_of_urgent {earlier : List Task} {task : Task}
    (urgent : ∀ other ∈ earlier, task.priority < other.priority) (later : List Task) :
    (earlier ++ task :: later).erase task = earlier ++ later := by
  have fresh : task ∉ earlier := fun member => Nat.lt_irrefl _ (urgent task member)
  rw [List.erase_append_right _ fresh, List.erase_cons_head]

/-- The task that is due is the first one of its priority, and none is more urgent. -/
theorem isNext_some_iff {task : Task} :
    IsNext tasks (some task) ↔
      (Task.ofPriority task.priority tasks).head? = some task ∧
        ∀ other ∈ tasks, task.priority ≤ other.priority := by
  rw [Task.ofPriority, List.head?_filter, List.find?_eq_some_iff_append]
  constructor
  · rintro ⟨earlier, later, rfl, before, behind⟩
    refine ⟨⟨by simp, earlier, later, rfl, fun other member => ?_⟩, fun other member => ?_⟩
    · have := before other member
      simp only [Bool.not_eq_true', decide_eq_false_iff_not]
      omega
    · rcases List.mem_append.mp member with first | last
      · exact Nat.le_of_lt (before other first)
      · rcases List.mem_cons.mp last with rfl | last
        · exact Nat.le_refl _
        · exact behind other last
  · rintro ⟨⟨-, earlier, later, rfl, others⟩, least⟩
    refine ⟨earlier, later, rfl, fun other member => ?_,
      fun other member => least other (by simp [member])⟩
    have differs := others other member
    simp only [Bool.not_eq_true', decide_eq_false_iff_not] at differs
    exact Nat.lt_of_le_of_ne (least other (by simp [member])) (Ne.symm differs)

theorem IsNext.mem {task : Task} (next : IsNext tasks (some task)) : task ∈ tasks := by
  obtain ⟨earlier, later, rfl, -⟩ := next
  simp

/-- Only one answer is right. -/
theorem IsNext.unique {first second : Option Task} (isFirst : IsNext tasks first)
    (isSecond : IsNext tasks second) : first = second := by
  cases first with
  | none =>
      cases second with
      | none => rfl
      | some task =>
          rw [show tasks = [] from isFirst] at isSecond
          exact absurd isSecond.mem List.not_mem_nil
  | some task =>
      cases second with
      | none =>
          rw [show tasks = [] from isSecond] at isFirst
          exact absurd isFirst.mem List.not_mem_nil
      | some other =>
          obtain ⟨firstHead, firstLeast⟩ := isNext_some_iff.mp isFirst
          obtain ⟨secondHead, secondLeast⟩ := isNext_some_iff.mp isSecond
          have same : task.priority = other.priority :=
            Nat.le_antisymm (firstLeast other isSecond.mem) (secondLeast task isFirst.mem)
          rw [← firstHead, ← secondHead, same]

/-! ## Histories -/

theorem serves_nil : Serves [] := by
  intro earlier answer later split
  simp at split

theorem serves_concat_iff {event : Event} :
    Serves (events ++ [event]) ↔
      Serves events ∧ ∀ answer, event = .popped answer → IsNext (waiting events) answer := by
  constructor
  · intro serves
    refine ⟨fun earlier answer later split => ?_, fun answer popped => ?_⟩
    · exact serves earlier answer (later ++ [event]) (by simp [split])
    · exact serves events answer [] (by simp [popped])
  · rintro ⟨serves, last⟩ earlier answer later split
    induction later using List.reverseRecOn with
    | nil =>
        obtain ⟨rfl, popped⟩ := List.append_inj' split rfl
        exact last answer (List.cons.inj popped).1
    | append_singleton later final _ =>
        rw [← List.cons_append, ← List.append_assoc] at split
        exact serves earlier answer later (List.append_inj' split rfl).1

/-- The answers to calls are determined by what they have to be. -/
theorem Serves.unique {first second : List Event} (firstServes : Serves first)
    (secondServes : Serves second) (same : first.map Event.call = second.map Event.call) :
    first = second := by
  induction first using List.reverseRecOn generalizing second with
  | nil => exact (List.map_eq_nil_iff.mp same.symm).symm
  | append_singleton first event ih =>
      cases second using List.reverseRecOn with
      | nil => simp at same
      | append_singleton second other =>
          rw [List.map_append, List.map_append] at same
          obtain ⟨sameBefore, sameLast⟩ := List.append_inj' same rfl
          obtain ⟨firstServes, firstNext⟩ := serves_concat_iff.mp firstServes
          obtain ⟨secondServes, secondNext⟩ := serves_concat_iff.mp secondServes
          obtain rfl := ih firstServes secondServes sameBefore
          have eventEq : event = other :=
            Event.eq_of_call_eq (List.cons.inj sameLast).1 fun answer otherAnswer popped otherPopped =>
              (firstNext answer popped).unique (secondNext otherAnswer otherPopped)
          rw [eventEq]

/-- What was pushed since the last clear was popped since then or waits. -/
theorem Serves.accounted (serves : Serves events) :
    ((sinceClear events).filterMap Event.pushed?).Perm
      ((sinceClear events).filterMap Event.popped? ++ waiting events) := by
  induction events using List.reverseRecOn with
  | nil => exact List.Perm.refl _
  | append_singleton events event ih =>
      obtain ⟨serves, last⟩ := serves_concat_iff.mp serves
      have before := ih serves
      rw [sinceClear_concat, waiting_concat]
      cases event with
      | cleared => exact List.Perm.refl _
      | pushed task =>
          rw [if_neg (by simp), List.filterMap_append, List.filterMap_append]
          simpa [List.filterMap_cons, Event.pushed?, Event.popped?, note] using
            before.append_right [task]
      | popped answer =>
          rw [if_neg (by simp), List.filterMap_append, List.filterMap_append]
          cases answer with
          | none => simpa [List.filterMap_cons, Event.pushed?, Event.popped?, note] using before
          | some task =>
              have taken := List.perm_cons_erase (last (some task) rfl).mem
              have after := before.trans (taken.append_left _)
              simpa [List.filterMap_cons, Event.pushed?, Event.popped?, note] using after

/-! ## Queues of any kind -/

/-- The calls on a queue, whatever it keeps its tasks in. -/
structure Operations (State : Type) where
  push : Task → State → State
  pop : State → Option Task × State
  clear : State → State

namespace Operations

variable {State : Type} (queue : Operations State)

def perform (state : State) : Call → Event × State
  | .push task => (.pushed task, queue.push task state)
  | .pop => (.popped (queue.pop state).1, (queue.pop state).2)
  | .clear => (.cleared, queue.clear state)

def after (calls : List Call) (state : State) : State :=
  calls.foldl (fun state call => (queue.perform state call).2) state

/-- The calls that are made one after the other, with the answers to them. -/
def history : List Call → State → List Event
  | [], _ => []
  | call :: calls, state => (queue.perform state call).1 :: history calls (queue.perform state call).2

theorem after_concat (calls : List Call) (call : Call) (state : State) :
    queue.after (calls ++ [call]) state = (queue.perform (queue.after calls state) call).2 := by
  rw [after, List.foldl_append]
  rfl

theorem history_concat (calls : List Call) (call : Call) (state : State) :
    queue.history (calls ++ [call]) state =
      queue.history calls state ++ [(queue.perform (queue.after calls state) call).1] := by
  induction calls generalizing state with
  | nil => rfl
  | cons head calls ih =>
      rw [List.cons_append, history, ih]
      rfl

theorem map_call_history (calls : List Call) (state : State) :
    (queue.history calls state).map Event.call = calls := by
  induction calls generalizing state with
  | nil => rfl
  | cons call calls ih =>
      rw [history, List.map_cons, ih]
      cases call <;> rfl

end Operations

def Call.isPush : Call → Bool
  | .push _ => true
  | _ => false

/-- How many tasks are pushed. -/
def pushes (calls : List Call) : Nat :=
  calls.countP Call.isPush

/-- A relation of states to the tasks that wait, in the order in which they were pushed, and to the
number of pushes so far.  Every call keeps it, as long as there are not too many pushes. -/
structure Represents {State : Type} (queue : Operations State) (limit : Nat)
    (holds : Nat → List Task → State → Prop) : Prop where
  push : ∀ {count tasks state} (task : Task), holds count tasks state → count < limit →
    holds (count + 1) (tasks ++ [task]) (queue.push task state)
  pop : ∀ {count tasks state}, holds count tasks state →
    IsNext tasks (queue.pop state).1 ∧
      holds count (note tasks (.popped (queue.pop state).1)) (queue.pop state).2
  clear : ∀ {count tasks state}, holds count tasks state → holds count [] (queue.clear state)

section

variable {State : Type} {queue : Operations State} {limit count : Nat}
  {holds : Nat → List Task → State → Prop} {state : State}

theorem Represents.perform (represents : Represents queue limit holds)
    (before : holds count tasks state) (call : Call) (few : count + pushes [call] ≤ limit) :
    holds (count + pushes [call]) (note tasks (queue.perform state call).1)
      (queue.perform state call).2 := by
  cases call with
  | push task => exact represents.push task before few
  | pop => exact (represents.pop before).2
  | clear => exact represents.clear before

/-- A queue whose states represent the tasks that wait answers rightly, and goes on to represent
them. -/
theorem Represents.run (represents : Represents queue limit holds) (fresh : holds 0 [] state)
    (calls : List Call) (few : pushes calls ≤ limit) :
    Serves (queue.history calls state) ∧
      holds (pushes calls) (waiting (queue.history calls state)) (queue.after calls state) := by
  induction calls using List.reverseRecOn with
  | nil => exact ⟨serves_nil, fresh⟩
  | append_singleton calls call ih =>
      have pushesEq : pushes (calls ++ [call]) = pushes calls + pushes [call] := List.countP_append
      rw [pushesEq] at few ⊢
      obtain ⟨serves, held⟩ := ih (Nat.le_of_add_right_le few)
      rw [queue.history_concat, queue.after_concat, waiting_concat]
      refine ⟨serves_concat_iff.mpr ⟨serves, fun answer popped => ?_⟩,
        represents.perform held call few⟩
      cases call with
      | push task => cases popped
      | clear => cases popped
      | pop =>
          obtain rfl := Event.popped.inj popped
          exact (represents.pop held).1

end

/-! ## The queue that is kept sorted -/

def operations : Operations TaskQueue where
  push := push
  pop := pop
  clear := clear

/-- The head of the sorted tasks is due, and the rest is what remains, sorted. -/
theorem isNext_of_byPriority {task : Task} {rest : List Task}
    (sortedEq : Task.byPriority tasks = task :: rest) :
    IsNext tasks (some task) ∧ rest = Task.byPriority (tasks.erase task) := by
  have perm : (task :: rest).Perm tasks := sortedEq ▸ Task.perm_byPriority tasks
  have sorted : Task.Sorted (task :: rest) := sortedEq ▸ Task.sorted_byPriority tasks
  have same (priority : Nat) :
      Task.ofPriority priority tasks = Task.ofPriority priority (task :: rest) := by
    rw [← sortedEq, Task.ofPriority_byPriority]
  constructor
  · refine isNext_some_iff.mpr ⟨?_, fun other member => ?_⟩
    · rw [same]
      simp [Task.ofPriority]
    · exact Task.priority_le_head sorted (perm.mem_iff.mpr member)
  · refine Task.eq_of_ofPriority sorted.of_cons (Task.sorted_byPriority _) fun priority => ?_
    rw [Task.ofPriority_byPriority, Task.ofPriority_erase, same, ← Task.ofPriority_erase,
      List.erase_cons_head]

/-- A queue holds the tasks that wait, sorted. -/
theorem represents_byPriority (limit : Nat) :
    Represents operations limit fun _ tasks queue => queue.tasks = Task.byPriority tasks where
  push := by
    intro _ tasks queue task held _
    change insert task queue.tasks = _
    rw [held, insert_byPriority]
  pop := by
    intro _ tasks queue held
    change IsNext tasks queue.pop.1 ∧
      queue.pop.2.tasks = Task.byPriority (note tasks (.popped queue.pop.1))
    rw [pop, held]
    cases sortedEq : Task.byPriority tasks with
    | nil =>
        have empty : tasks = [] := (sortedEq ▸ Task.perm_byPriority tasks).nil_eq.symm
        exact ⟨empty, held⟩
    | cons task rest => exact isNext_of_byPriority sortedEq
  clear := fun _ => Task.byPriority_nil.symm

end TaskQueue

end SmpClient
