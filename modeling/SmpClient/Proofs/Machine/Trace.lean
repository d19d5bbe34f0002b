import SmpClient.Proofs.Machine.OpenLink

/-!
# Traces of a machine

Nothing ever happens to a machine but replies and signals.  Here they come in any order and say
anything, so what holds of every trace holds whatever the device, the link and the owner do.
-/

namespace SmpClient

/-- What happens to a machine. -/
inductive Event
  | reply (reply : Reply)
  | signal (signal : Signal)

/-- Whether a reply is one that is needed. -/
def Need.isMetBy {ν ρ : Type} : Need ν ρ → Reply → Bool
  | .step, .ready | .wake, .ready | .tell _, .ready | .post _ _ _, .ready => true
  | .exchange _ _, .answer _ => true
  | .collect, .acknowledgement _ _ | .collect, .silence => true
  | .connect, .connected _ => true
  | .awaitDrop _, .ready | .awaitDrop _, .silence | .sleep _, .ready => true
  | _, _ => false

namespace Machine

variable {σ ν ρ ω : Type} (machine : Machine σ ν ρ)

def take (state : σ) : Event → σ
  | .reply reply => machine.feed reply state
  | .signal signal => (machine.signal signal state).2

/-- The state after events. -/
def after (events : List Event) (state : σ) : σ :=
  events.foldl machine.take state

/-- What is seen of events, if `see` says what is seen of each. -/
def trace (see : σ → Event → List ω) : List Event → σ → List ω
  | [], _ => []
  | event :: events, state => see state event ++ trace see events (machine.take state event)

/-- The signal, if it is accepted. -/
def accepts (state : σ) : Event → List Signal
  | .reply _ => []
  | .signal signal => if (machine.signal signal state).1 then [signal] else []

/-- The signals that are accepted. -/
def accepted : List Event → σ → List Signal :=
  machine.trace machine.accepts

/-- The packet that is handed to the link when the machine goes on. -/
def hands (state : σ) : Event → List Bytes
  | .reply reply =>
      if (machine.need state).isMetBy reply then
        (machine.need (machine.feed reply state)).packet?.toList
      else []
  | .signal _ => []

/-- The packets that are handed to the link. -/
def handed : List Event → σ → List Bytes :=
  machine.trace machine.hands

/-- At most one packet is handed at a time. -/
theorem hands_reply (reply : Reply) (state : σ) :
    machine.hands state (.reply reply) = [] ∨
      ∃ packet, machine.hands state (.reply reply) = [packet] ∧
        (machine.need (machine.feed reply state)).packet? = some packet := by
  rw [hands]
  split
  · cases packetEq : (machine.need (machine.feed reply state)).packet? with
    | none => exact .inl rfl
    | some packet => exact .inr ⟨packet, rfl, rfl⟩
  · exact .inl rfl

variable (see : σ → Event → List ω)

theorem after_cons (event : Event) (events : List Event) (state : σ) :
    machine.after (event :: events) state = machine.after events (machine.take state event) :=
  rfl

theorem after_concat (events : List Event) (event : Event) (state : σ) :
    machine.after (events ++ [event]) state = machine.take (machine.after events state) event := by
  simp [after]

theorem trace_cons (event : Event) (events : List Event) (state : σ) :
    machine.trace see (event :: events) state =
      see state event ++ machine.trace see events (machine.take state event) :=
  rfl

theorem trace_append (events more : List Event) (state : σ) :
    machine.trace see (events ++ more) state =
      machine.trace see events state ++ machine.trace see more (machine.after events state) := by
  induction events generalizing state with
  | nil => rfl
  | cons first events ih =>
      rw [List.cons_append, trace_cons, trace_cons, after_cons, ih, List.append_assoc]

theorem trace_concat (events : List Event) (event : Event) (state : σ) :
    machine.trace see (events ++ [event]) state =
      machine.trace see events state ++ see (machine.after events state) event := by
  rw [trace_append, trace_cons, trace, List.append_nil]

variable {machine see}

/-- Each thing that is seen is seen of one of the events. -/
theorem exists_of_trace_eq_append {events : List Event} {start : σ} {before after : List ω} {seen : ω}
    (split : machine.trace see events start = before ++ seen :: after) :
    ∃ first event earlier later, first ++ [event] <+: events ∧
      before = machine.trace see first start ++ earlier ∧
      see (machine.after first start) event = earlier ++ seen :: later := by
  induction events generalizing start before with
  | nil => cases before <;> cases split
  | cons head events ih =>
      rw [trace_cons] at split
      have among (rest : List ω) (beforeEq : before = see start head ++ rest)
          (tailEq : machine.trace see events (machine.take start head) = rest ++ seen :: after) :
          ∃ first event earlier later, first ++ [event] <+: head :: events ∧
            before = machine.trace see first start ++ earlier ∧
            see (machine.after first start) event = earlier ++ seen :: later := by
        obtain ⟨first, event, earlier, later, kept, restEq, seenEq⟩ := ih tailEq
        refine ⟨head :: first, event, earlier, later, ?_, ?_, seenEq⟩
        · exact (List.prefix_cons_inj head).mpr kept
        · rw [beforeEq, restEq, trace_cons, List.append_assoc]
      rcases List.append_eq_append_iff.mp split with ⟨rest, beforeEq, tailEq⟩ | ⟨own, ownEq, tailEq⟩
      · exact among rest beforeEq tailEq
      · cases own with
        | nil =>
            rw [List.append_nil] at ownEq
            exact among [] (by rw [ownEq, List.append_nil]) tailEq.symm
        | cons first own =>
            obtain ⟨rfl, -⟩ := List.cons.inj tailEq
            exact ⟨[], head, before, own, ⟨events, rfl⟩, rfl, ownEq⟩

/-- What every event preserves, of what was seen and of the state, holds after all events. -/
theorem trace_invariant (invariant : List ω → σ → Prop) {start : σ} (initially : invariant [] start)
    (taken : ∀ seen event state, invariant seen state →
      invariant (seen ++ see state event) (machine.take state event))
    (events : List Event) :
    invariant (machine.trace see events start) (machine.after events start) := by
  induction events using List.reverseRecOn with
  | nil => exact initially
  | append_singleton events event holds =>
      rw [after_concat, trace_concat]
      exact taken _ event _ holds

/-- What every reply and every signal preserves holds after all events. -/
theorem after_invariant (invariant : σ → Prop) {start : σ} (initially : invariant start)
    (fed : ∀ reply state, invariant state → invariant (machine.feed reply state))
    (signaled : ∀ signal state, invariant state → invariant (machine.signal signal state).2)
    (events : List Event) : invariant (machine.after events start) := by
  induction events using List.reverseRecOn with
  | nil => exact initially
  | append_singleton events event holds =>
      rw [after_concat]
      cases event with
      | reply reply => exact fed reply _ holds
      | signal signal => exact signaled signal _ holds

end Machine

end SmpClient
