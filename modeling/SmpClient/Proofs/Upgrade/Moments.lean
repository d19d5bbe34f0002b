import SmpClient.Proofs.Upgrade.SessionSteps

/-!
# The moments of a history

Each thing that happens in a session happens at one event, from which its phase then is known.  What
was logged before is what was logged by then.
-/

namespace SmpClient

namespace Session

variable {origin session : Session} {events : List Event} {packet : Bytes}

/-- Beginnings and ends of tasks are noticed alone, in phases of their own. -/
theorem mem_notices_cases {happening : Happening} {reply : Reply}
    (member : happening ∈ session.notices reply) :
    (∃ note, happening = .told note) ∨ (∃ slots, happening = .listed slots) ∨
      session.notices reply = [happening] ∧
        ((∃ task, happening = .began task ∧ session.phase = .performing task) ∨
          ∃ result, happening = .returned result ∧ session.phase = .performed result) := by
  rcases List.mem_append.mp member with told | turned
  · obtain ⟨note, -, rfl⟩ := List.mem_map.mp told
    exact .inl ⟨note, rfl⟩
  · right
    simp only [turns] at turned
    split at turned
    · rename_i task phaseEq
      obtain rfl := List.mem_singleton.mp turned
      have alone : session.notices .ready = [.began task] := by
        simp [notices, machine, need, Need.notes, turns, phaseEq]
      exact .inr ⟨alone, .inl ⟨task, rfl, phaseEq⟩⟩
    · rename_i result phaseEq
      obtain rfl := List.mem_singleton.mp turned
      have alone : session.notices .ready = [.returned result] := by
        simp [notices, machine, need, Need.notes, turns, phaseEq]
      exact .inr ⟨alone, .inr ⟨result, rfl, phaseEq⟩⟩
    · split at turned
      · exact .inl ⟨_, List.mem_singleton.mp turned⟩
      · cases turned
    · cases turned

theorem performing_of_mem_notices {task : Task} {reply : Reply}
    (member : .began task ∈ session.notices reply) :
    session.phase = .performing task ∧ session.notices reply = [.began task] := by
  rcases mem_notices_cases member with ⟨note, other⟩ | ⟨slots, other⟩ |
    ⟨alone, ⟨began, same, phaseEq⟩ | ⟨result, other, -⟩⟩
  · cases other
  · cases other
  · cases same
    exact ⟨phaseEq, alone⟩
  · cases other

theorem performed_of_mem_notices {result : Except Error (List Task)} {reply : Reply}
    (member : .returned result ∈ session.notices reply) :
    session.phase = .performed result ∧ session.notices reply = [.returned result] := by
  rcases mem_notices_cases member with ⟨note, other⟩ | ⟨slots, other⟩ |
    ⟨alone, ⟨task, other, -⟩ | ⟨returned, same, phaseEq⟩⟩
  · cases other
  · cases other
  · cases other
  · cases same
    exact ⟨phaseEq, alone⟩

theorem sent_notMem_notices (session : Session) (reply : Reply) (packet : Bytes) :
    .sent packet ∉ session.notices reply := by
  intro member
  rcases mem_notices_cases member with ⟨note, other⟩ | ⟨slots, other⟩ |
    ⟨-, ⟨task, other, -⟩ | ⟨result, other, -⟩⟩ <;> cases other

/-- What happens alone happens at a moment of its own. -/
theorem exists_of_history_eq_append {happening : Happening} {before after : List Happening}
    (unsent : ∀ packet, happening ≠ .sent packet)
    (alone : ∀ (session : Session) reply, happening ∈ session.notices reply →
      session.notices reply = [happening])
    (split : history events origin = before ++ happening :: after) :
    ∃ first reply, before = history first origin ∧
      happening ∈ (machine.after first origin).notices reply := by
  obtain ⟨first, event, earlier, later, -, beforeEq, seenEq⟩ :=
    Machine.exists_of_trace_eq_append split
  have member : happening ∈ (machine.after first origin).happenings event := by
    rw [seenEq]
    simp
  cases event with
  | signal signal => cases member
  | reply reply =>
      have noticed : happening ∈ (machine.after first origin).notices reply := by
        rcases List.mem_append.mp member with noticed | sent
        · exact noticed
        · obtain ⟨packet, -, same⟩ := List.mem_map.mp sent
          exact absurd same.symm (unsent packet)
      rw [happenings, alone _ reply noticed] at seenEq
      cases earlier with
      | nil => exact ⟨first, reply, by rw [beforeEq, List.append_nil, history], noticed⟩
      | cons head earlier =>
          have among : happening ∈ earlier ++ happening :: later := by simp
          rw [List.cons_append, List.cons_append] at seenEq
          rw [← (List.cons.inj seenEq).2] at among
          obtain ⟨packet, -, same⟩ := List.mem_map.mp among
          exact absurd same.symm (unsent packet)

/-- A packet is sent when a session needs to send it, and all that was noticed before is in the log. -/
theorem exists_of_sent {before after : List Happening}
    (split : history events origin = before ++ .sent packet :: after) :
    ∃ sent, Log.of before = Log.of (history sent origin) ∧
      (machine.need (machine.after sent origin)).packet? = some packet := by
  obtain ⟨first, event, earlier, later, -, beforeEq, seenEq⟩ :=
    Machine.exists_of_trace_eq_append split
  cases event with
  | signal signal => cases earlier <;> cases seenEq
  | reply reply =>
      have unnoticed := sent_notMem_notices (machine.after first origin) reply packet
      have noticedBefore {more : List Happening} (noticesEq :
          (machine.after first origin).notices reply = earlier ++ .sent packet :: more) : False :=
        unnoticed (noticesEq ▸ List.mem_append_right _ List.mem_cons_self)
      rw [happenings] at seenEq
      rcases machine.hands_reply reply (machine.after first origin) with
        handsEq | ⟨handed, handsEq, needs⟩
      · rw [handsEq, List.map_nil, List.append_nil] at seenEq
        exact (noticedBefore seenEq).elim
      · rw [handsEq] at seenEq
        rcases List.eq_nil_or_concat later with rfl | ⟨more, last, rfl⟩
        · obtain ⟨noticesEq, packetEq⟩ := List.append_inj' seenEq rfl
          obtain rfl : handed = packet := by simpa using packetEq
          refine ⟨first ++ [.reply reply], ?_, ?_⟩
          · rw [history, Machine.trace_concat, beforeEq, Log.of_append, Log.of_append,
              Log.addAll_happenings, noticesEq]
          · rw [Machine.after_concat]
            exact needs
        · rw [List.concat_eq_append, ← List.cons_append, ← List.append_assoc] at seenEq
          exact (noticedBefore (List.append_inj' seenEq rfl).1).elim

end Session

end SmpClient
