import SmpClient.Packet.Reassembler
import SmpClient.Packet.Response
import SmpClient.Proofs.Bytes
import Mathlib.Data.List.Induction

/-!
# Packets put together from fragments

What a reassembler holds is told by the bytes that have come of the packet under way, however they
were cut; between two packets it is as new.  So each packet comes out at the fragment that brings its
last byte, whatever came before it, and a fragment that goes beyond the end costs only its own packet.
-/

namespace SmpClient

namespace Packet

/-- The length of the packet that starts with `bytes`, as its header announces it. -/
def announcedLength (bytes : Bytes) : Nat :=
  Header.size + Bytes.toNat (bytes.slice 2 2)

/-- A header, and as many bytes after it as it announces. -/
def IsWhole (packet : Bytes) : Prop :=
  packet.length = announcedLength packet

theorem size_le_announcedLength (bytes : Bytes) : Header.size ≤ announcedLength bytes :=
  Nat.le_add_right _ _

theorem expectedLength_eq {scheme : Scheme} (standard : scheme.isCoap = false) {bytes : Bytes}
    (headed : Header.size ≤ bytes.length) :
    expectedLength scheme bytes = .ok (announcedLength bytes) := by
  rw [expectedLength, standard, if_neg Bool.false_ne_true, if_neg (Nat.not_lt.mpr headed),
    announcedLength]

theorem IsWhole.headed {packet : Bytes} (whole : IsWhole packet) :
    Header.size ≤ packet.length := by
  rw [whole]
  exact size_le_announcedLength packet

/-- The bytes of a header are enough to know the length that it announces. -/
theorem announcedLength_append {start : Bytes} (headed : Header.size ≤ start.length)
    (rest : Bytes) : announcedLength (start ++ rest) = announcedLength start := by
  have eight : 8 ≤ start.length := headed
  have within : 2 ≤ (start.drop 2).length := by
    rw [List.length_drop]
    omega
  rw [announcedLength, announcedLength, Bytes.slice, Bytes.slice,
    List.drop_append_of_le_length (by omega), List.take_append_of_le_length within]

theorem length_of_ofBytes {bytes : Bytes} {header : Header}
    (read : Header.ofBytes bytes = .ok header) :
    Header.size + header.length.toNat = announcedLength bytes := by
  rw [Header.ofBytes.eq_def] at read
  split at read
  · rename_i first flags lengthHigh lengthLow groupHigh groupLow seq id
    split at read
    · cases read
    · obtain rfl := Except.ok.inj read
      have fits : Bytes.toNat [lengthHigh, lengthLow] < 2 ^ 16 := by
        simpa using Bytes.toNat_lt [lengthHigh, lengthLow]
      rw [UInt16.toNat_ofNat', Nat.mod_eq_of_lt fits]
      rfl
  · cases read

/-- A whole packet is never refused for its size. -/
theorem IsWhole.leadingHeader_eq {packet : Bytes} (whole : IsWhole packet) :
    Response.leadingHeader packet = Header.ofBytes (packet.take Header.size) := by
  have headed : Header.size ≤ packet.length := whole.headed
  rw [Response.leadingHeader, if_neg (by omega)]
  cases read : Header.ofBytes (packet.take Header.size) with
  | error failure => rfl
  | ok header =>
      have announced : Header.size + header.length.toNat = packet.length := by
        have headLength : Header.size ≤ (packet.take Header.size).length := by
          rw [List.length_take]
          omega
        rw [length_of_ofBytes read, ← announcedLength_append headLength (packet.drop Header.size),
          List.take_append_drop, whole]
      dsimp only
      rw [if_neg (by omega)]

end Packet

namespace Reassembler

open Packet (IsWhole announcedLength announcedLength_append expectedLength_eq size_le_announcedLength)

/-- What a reassembler holds when these bytes of a packet have come. -/
def holding (scheme : Scheme) (received : Bytes) : Reassembler :=
  { scheme, buffer := received
    expected := if Header.size ≤ received.length then some (announcedLength received) else none }

variable {scheme : Scheme}

/-- The outcome of a fragment is that of all bytes that have come of the packet. -/
theorem push_holding (standard : scheme.isCoap = false) (received fragment : Bytes) :
    (holding scheme received).push fragment =
      let joined := received ++ fragment
      if joined.length < announcedLength joined then (.ok none, holding scheme joined)
      else if joined.length = announcedLength joined then (.ok (some joined), { scheme })
      else
        (.error (.malformedResponse (.bytesAfterEnd (joined.length - announcedLength joined))),
          { scheme }) := by
  have settleEq (joined : Bytes) (headed : Header.size ≤ joined.length) :
      settle { scheme, buffer := joined, expected := some (announcedLength joined) } =
        if joined.length < announcedLength joined then (.ok none, holding scheme joined)
        else if joined.length = announcedLength joined then (.ok (some joined), { scheme })
        else
          (.error (.malformedResponse (.bytesAfterEnd (joined.length - announcedLength joined))),
            { scheme }) := by
    rw [settle]
    dsimp only [reset]
    rcases Nat.lt_trichotomy joined.length (announcedLength joined) with short | exact | long
    · rw [if_neg (by omega), if_neg (by omega), if_pos short, holding, if_pos headed]
    · rw [if_neg (by omega), if_pos exact, if_neg (by omega), if_pos exact]
    · rw [if_pos long, if_neg (by omega), if_neg (by omega)]
  dsimp only
  by_cases known : Header.size ≤ received.length
  · have headed : Header.size ≤ (received ++ fragment).length := by
      rw [List.length_append]
      omega
    rw [push, holding, if_pos known]
    simp only [Option.isNone_some, Bool.false_and, Bool.false_eq_true, if_false]
    rw [← announcedLength_append known fragment]
    exact settleEq _ headed
  · by_cases headed : Header.size ≤ (received ++ fragment).length
    · rw [push, holding, if_neg known]
      simp only [Option.isNone_none, Bool.true_and, decide_eq_true headed, if_true,
        expectedLength_eq standard headed]
      exact settleEq _ headed
    · have short : (received ++ fragment).length < announcedLength (received ++ fragment) := by
        have := size_le_announcedLength (received ++ fragment)
        omega
      rw [push, holding, if_neg known, if_pos short, holding, if_neg headed]
      simp only [Option.isNone_none, Bool.true_and, decide_eq_false headed, Bool.false_eq_true,
        if_false, settle]

/-! ## Many fragments -/

/-- The reassembler after fragments that come one after another. -/
def pushAll (fragments : List Bytes) (state : Reassembler) : Reassembler :=
  fragments.foldl (fun state fragment => (state.push fragment).2) state

/-- What is answered to each of the fragments, and whether a packet is under way after it. -/
def answers : List Bytes → Reassembler → List (Except Error (Option Bytes) × Bool)
  | [], _ => []
  | fragment :: fragments, state =>
      ((state.push fragment).1, (state.push fragment).2.isActive) ::
        answers fragments (state.push fragment).2

theorem pushAll_append (first second : List Bytes) (state : Reassembler) :
    pushAll (first ++ second) state = pushAll second (pushAll first state) :=
  List.foldl_append

theorem answers_append (first second : List Bytes) (state : Reassembler) :
    answers (first ++ second) state =
      answers first state ++ answers second (pushAll first state) := by
  induction first generalizing state with
  | nil => rfl
  | cons fragment first ih =>
      rw [List.cons_append, answers, answers, ih]
      rfl

/-- After any fragments at all a reassembler holds the bytes of one packet. -/
theorem exists_holding (standard : scheme.isCoap = false) (fragments : List Bytes) :
    ∃ received, pushAll fragments { scheme } = holding scheme received := by
  induction fragments using List.reverseRecOn with
  | nil => exact ⟨[], rfl⟩
  | append_singleton fragments fragment ih =>
      obtain ⟨received, stateEq⟩ := ih
      have pushed : pushAll (fragments ++ [fragment]) { scheme } =
          ((holding scheme received).push fragment).2 := by
        rw [pushAll_append, stateEq]
        rfl
      rw [pushed, push_holding standard]
      dsimp only
      split_ifs
      · exact ⟨_, rfl⟩
      · exact ⟨[], rfl⟩
      · exact ⟨[], rfl⟩

/-! ## Packets that are delivered in fragments -/

/-- Fragments of a packet: the packet cut anywhere, or a part of it and then a fragment that goes
beyond its end. -/
inductive CutInto (packet : Bytes) : List Bytes → Prop
  | whole {fragments : List Bytes} (joined : fragments.flatten = packet) : CutInto packet fragments
  | overshot {fragments : List Bytes} {last beyond : Bytes}
      (missing : fragments.flatten.length < packet.length)
      (joined : fragments.flatten ++ last = packet ++ beyond) (surplus : beyond ≠ []) :
      CutInto packet (fragments ++ [last])

/-- A packet, and the fragments that a link delivers for it. -/
structure Delivery where
  packet : Bytes
  fragments : List Bytes
  isWhole : IsWhole packet
  cutInto : CutInto packet fragments

/-- What is answered to fragments of a packet after so many bytes of it: the packet at the one that
brings the last byte, an error at one that brings more, and nothing at any other. -/
def expectedAnswers (packet : Bytes) :
    (received : Nat) → List Bytes → List (Except Error (Option Bytes) × Bool)
  | _, [] => []
  | received, fragment :: fragments =>
      let reached := received + fragment.length
      (if packet.length < reached then
          .error (.malformedResponse (.bytesAfterEnd (reached - packet.length)))
        else if received < packet.length ∧ reached = packet.length then .ok (some packet)
        else .ok none,
        decide (0 < reached ∧ reached < packet.length)) ::
      expectedAnswers packet reached fragments

def Delivery.answers (delivery : Delivery) : List (Except Error (Option Bytes) × Bool) :=
  expectedAnswers delivery.packet 0 delivery.fragments

theorem isActive_holding (scheme : Scheme) (received : Bytes) :
    (holding scheme received).isActive = decide (0 < received.length) := by
  cases received <;> simp [holding, isActive]

section

variable {packet received fragment : Bytes} {fragments : List Bytes}

theorem expectedAnswers_append (packet : Bytes) (first second : List Bytes) (received : Nat) :
    expectedAnswers packet received (first ++ second) =
      expectedAnswers packet received first ++
        expectedAnswers packet (received + first.flatten.length) second := by
  induction first generalizing received with
  | nil => rfl
  | cons fragment first ih =>
      simp only [List.cons_append, expectedAnswers, ih, List.flatten_cons, List.length_append,
        Nat.add_assoc]

/-- The bytes that have come announce the length of the packet, once its header is among them. -/
theorem announcedLength_eq {joined : Bytes} (whole : IsWhole packet)
    (comparable : joined <+: packet ∨ packet <+: joined) (headed : Header.size ≤ joined.length) :
    announcedLength joined = packet.length := by
  have packetHeaded := whole.headed
  rcases comparable with ⟨rest, rfl⟩ | ⟨rest, rfl⟩
  · rw [whole, announcedLength_append headed]
  · rw [announcedLength_append packetHeaded, ← whole]

theorem push_of_comparable (standard : scheme.isCoap = false) (whole : IsWhole packet)
    (comparable : received ++ fragment <+: packet ∨ packet <+: received ++ fragment) :
    (holding scheme received).push fragment =
      let joined := received ++ fragment
      if joined.length < packet.length then (.ok none, holding scheme joined)
      else if joined.length = packet.length then (.ok (some packet), { scheme })
      else
        (.error (.malformedResponse (.bytesAfterEnd (joined.length - packet.length))),
          { scheme }) := by
  have packetHeaded := whole.headed
  rw [push_holding standard]
  dsimp only
  by_cases headed : Header.size ≤ (received ++ fragment).length
  · rw [announcedLength_eq whole comparable headed]
    split_ifs with short exact
    · rfl
    · have joinedEq : received ++ fragment = packet := by
        rcases comparable with starts | starts
        · exact starts.eq_of_length exact
        · exact (starts.eq_of_length exact.symm).symm
      rw [joinedEq]
    · rfl
  · have := size_le_announcedLength (received ++ fragment)
    rw [if_pos (by omega), if_pos (by omega)]

/-- As long as bytes of a packet are missing nothing is answered. -/
theorem answers_cons_of_missing (standard : scheme.isCoap = false) (whole : IsWhole packet)
    (starts : received ++ fragment <+: packet)
    (missing : (received ++ fragment).length < packet.length) (fragments : List Bytes) :
    answers (fragment :: fragments) (holding scheme received) =
        (.ok none, decide (0 < (received ++ fragment).length)) ::
          answers fragments (holding scheme (received ++ fragment)) ∧
      pushAll (fragment :: fragments) (holding scheme received) =
        pushAll fragments (holding scheme (received ++ fragment)) := by
  have pushed := push_of_comparable standard whole (.inl starts)
  simp only [if_pos missing] at pushed
  refine ⟨?_, ?_⟩
  · rw [answers, pushed, isActive_holding]
  · rw [pushAll, List.foldl_cons, pushed, pushAll]

theorem expectedAnswers_cons_of_missing {count : Nat}
    (missing : count + fragment.length < packet.length) :
    expectedAnswers packet count (fragment :: fragments) =
      (.ok none, decide (0 < count + fragment.length)) ::
        expectedAnswers packet (count + fragment.length) fragments := by
  rw [expectedAnswers, if_neg (by omega), if_neg (by omega)]
  simp [missing]

theorem answers_of_missing (standard : scheme.isCoap = false) (whole : IsWhole packet)
    (starts : received ++ fragments.flatten <+: packet)
    (missing : (received ++ fragments.flatten).length < packet.length) :
    answers fragments (holding scheme received) =
        expectedAnswers packet received.length fragments ∧
      pushAll fragments (holding scheme received) =
        holding scheme (received ++ fragments.flatten) := by
  induction fragments generalizing received with
  | nil => exact ⟨rfl, by simp [pushAll]⟩
  | cons fragment fragments ih =>
      rw [List.flatten_cons, ← List.append_assoc] at starts missing ⊢
      have reached_le : (received ++ fragment).length < packet.length := by
        rw [List.length_append] at missing
        omega
      have joinedStarts := (List.prefix_append _ _).trans starts
      obtain ⟨answersEq, pushAllEq⟩ := ih starts missing
      obtain ⟨first, rest⟩ :=
        answers_cons_of_missing standard whole joinedStarts reached_le fragments
      rw [first, rest, answersEq, pushAllEq]
      rw [List.length_append] at reached_le ⊢
      exact ⟨(expectedAnswers_cons_of_missing reached_le).symm, rfl⟩

/-- Empty fragments between two packets do nothing. -/
theorem answers_of_empty (standard : scheme.isCoap = false) (packet : Bytes)
    (empty : fragments.flatten = []) :
    answers fragments { scheme } = expectedAnswers packet packet.length fragments ∧
      pushAll fragments { scheme } = { scheme } := by
  induction fragments with
  | nil => exact ⟨rfl, rfl⟩
  | cons fragment fragments ih =>
      obtain ⟨rfl, empty⟩ := List.append_eq_nil_iff.mp empty
      obtain ⟨answersEq, pushAllEq⟩ := ih empty
      have pushed : push { scheme } [] = (.ok none, { scheme }) :=
        (push_holding standard [] []).trans rfl
      refine ⟨?_, ?_⟩
      · rw [answers, pushed, answersEq, expectedAnswers]
        simp [isActive]
      · rw [pushAll, List.foldl_cons, pushed]
        exact pushAllEq

/-- The packet comes out at the fragment that brings its last byte. -/
theorem answers_of_rest (standard : scheme.isCoap = false) (whole : IsWhole packet)
    (received : Bytes) (missing : received.length < packet.length)
    (joined : received ++ fragments.flatten = packet) :
    answers fragments (holding scheme received) =
        expectedAnswers packet received.length fragments ∧
      pushAll fragments (holding scheme received) = { scheme } := by
  induction fragments generalizing received with
  | nil =>
      rw [List.flatten_nil, List.append_nil] at joined
      exact absurd missing (by rw [joined]; exact Nat.lt_irrefl _)
  | cons fragment fragments ih =>
      rw [List.flatten_cons, ← List.append_assoc] at joined
      have starts : received ++ fragment <+: packet := ⟨_, joined⟩
      by_cases more : (received ++ fragment).length < packet.length
      · obtain ⟨answersEq, pushAllEq⟩ := ih _ more joined
        obtain ⟨first, rest⟩ := answers_cons_of_missing standard whole starts more fragments
        rw [first, rest, answersEq, pushAllEq]
        rw [List.length_append] at more ⊢
        exact ⟨(expectedAnswers_cons_of_missing more).symm, rfl⟩
      · have exact : (received ++ fragment).length = packet.length :=
          Nat.le_antisymm starts.length_le (Nat.not_lt.mp more)
        have empty : fragments.flatten = [] := by
          have lengthEq : (received ++ fragment).length + fragments.flatten.length =
              packet.length := by
            rw [← List.length_append, joined]
          exact List.eq_nil_of_length_eq_zero (by omega)
        have pushed := push_of_comparable standard whole (.inl starts)
        simp only [if_neg more, if_pos exact] at pushed
        obtain ⟨answersEq, pushAllEq⟩ := answers_of_empty standard packet empty
        rw [List.length_append] at exact
        refine ⟨?_, ?_⟩
        · rw [answers, pushed, answersEq, expectedAnswers, if_neg (by omega), if_pos ⟨missing, exact⟩,
            exact]
          simp [isActive]
        · rw [pushAll, List.foldl_cons, pushed]
          exact pushAllEq

/-- A fragment that goes beyond the end of the packet is an error. -/
theorem answers_of_overshot (standard : scheme.isCoap = false) (whole : IsWhole packet)
    (received : Bytes) (missing : (received ++ fragments.flatten).length < packet.length)
    {last beyond : Bytes}
    (joined : received ++ fragments.flatten ++ last = packet ++ beyond) (surplus : beyond ≠ []) :
    answers (fragments ++ [last]) (holding scheme received) =
        expectedAnswers packet received.length (fragments ++ [last]) ∧
      pushAll (fragments ++ [last]) (holding scheme received) = { scheme } := by
  have starts : received ++ fragments.flatten <+: packet :=
    List.prefix_of_prefix_length_le ⟨last, joined⟩ (List.prefix_append packet beyond) missing.le
  obtain ⟨answersEq, pushAllEq⟩ := answers_of_missing standard whole starts missing
  have surplus : 0 < beyond.length := List.length_pos_iff.mpr surplus
  have lengthEq := congrArg List.length joined
  have pushed := push_of_comparable standard whole (.inr ⟨beyond, joined.symm⟩)
  simp only [List.length_append] at lengthEq pushed
  rw [if_neg (by omega), if_neg (by omega)] at pushed
  refine ⟨?_, ?_⟩
  · have failed : packet.length < received.length + fragments.flatten.length + last.length := by
      omega
    have inactive : ¬ received.length + fragments.flatten.length + last.length < packet.length := by
      omega
    rw [answers_append, answersEq, pushAllEq, expectedAnswers_append, answers, answers, pushed,
      expectedAnswers, expectedAnswers, if_pos failed, decide_eq_false fun active => inactive active.2]
    rfl
  · rw [pushAll_append, pushAllEq, pushAll, List.foldl_cons, List.foldl_nil, pushed]

end

/-- The fragments of a packet are answered as they should be, and then the reassembler is as new. -/
theorem answers_delivery (standard : scheme.isCoap = false) (delivery : Delivery) :
    answers delivery.fragments { scheme } = delivery.answers ∧
      pushAll delivery.fragments { scheme } = { scheme } := by
  obtain ⟨packet, fragments, whole, cut⟩ := delivery
  have unbegun : ([] : Bytes).length < packet.length :=
    Nat.lt_of_lt_of_le (by decide) whole.headed
  cases cut with
  | whole joined => exact answers_of_rest standard whole [] unbegun joined
  | overshot missing joined surplus =>
      exact answers_of_overshot standard whole [] missing joined surplus

theorem answers_deliveries (standard : scheme.isCoap = false) (deliveries : List Delivery) :
    answers (deliveries.flatMap Delivery.fragments) { scheme } =
        deliveries.flatMap Delivery.answers ∧
      pushAll (deliveries.flatMap Delivery.fragments) { scheme } = { scheme } := by
  induction deliveries with
  | nil => exact ⟨rfl, rfl⟩
  | cons delivery deliveries ih =>
      obtain ⟨first, asNew⟩ := answers_delivery standard delivery
      rw [List.flatMap_cons, List.flatMap_cons, answers_append, pushAll_append, asNew, first, ih.1]
      exact ⟨rfl, ih.2⟩

/-- What a reassembler does with a fragment after any others, whatever they were. -/
structure Orderly (scheme : Scheme) (state : Reassembler) (fragment : Bytes) : Prop where
  asNew : state.isActive = false → state = { scheme }
  completes : ∀ packet, (state.push fragment).1 = .ok (some packet) →
    IsWhole packet ∧ Response.leadingHeader packet = Header.ofBytes (packet.take Header.size) ∧
      (state.push fragment).2 = { scheme }
  fails : ∀ failure, (state.push fragment).1 = .error failure →
    (state.push fragment).2 = { scheme }

theorem orderly_pushAll (standard : scheme.isCoap = false) (history : List Bytes)
    (fragment : Bytes) : Orderly scheme (pushAll history { scheme }) fragment := by
  obtain ⟨received, stateEq⟩ := exists_holding standard history
  have pushed := push_holding standard received fragment
  rw [stateEq]
  refine ⟨?_, ?_, ?_⟩
  · intro inactive
    rw [isActive_holding, decide_eq_false_iff_not, Nat.pos_iff_ne_zero, not_not] at inactive
    rw [List.eq_nil_of_length_eq_zero inactive]
    rfl
  · intro packet completed
    rw [pushed] at completed ⊢
    dsimp only at completed ⊢
    split_ifs at completed ⊢ with short exact
    · cases completed
    · obtain rfl := Option.some.inj (Except.ok.inj completed)
      exact ⟨exact, IsWhole.leadingHeader_eq exact, rfl⟩
  · intro failure failed
    rw [pushed] at failed ⊢
    dsimp only at failed ⊢
    split_ifs at failed ⊢ with short exact
    rfl

/-- Under the schemes that put the header in front every packet is put together again, however it is
cut: it comes out at the fragment that brings its last byte, and nothing comes out at any other.  A
fragment that goes beyond the end of its packet is an error and spoils no other packet.  What comes
out after any fragments at all has the size that its header announces. -/
theorem assembles_deliveries (standard : scheme.isCoap = false) :
    (∀ deliveries : List Delivery,
      answers (deliveries.flatMap Delivery.fragments) { scheme } =
          deliveries.flatMap Delivery.answers ∧
        pushAll (deliveries.flatMap Delivery.fragments) { scheme } = { scheme }) ∧
    ∀ history fragment, Orderly scheme (pushAll history { scheme }) fragment :=
  ⟨answers_deliveries standard, orderly_pushAll standard⟩

/-- A packet that announces no payload. -/
def bare : Bytes := [3, 0, 0, 0, 0, 0, 7, 0]

/-- A packet that announces two bytes. -/
def laden : Bytes := [1, 0, 0, 2, 0, 1, 8, 0, 0xa1, 0xa0]

/-- A packet in one piece, one that is cut within its header and at its end, one with a byte too
many, and the same once more. -/
def mixedDeliveries : List Delivery :=
  [{ packet := bare, fragments := [bare], isWhole := rfl, cutInto := .whole rfl },
    { packet := laden, fragments := [[], [1, 0, 0], [2, 0, 1, 8, 0], [0xa1], [], [0xa0], []]
      isWhole := rfl, cutInto := .whole rfl },
    { packet := laden, fragments := [[1, 0, 0, 2, 0, 1, 8, 0, 0xa1], [0xa0, 0xff]]
      isWhole := rfl
      cutInto := @CutInto.overshot _ [[1, 0, 0, 2, 0, 1, 8, 0, 0xa1]] _ [0xff] (by decide) rfl
        (by decide) },
    { packet := laden, fragments := [laden], isWhole := rfl, cutInto := .whole rfl }]

theorem assembles_deliveries_mixed :
    Scheme.isCoap .serial = false ∧
      answers (mixedDeliveries.flatMap Delivery.fragments) { scheme := .serial } =
        [(.ok (some bare), false),
          (.ok none, false), (.ok none, true), (.ok none, true), (.ok none, true), (.ok none, true),
          (.ok (some laden), false), (.ok none, false),
          (.ok none, true), (.error (.malformedResponse (.bytesAfterEnd 1)), false),
          (.ok (some laden), false)] ∧
      Orderly .serial (pushAll [[1, 0, 0], [2]] { scheme := .serial }) [0, 1, 8, 0, 0xa1, 0xa0] := by
  have standard : Scheme.isCoap .serial = false := rfl
  obtain ⟨delivered, orderly⟩ := assembles_deliveries standard
  exact ⟨rfl, (delivered mixedDeliveries).1, orderly _ _⟩

end Reassembler

end SmpClient
