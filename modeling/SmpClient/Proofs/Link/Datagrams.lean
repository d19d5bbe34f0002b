import SmpClient.Link.Udp

/-!
# Which datagram answers a request

A datagram link returns the first datagram that comes from its peer and starts with a header that
answers the request.  Whatever else has arrived before that one, in whatever number and order, only
disappears; what has arrived after it stays for later requests.
-/

namespace SmpClient

namespace UdpLink

/-- A datagram that comes from the peer and starts with a header of the request's group and sequence
number, whose operation is the response to that of the request. -/
structure IsAnswer (request : Header) (datagram : Datagram) : Prop where
  fromPeer : datagram.isFromPeer = true
  headed : Header.size ≤ datagram.bytes.length
  matching : ∃ response, Header.ofBytes (datagram.bytes.take Header.size) = .ok response ∧
    response.seq = request.seq ∧ response.op = request.op.response ∧
    response.group = request.group

theorem answers_iff {request : Header} {datagram : Datagram} :
    answers request datagram = true ↔ IsAnswer request datagram := by
  by_cases headed : Header.size ≤ datagram.bytes.length
  · have headerEq : Packet.header .udp datagram.bytes =
        Header.ofBytes (datagram.bytes.take Header.size) :=
      if_neg (Nat.not_lt.mpr headed)
    rw [answers, headerEq, Bool.and_eq_true]
    cases read : Header.ofBytes (datagram.bytes.take Header.size) with
    | error failure =>
        refine iff_of_false (by simp) fun answer => ?_
        obtain ⟨response, readEq, -⟩ := answer.matching
        cases read.symm.trans readEq
    | ok response =>
        simp only [Header.isAnsweredBy, Bool.and_eq_true, beq_iff_eq]
        constructor
        · rintro ⟨fromPeer, ⟨seqEq, opEq⟩, groupEq⟩
          exact ⟨fromPeer, headed, response, read, seqEq, opEq, groupEq⟩
        · rintro ⟨fromPeer, -, found, readEq, seqEq, opEq, groupEq⟩
          obtain rfl := Except.ok.inj (read.symm.trans readEq)
          exact ⟨fromPeer, ⟨seqEq, opEq⟩, groupEq⟩
  · have headerEq : Packet.header .udp datagram.bytes =
        .error (.malformedHeader datagram.bytes.length) :=
      if_pos (Nat.not_le.mp headed)
    rw [answers, headerEq]
    exact iff_of_false (by simp) fun answer => headed answer.headed

instance (request : Header) (datagram : Datagram) : Decidable (IsAnswer request datagram) :=
  decidable_of_iff _ answers_iff

variable {request : Header} {before after : List Datagram}

/-- Datagrams that answer nothing are passed over. -/
theorem firstAnswer_append (others : ∀ datagram ∈ before, ¬ IsAnswer request datagram)
    (after : List Datagram) :
    firstAnswer request (before ++ after) = firstAnswer request after := by
  induction before with
  | nil => rfl
  | cons datagram before ih =>
      obtain ⟨other, others⟩ := List.forall_mem_cons.mp others
      rw [List.cons_append, firstAnswer, if_neg fun answered => other (answers_iff.mp answered)]
      exact ih others

theorem firstAnswer_of_silence (others : ∀ datagram ∈ before, ¬ IsAnswer request datagram) :
    firstAnswer request before = .error .timeout := by
  rw [← List.append_nil before, firstAnswer_append others]
  rfl

theorem firstAnswer_cons_of_isAnswer {datagram : Datagram} (answer : IsAnswer request datagram) :
    firstAnswer request (datagram :: after) = .ok (datagram.bytes, after) :=
  if_pos (answers_iff.mpr answer)

variable {ι : Type} {link : UdpLink ι} {packet : Bytes}

/-- No datagram is longer than what the link can take in. -/
def HoldsWhole (link : UdpLink ι) (datagrams : List Datagram) : Prop :=
  ∀ datagram ∈ datagrams, datagram.bytes.length ≤ link.bufferSize

instance (link : UdpLink ι) (datagrams : List Datagram) : Decidable (link.HoldsWhole datagrams) :=
  inferInstanceAs (Decidable (∀ datagram ∈ datagrams, datagram.bytes.length ≤ link.bufferSize))

theorem map_take_of_holdsWhole {datagrams : List Datagram} (whole : link.HoldsWhole datagrams) :
    (datagrams.map fun datagram =>
      { datagram with bytes := datagram.bytes.take link.bufferSize }) = datagrams := by
  refine (List.map_congr_left fun datagram member => ?_).trans (List.map_id datagrams)
  rw [List.take_of_length_le (whole datagram member)]
  rfl

/-- The datagrams that are there before the time for an answer is over, those first that were left from
before; none if there is no time. -/
def inTime (link : UdpLink ι) (datagrams : List Datagram) : List Datagram :=
  if link.timeout = 0 then [] else link.arrived ++ datagrams

theorem receive_of_answer {bytes : Bytes} (headerEq : Packet.header .udp packet = .ok request)
    (waits : link.timeout ≠ 0) (whole : link.HoldsWhole link.arrived)
    (found : firstAnswer request link.arrived = .ok (bytes, after)) :
    link.receive packet = (.ok bytes, { link with arrived := after }) := by
  rw [receive, headerEq]
  dsimp only
  rw [if_neg waits, map_take_of_holdsWhole whole, found]

theorem receive_of_silence (headerEq : Packet.header .udp packet = .ok request)
    (waits : link.timeout ≠ 0) (whole : link.HoldsWhole link.arrived)
    (silent : firstAnswer request link.arrived = .error .timeout) :
    link.receive packet = (.error .timeout, { link with arrived := [] }) := by
  rw [receive, headerEq]
  dsimp only
  rw [if_neg waits, map_take_of_holdsWhole whole, silent]

/-- The link when it waits for the answer to a packet. -/
def waiting (link : UdpLink ι) (datagrams : List Datagram) : UdpLink ι :=
  { link with isConnected := true, arrived := link.arrived ++ datagrams }

theorem send_of_fits (fits : packet.length ≤ link.mtu) (kind : ResponseKind)
    (datagrams : List Datagram) :
    (link.send packet kind (.ok datagrams)).result =
        ((link.waiting datagrams).receive packet).1.bind
          (fun bytes => Response.decode .udp bytes kind) ∧
      (link.send packet kind (.ok datagrams)).link =
        ((link.waiting datagrams).receive packet).2 := by
  have connectEq : link.connect.link = { link with isConnected := true } := by
    rw [connect]
    split
    · rename_i connected
      rw [← connected]
    · rfl
  rw [send, if_neg (Nat.not_lt.mpr fits)]
  dsimp only
  rw [connectEq]
  exact ⟨rfl, rfl⟩

/-- A packet that fits the link and has a header is answered by what the first datagram says that
answers it, whatever datagrams come before that one, and by nothing else; without one the time for
an answer goes by.  Any other packet fails by itself. -/
theorem filters_datagrams (link : UdpLink ι) (packet : Bytes) (kind : ResponseKind)
    (datagrams : List Datagram) (whole : link.HoldsWhole (link.inTime datagrams)) :
    let sent := link.send packet kind (.ok datagrams)
    (∀ request, packet.length ≤ link.mtu → Packet.header .udp packet = .ok request →
      (∀ before answer after, link.inTime datagrams = before ++ answer :: after →
        (∀ datagram ∈ before, ¬ IsAnswer request datagram) → IsAnswer request answer →
          sent.result = Response.decode .udp answer.bytes kind ∧ sent.link.arrived = after) ∧
      ((∀ datagram ∈ link.inTime datagrams, ¬ IsAnswer request datagram) →
        sent.result = .error .timeout)) ∧
    (link.mtu < packet.length →
      sent.result = .error (.insufficientMtu packet.length link.mtu) ∧ sent.link = link) ∧
    ∀ failure, packet.length ≤ link.mtu → Packet.header .udp packet = .error failure →
      sent.result = .error failure := by
  refine ⟨?answered, ?tooLong, ?headless⟩
  case tooLong =>
    intro tooLong
    rw [send, if_pos tooLong]
    exact ⟨rfl, rfl⟩
  case headless =>
    intro failure fits headerEq
    rw [(send_of_fits fits kind datagrams).1, receive, headerEq]
    rfl
  case answered =>
    intro request fits headerEq
    obtain ⟨resultEq, linkEq⟩ := send_of_fits fits kind datagrams
    by_cases waits : (link.waiting datagrams).timeout = 0
    · have untimely : link.inTime datagrams = [] := if_pos waits
      refine ⟨fun before answer after split => ?_, fun _ => ?_⟩
      · simp [untimely] at split
      · rw [resultEq, receive, headerEq]
        dsimp only
        rw [if_pos waits]
        rfl
    · have timely : link.inTime datagrams = (link.waiting datagrams).arrived := if_neg waits
      rw [timely] at whole ⊢
      refine ⟨fun before answer after split others answers => ?_, fun others => ?_⟩
      · have found : firstAnswer request (link.waiting datagrams).arrived =
            .ok (answer.bytes, after) := by
          rw [split, firstAnswer_append others, firstAnswer_cons_of_isAnswer answers]
        rw [resultEq, linkEq, receive_of_answer headerEq waits whole found]
        exact ⟨rfl, rfl⟩
      · have silent := firstAnswer_of_silence others
        rw [resultEq, receive_of_silence headerEq waits whole silent]
        rfl

/-- A request of the operating system's group with sequence number 9. -/
def numberedRequest : Bytes := [0x0a, 0, 0, 1, 0, 0, 9, 0, 0xa0]

/-- A datagram that is too short, one from elsewhere, one with an operation that there is not, a late
answer to the request before, and one of another group. -/
def strayDatagrams : List Datagram :=
  [{ bytes := [0x0b, 0, 0, 1, 0, 0, 9] },
    { isFromPeer := false, bytes := [0x0b, 0, 0, 1, 0, 0, 9, 0, 0xa0] },
    { bytes := [0x0f, 0, 0, 1, 0, 0, 9, 0, 0xa0] },
    { bytes := [0x0b, 0, 0, 1, 0, 0, 8, 0, 0xa0] },
    { bytes := [0x0b, 0, 0, 1, 0, 1, 9, 0, 0xa0] }]

/-- Two strays have been left from before, the others come with two answers. -/
theorem filters_datagrams_strays :
    let link : UdpLink Nat := { mtu := 512, timeout := 50, arrived := strayDatagrams.take 2 }
    let first : Datagram := { bytes := [0x0b, 0, 0, 4, 0, 0, 9, 0, 0xa1, 0x61, 0x72, 0x60] }
    let second : Datagram := { bytes := [0x03, 0, 0, 1, 0, 0, 9, 0, 0xa0] }
    let sent := link.send numberedRequest .generic
      (.ok (strayDatagrams.drop 2 ++ [first, second]))
    link.HoldsWhole (link.inTime (strayDatagrams.drop 2 ++ [first, second])) ∧
      sent.result = Response.decode .udp first.bytes .generic ∧ sent.link.arrived = [second] ∧
      (link.send numberedRequest .generic (.ok (strayDatagrams.drop 2))).result =
        .error .timeout := by
  intro link first second sent
  have whole : link.HoldsWhole (link.inTime (strayDatagrams.drop 2 ++ [first, second])) := by
    decide
  have wholeStrays : link.HoldsWhole (link.inTime (strayDatagrams.drop 2)) := by
    decide
  obtain ⟨request, headerEq, others, answers⟩ :
      ∃ request, Packet.header .udp numberedRequest = .ok request ∧
        (∀ datagram ∈ strayDatagrams, ¬ IsAnswer request datagram) ∧ IsAnswer request first :=
    ⟨_, rfl, by decide, by decide⟩
  have fits : numberedRequest.length ≤ link.mtu := by decide
  obtain ⟨answered, -⟩ := (filters_datagrams link numberedRequest .generic _ whole).1
    request fits headerEq
  obtain ⟨-, silent⟩ := (filters_datagrams link numberedRequest .generic _ wholeStrays).1
    request fits headerEq
  obtain ⟨resultEq, arrivedEq⟩ := answered strayDatagrams first [second] rfl others answers
  exact ⟨whole, resultEq, arrivedEq, silent others⟩

end UdpLink

end SmpClient
