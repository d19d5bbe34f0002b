import SmpClient.Proofs.Indexing
import SmpClient.Proofs.Link.FrameLines

/-!
# Which frames are accepted

A reader accepts the lines that hold a packet and nothing else.  What it has read must stand for
some bytes after every line, and the frame ends with the first line after which these are as many as
the length in front of the packet says.  Lines without text may stand before the frame.
-/

namespace SmpClient

namespace Frame

section ReadingLines

theorem expect_eq_ok_iff {ending : Error} {expected input rest : Bytes} :
    expect ending expected input = (.ok (), rest) ↔ input = expected ++ rest := by
  constructor
  · intro read
    fun_induction expect ending expected input with
    | case1 => simpa using read
    | case2 => cases read
    | case3 byte expected input ih => rw [ih read, List.cons_append]
    | case4 => cases read
  · rintro rfl
    exact expect_append ending expected rest

theorem readText_eq_ok_iff {ending : Error} {input text rest : Bytes} :
    readText ending input = (.ok text, rest) ↔
      input = text ++ newline :: rest ∧ newline ∉ text := by
  constructor
  · intro read
    fun_induction readText ending input generalizing text with
    | case1 => cases read
    | case2 input =>
        cases read
        exact ⟨rfl, List.not_mem_nil⟩
    | case3 byte input other found left readEq ih =>
        cases found with
        | error failure => cases read
        | ok found =>
            cases read
            obtain ⟨inputEq, plain⟩ := ih readEq
            refine ⟨by rw [inputEq, List.cons_append], ?_⟩
            simpa [Ne.symm other] using plain
  · rintro ⟨rfl, plain⟩
    exact readText_append ending plain rest

theorem readLine_eq_ok_iff {ending : Error} {marker input text rest : Bytes} :
    readLine ending marker input = (.ok text, rest) ↔
      input = line marker text ++ rest ∧ newline ∉ text := by
  constructor
  · intro read
    rw [readLine] at read
    split at read
    · cases read
    · rename_i left expected
      obtain ⟨rfl, plain⟩ := readText_eq_ok_iff.mp read
      rw [expect_eq_ok_iff.mp expected]
      exact ⟨by simp [line], plain⟩
  · rintro ⟨rfl, plain⟩
    exact readLine_append ending marker plain rest

end ReadingLines

section Packets

theorem newline_notMem_of_eq_encode {before text content : Bytes}
    (textEq : before ++ text = Base64.encode content) : newline ∉ text := by
  intro found
  have among : newline ∈ Base64.encode content := by
    rw [← textEq]
    exact List.mem_append_right before found
  exact Base64.ne_newline_of_mem_encode among rfl

theorem announced_of_isPrefix {first second : Bytes} (starts : first <+: second)
    (two : 2 ≤ first.length) : announced first = announced second := by
  obtain ⟨others, rfl⟩ := starts
  rw [announced, announced, List.take_append_of_le_length two]

/-- Bytes that wrap a packet are complete when all of them are there. -/
theorem isComplete_iff {content whole packet : Bytes} (starts : content <+: whole)
    (wraps : Wraps whole packet) :
    isComplete content = true ↔ packet.length + 4 ≤ content.length := by
  rw [isComplete, Bool.and_eq_true, decide_eq_true_eq, decide_eq_true_eq]
  constructor
  · rintro ⟨two, filled⟩
    rw [announced_of_isPrefix starts two, announced, wraps.announced_eq] at filled
    omega
  · intro long
    have two : 2 ≤ content.length := by omega
    rw [announced_of_isPrefix starts two, announced, wraps.announced_eq]
    omega

theorem Wraps.isComplete {content packet : Bytes} (wraps : Wraps content packet) :
    isComplete content = true :=
  (isComplete_iff List.prefix_rfl wraps).mpr wraps.length_eq.ge

theorem packetOf_eq_ok_iff {content packet : Bytes} :
    packetOf content = .ok packet ↔ Wraps content packet := by
  constructor
  · intro found
    simp only [packetOf] at found
    split at found
    · cases found
    · rename_i fitting
      rw [not_or, not_not, Nat.not_lt] at fitting
      obtain ⟨announcedEq, two⟩ := fitting
      split at found
      · cases found
      · rename_i checked
        have packetEq := Except.ok.inj found
        have lengthEq : content.length = packet.length + 4 := by
          rw [← packetEq, Bytes.length_slice]
          omega
        have bodyEq : content.length - 4 = packet.length := by omega
        have endEq : content.length - 2 = packet.length + 2 := by omega
        rw [packetEq, endEq, not_not] at checked
        rw [bodyEq] at packetEq
        rw [endEq] at announcedEq
        exact ⟨lengthEq, announcedEq, packetEq, checked⟩
  · intro wraps
    have bodyEq : content.length - 4 = packet.length := by
      rw [wraps.length_eq, Nat.add_sub_cancel]
    have endEq : content.length - 2 = packet.length + 2 := by
      rw [wraps.length_eq]
      omega
    have announcedEq : announced content = packet.length + 2 := wraps.announced_eq
    rw [packetOf, announcedEq, bodyEq, endEq, wraps.packet_eq, wraps.checksum_eq,
      if_neg (by omega), if_neg (not_not.mpr rfl)]

end Packets

/-- Texts of lines that carry a packet: the texts up to any line stand for some bytes, all of them
for bytes that wrap the packet, and those before the last line for fewer bytes. -/
structure Carries (texts : List Bytes) (packet : Bytes) : Prop where
  readable : ∀ count, ∃ content, (texts.take count).flatten = Base64.encode content
  whole : ∃ content, texts.flatten = Base64.encode content ∧ Wraps content packet
  incomplete : ∀ count < texts.length, ∀ content,
    (texts.take count).flatten = Base64.encode content → content.length < packet.length + 4

/-- Text after which a reader goes on: it stands for bytes that are not complete. -/
def Pending (before : Bytes) : Prop :=
  ∃ content, before = Base64.encode content ∧ isComplete content = false

theorem pending_nil : Pending [] :=
  ⟨[], rfl, rfl⟩

/-- In front of bytes that wrap a packet a reader goes on while there are too few of them. -/
theorem pending_iff {before more content packet : Bytes}
    (whole : before ++ more = Base64.encode content) (wraps : Wraps content packet) :
    Pending before ↔
      ∃ part, before = Base64.encode part ∧ part.length < packet.length + 4 := by
  apply exists_congr
  intro part
  apply and_congr_right
  intro beforeEq
  have starts : part <+: content := by
    apply Base64.isPrefix_of_encode_append
    rw [← beforeEq, whole]
  rw [← Bool.not_eq_true, isComplete_iff starts wraps, Nat.not_le]

theorem carries_singleton {text packet : Bytes} :
    Carries [text] packet ↔ ∃ content, text = Base64.encode content ∧ Wraps content packet := by
  constructor
  · intro carries
    simpa using carries.whole
  · rintro ⟨content, rfl, wraps⟩
    refine ⟨?_, ⟨content, by simp, wraps⟩, ?_⟩
    · rintro (_ | count)
      · exact ⟨[], rfl⟩
      · exact ⟨content, by simp⟩
    · intro count within part read
      obtain rfl : count = 0 := by simpa using within
      obtain rfl : part = [] := Base64.encode_injective read.symm
      simp

/-- The first line may be put together with the next one if a reader goes on after it. -/
theorem carries_cons_cons {before text : Bytes} {texts : List Bytes} {packet : Bytes} :
    Carries (before :: text :: texts) packet ↔
      Pending before ∧ Carries ((before ++ text) :: texts) packet := by
  have joined (count : Nat) : (((before ++ text) :: texts).take (count + 1)).flatten =
      ((before :: text :: texts).take (count + 2)).flatten := by simp
  constructor
  · intro carries
    obtain ⟨content, wholeEq, wraps⟩ := carries.whole
    obtain ⟨part, read⟩ := carries.readable 1
    have pending : Pending before :=
      (pending_iff wholeEq wraps).mpr
        ⟨part, by simpa using read, carries.incomplete 1 (by simp) part read⟩
    refine ⟨pending, ?_, by simpa using carries.whole, ?_⟩
    · rintro (_ | count)
      · exact carries.readable 0
      · exact joined count ▸ carries.readable (count + 2)
    · rintro (_ | count) within
      · exact carries.incomplete 0 (by simp)
      · exact joined count ▸ carries.incomplete (count + 2) (by simpa using within)
  · rintro ⟨pending, carries⟩
    obtain ⟨content, wholeEq, wraps⟩ := carries.whole
    have wholeEq : before ++ (text ++ texts.flatten) = Base64.encode content := by
      simpa using wholeEq
    obtain ⟨part, beforeEq, short⟩ := (pending_iff wholeEq wraps).mp pending
    refine ⟨?_, ⟨content, wholeEq, wraps⟩, ?_⟩
    · rintro (_ | _ | count)
      · exact carries.readable 0
      · exact ⟨part, by simpa using beforeEq⟩
      · exact joined count ▸ carries.readable (count + 1)
    · rintro (_ | _ | count) within
      · exact carries.incomplete 0 (by simp)
      · intro other read
        obtain rfl : part = other := by
          apply Base64.encode_injective
          rw [← beforeEq, ← read]
          simp
        exact short
      · exact joined count ▸ carries.incomplete (count + 1) (by simpa using within)

/-- The lines on which some texts stand for a reader who has read `before`. -/
def linesAfter (before : Bytes) : List Bytes → Bytes
  | [] => []
  | text :: texts =>
      line (if before = [] then startMarker else continuationMarker) text ++
        linesAfter (before ++ text) texts

/-- Lines that carry a packet are read, and no more than these. -/
theorem receiveAfter_linesAfter (ending : Error) {before text packet : Bytes} {texts : List Bytes}
    (carries : Carries ((before ++ text) :: texts) packet) (rest : Bytes) :
    receiveAfter ending before (linesAfter before (text :: texts) ++ rest) =
      (.ok packet, rest) := by
  -- on the lines to come: the first of them is joined to what was read before
  induction texts generalizing before text with
  | nil =>
      obtain ⟨content, textEq, wraps⟩ := carries_singleton.mp carries
      have plain : newline ∉ text := newline_notMem_of_eq_encode textEq
      rw [linesAfter, List.append_assoc, line, receiveAfter_line ending before plain, textEq,
        Base64.decode?_encode]
      simp only [wraps.isComplete, if_true, packetOf_eq_ok_iff.mpr wraps]
      rfl
  | cons next texts ih =>
      obtain ⟨⟨content, textEq, unfinished⟩, later⟩ := carries_cons_cons.mp carries
      have plain : newline ∉ text := newline_notMem_of_eq_encode textEq
      rw [linesAfter, List.append_assoc, line, receiveAfter_line ending before plain, textEq,
        Base64.decode?_encode]
      simp only [unfinished, ← textEq]
      exact ih later

theorem carries_of_receiveAfter {ending : Error} {before input packet rest : Bytes}
    (read : receiveAfter ending before input = (.ok packet, rest)) :
    ∃ text texts, Carries ((before ++ text) :: texts) packet ∧
      input = linesAfter before (text :: texts) ++ rest := by
  fun_induction receiveAfter ending before input with
  | case1 => cases read
  | case2 => cases read
  | case3 before input text left lineEq content decoded complete =>
      obtain ⟨found, rfl⟩ := Prod.mk.inj read
      have textEq := Base64.decode?_eq_some_iff.mp decoded
      refine ⟨text, [], carries_singleton.mpr ⟨content, textEq, packetOf_eq_ok_iff.mp found⟩, ?_⟩
      rw [(readLine_eq_ok_iff.mp lineEq).1]
      simp [linesAfter]
  | case4 before input text left lineEq content decoded unfinished ih =>
      have textEq := Base64.decode?_eq_some_iff.mp decoded
      obtain ⟨next, texts, carries, leftEq⟩ := ih read
      have pending : Pending (before ++ text) :=
        ⟨content, textEq, Bool.not_eq_true _ ▸ unfinished⟩
      refine ⟨text, next :: texts, carries_cons_cons.mpr ⟨pending, carries⟩, ?_⟩
      rw [(readLine_eq_ok_iff.mp lineEq).1, leftEq]
      simp [linesAfter]

theorem receiveAfter_eq_ok_iff {ending : Error} {before input packet rest : Bytes} :
    receiveAfter ending before input = (.ok packet, rest) ↔
      ∃ text texts, Carries ((before ++ text) :: texts) packet ∧
        input = linesAfter before (text :: texts) ++ rest := by
  constructor
  · exact carries_of_receiveAfter
  · rintro ⟨text, texts, carries, rfl⟩
    exact receiveAfter_linesAfter ending carries rest

/-- Input that starts with a frame of a packet: lines without text, and the lines that carry the
packet, the first one with some text.  After the frame comes `rest`. -/
def Heads (input packet rest : Bytes) : Prop :=
  ∃ blanks first others, first ≠ [] ∧ Carries (first :: others) packet ∧
    input = (List.replicate blanks (line startMarker [])).flatten ++
      (marked startMarker (first :: others)).flatten ++ rest

theorem linesAfter_blank (texts : List Bytes) :
    linesAfter [] ([] :: texts) = line startMarker [] ++ linesAfter [] texts := by
  rw [linesAfter, if_pos rfl, List.append_nil]

theorem linesAfter_of_ne_nil {before : Bytes} (begun : before ≠ []) (texts : List Bytes) :
    linesAfter before texts = (texts.map (line continuationMarker)).flatten := by
  induction texts generalizing before with
  | nil => rfl
  | cons text texts ih =>
      rw [linesAfter, if_neg begun, ih (List.append_ne_nil_of_left_ne_nil begun text),
        List.map_cons, List.flatten_cons]

theorem linesAfter_nil_cons {first : Bytes} (begun : first ≠ []) (others : List Bytes) :
    linesAfter [] (first :: others) = (marked startMarker (first :: others)).flatten := by
  rw [linesAfter, if_pos rfl, List.nil_append, linesAfter_of_ne_nil begun, marked,
    List.flatten_cons]

theorem Heads.blank {input packet rest : Bytes} (heads : Heads input packet rest) :
    Heads (line startMarker [] ++ input) packet rest := by
  obtain ⟨blanks, first, others, begun, carries, rfl⟩ := heads
  refine ⟨blanks + 1, first, others, begun, carries, ?_⟩
  simp [List.replicate_succ]

/-- A reader who starts without any text takes a frame line by line. -/
theorem heads_iff {input packet rest : Bytes} :
    Heads input packet rest ↔
      ∃ text texts, Carries (text :: texts) packet ∧
        input = linesAfter [] (text :: texts) ++ rest := by
  constructor
  · rintro ⟨blanks, first, others, begun, carries, rfl⟩
    rw [← linesAfter_nil_cons begun]
    induction blanks with
    | zero => exact ⟨first, others, carries, rfl⟩
    | succ blanks ih =>
        obtain ⟨text, texts, later, inputEq⟩ := ih
        refine ⟨[], text :: texts, carries_cons_cons.mpr ⟨pending_nil, later⟩, ?_⟩
        rw [linesAfter_blank, List.append_assoc (line startMarker []), ← inputEq,
          List.replicate_succ, List.flatten_cons]
        simp only [List.append_assoc]
  · rintro ⟨text, texts, carries, rfl⟩
    -- a text that is empty makes one more blank line, any other begins the frame
    induction texts generalizing text with
    | nil =>
        obtain ⟨content, rfl, wraps⟩ := carries_singleton.mp carries
        have begun : Base64.encode content ≠ [] := by
          apply List.ne_nil_of_length_pos
          rw [Base64.length_encode, wraps.length_eq]
          omega
        exact ⟨0, _, [], begun, carries, by rw [linesAfter_nil_cons begun]; rfl⟩
    | cons next texts ih =>
        by_cases blank : text = []
        · rw [blank] at carries ⊢
          rw [linesAfter_blank, List.append_assoc]
          exact (ih next (carries_cons_cons.mp carries).2).blank
        · exact ⟨0, text, next :: texts, blank, carries, by rw [linesAfter_nil_cons blank]; rfl⟩

/-- A reader accepts the packet of a frame in front of its input, takes that frame, and accepts
nothing else. -/
theorem receive_eq_ok_iff (ending : Error) {input packet rest : Bytes} :
    receive ending input = (.ok packet, rest) ↔ Heads input packet rest := by
  rw [heads_iff, receive]
  exact receiveAfter_eq_ok_iff

section Indexing

/-- The length that the first two bytes announce, if they are there. -/
def announced? (content : Bytes) : Option Nat :=
  (content.range? 0 2).map Bytes.toNat

/-- The packet in the content of a frame, taken out by indexes that are checked. -/
def packetOf? (content : Bytes) : Option (Except Error Bytes) := do
  let length ← announced? content
  let stop ← Size.sub? content.length 2
  if length ≠ stop ∨ length < 2 then
    return .error (.malformedResponse .frameLength)
  let packet ← content.range? 2 stop
  let checksum ← content.range? stop content.length
  if Bytes.toNat checksum ≠ (Crc16.ofBytes packet).toNat then
    return .error (.malformedResponse .checksum)
  return .ok packet

/-- What a reader expects: the length that it remembers, or else the one that is announced. -/
def latch? (expected : Nat) (content : Bytes) : Option Nat :=
  if expected = 0 then announced? content else some expected

/-- Reads lines until there are as many bytes as the first two announced when they were there. -/
def receiveAfter? (ending : Error) (expected : Nat) (text input : Bytes) : Option (Read Bytes) :=
  match _line : readLine ending (if text = [] then startMarker else continuationMarker) input with
  | (.error failure, rest) => some (.error failure, rest)
  | (.ok line, rest) =>
      match Base64.decode? (text ++ line) with
      | none => some (.error (.malformedResponse .badBase64), rest)
      | some content =>
          if content.length < 2 then receiveAfter? ending expected (text ++ line) rest
          else do
            let expected ← latch? expected content
            let body ← Size.sub? content.length 2
            if expected ≤ body then (packetOf? content).map (·, rest)
            else receiveAfter? ending expected (text ++ line) rest
termination_by input.length
decreasing_by all_goals exact length_readLine_lt _line

theorem announced?_of_le {content : Bytes} (two : 2 ≤ content.length) :
    announced? content = some (announced content) := by
  rw [announced?, Bytes.range?_of_le (Nat.zero_le 2) two]
  rfl

/-- No index is outside of the content once there are two bytes. -/
theorem packetOf?_of_le {content : Bytes} (two : 2 ≤ content.length) :
    packetOf? content = some (packetOf content) := by
  rw [packetOf?, announced?_of_le two, Size.sub?_of_le two, packetOf]
  simp only [Option.bind_eq_bind, Option.bind_some]
  split
  · rfl
  · rename_i fitting
    have packetEq : content.length - 2 - 2 = content.length - 4 := by omega
    have checksumEq : content.slice (content.length - 2) (content.length - (content.length - 2)) =
        content.drop (content.length - 2) := by
      rw [Bytes.slice, List.take_of_length_le (by rw [List.length_drop])]
    rw [Bytes.range?_of_le (by omega) (by omega), Bytes.range?_of_le (by omega) le_rfl, packetEq,
      checksumEq]
    simp only [Option.bind_some]
    split <;> rfl

/-- A length that a reader remembers: none, or the one in front of the bytes read so far. -/
def Latched (expected : Nat) (text : Bytes) : Prop :=
  expected = 0 ∨
    ∃ content, text = Base64.encode content ∧ 2 ≤ content.length ∧ announced content = expected

theorem Latched.announced_eq {expected : Nat} {text line content : Bytes}
    (latched : Latched expected text) (textEq : text ++ line = Base64.encode content)
    (begun : expected ≠ 0) : 2 ≤ content.length ∧ announced content = expected := by
  obtain ⟨part, partEq, two, rfl⟩ := latched.resolve_left begun
  have starts : part <+: content := by
    apply Base64.isPrefix_of_encode_append
    rw [← partEq, textEq]
  exact ⟨two.trans starts.length_le, (announced_of_isPrefix starts two).symm⟩

theorem latch?_of_latched {expected : Nat} {text line content : Bytes}
    (latched : Latched expected text) (textEq : text ++ line = Base64.encode content)
    (two : 2 ≤ content.length) : latch? expected content = some (announced content) := by
  rw [latch?]
  split
  · exact announced?_of_le two
  · rename_i begun
    rw [(latched.announced_eq textEq begun).2]

/-- A reader stays within the bytes that it has. -/
theorem receiveAfter?_eq_some (ending : Error) {expected : Nat} {text : Bytes} (input : Bytes)
    (latched : Latched expected text) :
    receiveAfter? ending expected text input = some (receiveAfter ending text input) := by
  fun_induction receiveAfter ending text input generalizing expected with
  | case1 text input failure rest failed =>
      rw [receiveAfter?]
      split <;> rename_i lineEq <;> cases failed.symm.trans lineEq
      rfl
  | case2 text input line rest lineEq undecoded =>
      rw [receiveAfter?]
      split <;> rename_i otherEq <;> cases lineEq.symm.trans otherEq
      rw [undecoded]
  | case3 text input line rest lineEq content decoded complete =>
      have textEq := Base64.decode?_eq_some_iff.mp decoded
      obtain ⟨two, filled⟩ : 2 ≤ content.length ∧ announced content ≤ content.length - 2 := by
        simpa [isComplete] using complete
      rw [receiveAfter?]
      split <;> rename_i otherEq <;> cases lineEq.symm.trans otherEq
      simp only [decoded, if_neg (Nat.not_lt.mpr two), latch?_of_latched latched textEq two,
        Size.sub?_of_le two, Option.bind_eq_bind, Option.bind_some, if_pos filled,
        packetOf?_of_le two, Option.map_some]
  | case4 text input line rest lineEq content decoded unfinished ih =>
      have textEq := Base64.decode?_eq_some_iff.mp decoded
      rw [receiveAfter?]
      split <;> rename_i otherEq <;> cases lineEq.symm.trans otherEq
      simp only [decoded]
      by_cases two : 2 ≤ content.length
      · have unfilled : ¬ announced content ≤ content.length - 2 := by
          simpa [isComplete, two] using unfinished
        rw [if_neg (Nat.not_lt.mpr two), latch?_of_latched latched textEq two,
          Size.sub?_of_le two]
        simp only [Option.bind_eq_bind, Option.bind_some, if_neg unfilled]
        exact ih (.inr ⟨content, textEq, two, rfl⟩)
      · rw [if_pos (Nat.not_le.mp two)]
        apply ih
        -- bytes that were there do not go away, so nothing was remembered
        by_cases begun : expected = 0
        · exact .inl begun
        · exact absurd (latched.announced_eq textEq begun).1 two

/-- Reads one frame, by indexes that are checked. -/
def receive? (ending : Error) (input : Bytes) : Option (Read Bytes) :=
  receiveAfter? ending 0 [] input

theorem receive?_eq_some (ending : Error) (input : Bytes) :
    receive? ending input = some (receive ending input) :=
  receiveAfter?_eq_some ending input (.inl rfl)

end Indexing

end Frame

namespace Port

variable {σ : Type}

/-- Once the old input is dropped and the request is written, an exchange gives a packet exactly if
the input starts with a frame of it.  That frame is taken and nothing else.  All other input is
refused, and no byte of it is looked for where there is none. -/
theorem transceive_accepts_frames (port : Port σ)
    (keeps : ∀ left state, port.input (port.keep left state) = left) (request : Bytes)
    {state drained after : σ} (emptied : port.drain state = (.ok (), drained))
    (written : port.write request drained = (.ok (), after)) :
    (∀ packet rest, ((port.transceive request state).1 = .ok packet ∧
        port.input (port.transceive request state).2 = rest) ↔
      Frame.Heads (port.input after) packet rest) ∧
    ((¬ ∃ packet rest, Frame.Heads (port.input after) packet rest) →
      ∃ failure, (port.transceive request state).1 = .error failure) ∧
    Frame.receive? (port.ending after) (port.input after) =
      some ((port.transceive request state).1, port.input (port.transceive request state).2) := by
  have exchanged : ((port.transceive request state).1,
      port.input (port.transceive request state).2) =
      Frame.receive (port.ending after) (port.input after) := by
    rw [transceive, emptied]
    simp only [written]
    rw [receive, keeps]
  have accepts : ∀ packet rest, ((port.transceive request state).1 = .ok packet ∧
      port.input (port.transceive request state).2 = rest) ↔
        Frame.Heads (port.input after) packet rest := by
    intro packet rest
    rw [← Frame.receive_eq_ok_iff (port.ending after), ← exchanged, Prod.mk.injEq]
  refine ⟨accepts, ?_, ?_⟩
  · intro refused
    cases result : (port.transceive request state).1 with
    | error failure => exact ⟨failure, rfl⟩
    | ok packet => exact absurd ⟨packet, _, (accepts packet _).mp ⟨result, rfl⟩⟩ refused
  · rw [Frame.receive?_eq_some, exchanged]

/-- An empty line and a frame of two lines arrive at a port with one old byte. -/
theorem transceive_accepts_frames_afterBlankLine :
    ∃ state : Bench.ScriptedPort, state.incoming = [7] ∧
      state.answers = [some [6, 9, 10, 6, 9, 65, 65, 81, 81, 10, 4, 20, 73, 67, 99, 82, 10, 8]] ∧
      (∀ left state, Bench.ScriptedPort.port.input (Bench.ScriptedPort.port.keep left state) =
        left) ∧
      (Bench.ScriptedPort.port.drain state).1 = .ok () ∧
      (Bench.ScriptedPort.port.write [1] (Bench.ScriptedPort.port.drain state).2).1 = .ok () ∧
      (Bench.ScriptedPort.port.transceive [1] state).1 = .ok [16, 32] ∧
      (Bench.ScriptedPort.port.transceive [1] state).2.incoming = [8] := by
  have last : Frame.Carries [[65, 65, 81, 81, 73, 67, 99, 82]] [16, 32] :=
    Frame.carries_singleton.mpr
      ⟨Frame.content [16, 32], by decide +kernel, Frame.wraps_content (by decide)⟩
  have pending : Frame.Pending [65, 65, 81, 81] := ⟨[0, 4, 16], by decide, by decide⟩
  have carries : Frame.Carries [[65, 65, 81, 81], [73, 67, 99, 82]] [16, 32] :=
    Frame.carries_cons_cons.mpr ⟨pending, last⟩
  have heads : Frame.Heads [6, 9, 10, 6, 9, 65, 65, 81, 81, 10, 4, 20, 73, 67, 99, 82, 10, 8]
      [16, 32] [8] :=
    ⟨1, _, _, by decide, carries, by decide⟩
  let state : Bench.ScriptedPort :=
    { incoming := [7]
      answers := [some [6, 9, 10, 6, 9, 65, 65, 81, 81, 10, 4, 20, 73, 67, 99, 82, 10, 8]] }
  have emptied : Bench.ScriptedPort.port.drain state =
      (.ok (), { state with incoming := [] }) := rfl
  have keeps (left : Bytes) (state : Bench.ScriptedPort) :
      Bench.ScriptedPort.port.input (Bench.ScriptedPort.port.keep left state) = left := rfl
  have accepts := transceive_accepts_frames Bench.ScriptedPort.port keeps [1] emptied rfl
  obtain ⟨read, left⟩ := (accepts.1 [16, 32] [8]).mpr heads
  exact ⟨state, rfl, rfl, keeps, rfl, rfl, read, left⟩

end Port

end SmpClient
