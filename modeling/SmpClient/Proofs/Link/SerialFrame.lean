import SmpClient.Bench.Port
import SmpClient.Proofs.Bytes
import SmpClient.Proofs.Link.Base64

/-!
# Frames read back

A reader makes out the text again after every line.  A frame is therefore read back exactly if no
line before the last one ends inside a group of four characters, which is so if the line length is
a multiple of four and if the text stands on one line.  From any other frame the reader takes the
first line and fails.
-/

namespace SmpClient

namespace Frame

variable {packet : Bytes}

section Lines

theorem expect_append (ending : Error) (expected rest : Bytes) :
    expect ending expected (expected ++ rest) = (.ok (), rest) := by
  induction expected with
  | nil => rfl
  | cons byte expected ih => rw [List.cons_append, expect, if_pos rfl, ih]

theorem readText_append (ending : Error) {text : Bytes} (plain : newline ∉ text) (rest : Bytes) :
    readText ending (text ++ newline :: rest) = (.ok text, rest) := by
  induction text with
  | nil => rw [List.nil_append, readText, if_pos rfl]
  | cons byte text ih =>
      rw [List.mem_cons, not_or] at plain
      rw [List.cons_append, readText, if_neg (Ne.symm plain.1), ih plain.2]
      rfl

theorem readLine_append (ending : Error) (marker : Bytes) {text : Bytes} (plain : newline ∉ text)
    (rest : Bytes) :
    readLine ending marker (marker ++ text ++ [newline] ++ rest) = (.ok text, rest) := by
  have inputEq : marker ++ text ++ [newline] ++ rest = marker ++ (text ++ newline :: rest) := by
    simp
  rw [inputEq, readLine, expect_append]
  exact readText_append ending plain rest

/-- What a reader does with one more line after the text `before`. -/
theorem receiveAfter_line (ending : Error) (before : Bytes) {line : Bytes} (plain : newline ∉ line)
    (rest : Bytes) :
    receiveAfter ending before ((if before = [] then startMarker else continuationMarker) ++ line ++
        [newline] ++ rest) =
      match Base64.decode? (before ++ line) with
      | none => (.error (.malformedResponse .badBase64), rest)
      | some content =>
          if isComplete content then (packetOf content, rest)
          else receiveAfter ending (before ++ line) rest := by
  have read := readLine_append ending
    (if before = [] then startMarker else continuationMarker) plain rest
  rw [receiveAfter]
  split
  · rename_i failed
    rw [read] at failed
    cases failed
  · rename_i found
    rw [read] at found
    cases found
    rfl

theorem lines_of_ne_nil {width : Nat} (wide : width ≠ 0) {text : Bytes} (present : text ≠ [])
    (marker : Bytes) :
    lines width marker text = (marker ++ text.take width ++ [newline]) ::
      lines width continuationMarker (text.drop width) := by
  rw [lines, if_neg (by simp [wide, present])]

@[simp]
theorem lines_nil (width : Nat) (marker : Bytes) : lines width marker [] = [] := by
  rw [lines, if_pos (Or.inr rfl)]

end Lines

section Content

@[simp]
theorem length_content (packet : Bytes) : (content packet).length = packet.length + 4 := by
  simp only [content, List.length_append, Bytes.length_ofNat]
  omega

theorem announced_take_content (short : packet.length ≤ 65533) {count : Nat} (two : 2 ≤ count) :
    announced ((content packet).take count) = packet.length + 2 := by
  have headEq : ((content packet).take count).take 2 = Bytes.ofNat 2 (packet.length + 2) := by
    rw [List.take_take, Nat.min_eq_left two, content, List.append_assoc]
    exact List.take_left' (Bytes.length_ofNat 2 _)
  rw [announced, headEq]
  apply Bytes.toNat_ofNat_of_lt
  omega

/-- The first bytes of a content are complete when they are all of it. -/
theorem isComplete_take_content (short : packet.length ≤ 65533) {count : Nat} (two : 2 ≤ count) :
    isComplete ((content packet).take count) = true ↔ packet.length + 4 ≤ count := by
  rw [isComplete, announced_take_content short two]
  simp only [List.length_take, length_content, Bool.and_eq_true, decide_eq_true_eq]
  omega

theorem packetOf_content (short : packet.length ≤ 65533) :
    packetOf (content packet) = .ok packet := by
  have lengthEq : announced (content packet) = packet.length + 2 := by
    have taken := announced_take_content short (show 2 ≤ packet.length + 4 by omega)
    rwa [List.take_of_length_le (by simp)] at taken
  have packetEq : (content packet).slice 2 packet.length = packet := by
    rw [Bytes.slice, content, List.append_assoc, List.drop_left' (Bytes.length_ofNat 2 _)]
    exact List.take_left' rfl
  have checksumEq : (content packet).drop (packet.length + 2) =
      Bytes.ofNat 2 (Crc16.ofBytes packet).toNat := by
    apply List.drop_left'
    rw [List.length_append, Bytes.length_ofNat, Nat.add_comm]
  have checksum_lt : (Crc16.ofBytes packet).toNat < 256 ^ 2 := (Crc16.ofBytes packet).toNat_lt
  rw [packetOf, if_neg (by rw [lengthEq, length_content]; omega), length_content,
    Nat.add_sub_cancel, show packet.length + 4 - 2 = packet.length + 2 by omega, packetEq,
    checksumEq, Bytes.toNat_ofNat_of_lt checksum_lt]
  simp

end Content

/-- The characters that stand for a packet. -/
def text (packet : Bytes) : Bytes :=
  Base64.encode (content packet)

@[simp]
theorem length_text (packet : Bytes) : (text packet).length = 4 * ((packet.length + 6) / 3) := by
  rw [text, Base64.length_encode, length_content]

theorem newline_notMem_text (packet : Bytes) : newline ∉ text packet := by
  intro member
  exact Base64.ne_newline_of_mem_encode member rfl

theorem newline_notMem_slice (packet : Bytes) (offset length : Nat) :
    newline ∉ ((text packet).drop offset).take length := by
  intro member
  exact newline_notMem_text packet (List.mem_of_mem_drop (List.mem_of_mem_take member))

/-- Lines that end between groups are read on until the text is whole. -/
theorem receiveAfter_lines (ending : Error) (short : packet.length ≤ 65533) {width : Nat}
    (wide : width ≠ 0) (between : 4 ∣ width ∨ (text packet).length ≤ width) (rest : Bytes) (read : Nat)
    (aligned : 4 ∣ read) (unread : read < (text packet).length) :
    receiveAfter ending ((text packet).take read)
        ((lines width (if (text packet).take read = [] then startMarker else continuationMarker)
          ((text packet).drop read)).flatten ++ rest) =
      (.ok packet, rest) := by
  -- on the number of characters that are still to be read
  induction left : (text packet).length - read using Nat.strong_induction_on generalizing read with
  | h left ih =>
      subst left
      have more : (text packet).drop read ≠ [] := by
        intro ended
        have := List.drop_eq_nil_iff.mp ended
        omega
      rw [lines_of_ne_nil wide more, List.flatten_cons, List.append_assoc,
        receiveAfter_line ending _ (newline_notMem_slice packet read width), ← List.take_add,
        List.drop_drop]
      by_cases last : (text packet).length ≤ read + width
      · have decoded : Base64.decode? (text packet) = some (content packet) :=
          Base64.decode?_encode (content packet)
        have complete : isComplete (content packet) = true := by
          have taken :=
            (isComplete_take_content short (show 2 ≤ packet.length + 4 by omega)).mpr le_rfl
          rwa [List.take_of_length_le (by simp)] at taken
        rw [List.take_of_length_le last, decoded, List.drop_of_length_le last, lines_nil]
        simp [complete, packetOf_content short]
      · obtain ⟨groups, groupsEq⟩ : 4 ∣ read + width :=
          Nat.dvd_add aligned (between.resolve_right (by omega))
        have decoded : Base64.decode? ((text packet).take (read + width)) =
            some ((content packet).take (3 * groups)) := by
          rw [groupsEq, text, Base64.take_encode, Base64.decode?_encode]
        have incomplete : ¬ isComplete ((content packet).take (3 * groups)) = true := by
          rw [length_text] at last
          rw [isComplete_take_content short (by omega)]
          omega
        have begun : ((text packet).take (read + width)) ≠ [] := by
          intro empty
          have := congrArg List.length empty
          rw [List.length_take, List.length_nil] at this
          omega
        have later := ih _ (by omega) (read + width) ⟨groups, groupsEq⟩ (by omega) rfl
        rw [if_neg begun] at later
        simp only [decoded, if_neg incomplete]
        exact later

/-- A first line that ends inside a group is refused, and the lines after it are left. -/
theorem receiveAfter_cut (ending : Error) {width : Nat} (cut : ¬ 4 ∣ width)
    (more : width < (text packet).length) (rest : Bytes) :
    receiveAfter ending [] ((lines width startMarker (text packet)).flatten ++ rest) =
      (.error (.malformedResponse .badBase64),
        (lines width continuationMarker ((text packet).drop width)).flatten ++ rest) := by
  have wide : width ≠ 0 := by
    rintro rfl
    exact cut (Nat.dvd_zero 4)
  have begun : text packet ≠ [] := by
    intro empty
    rw [empty] at more
    cases more
  have line := receiveAfter_line ending [] (newline_notMem_slice packet 0 width)
    ((lines width continuationMarker ((text packet).drop width)).flatten ++ rest)
  have undecoded : Base64.decode? ((text packet).take width) = none := by
    rw [Option.eq_none_iff_forall_ne_some]
    intro bytes decoded
    have groups := Base64.dvd_length_of_decode? decoded
    rw [List.length_take, Nat.min_eq_left (Nat.le_of_lt more)] at groups
    exact cut groups
  rw [if_pos rfl, List.drop_zero, List.nil_append, undecoded] at line
  rw [lines_of_ne_nil wide begun, List.flatten_cons, List.append_assoc]
  exact line

/-- A frame is read back, with nothing after it touched, if its lines end between groups; if one
does not, the first line is taken and refused. -/
theorem receive_encode {lineLength : Nat} {frame : Bytes}
    (encoded : encode lineLength packet = .ok frame) (short : packet.length ≤ 65533)
    (ending : Error) (rest : Bytes) :
    receive ending (frame ++ rest) =
      if 4 ∣ lineLength ∨ (text packet).length + 4 ≤ lineLength then (.ok packet, rest)
      else (.error (.malformedResponse .badBase64), frame.drop (lineLength - 1) ++ rest) := by
  rw [encode] at encoded
  split at encoded
  · cases encoded
  · rename_i room
    have frameEq : frame = (lines (lineLength - 4) startMarker (text packet)).flatten :=
      (Except.ok.inj encoded).symm
    have present : 0 < (text packet).length := by
      rw [length_text]
      omega
    rw [receive, frameEq]
    split
    · rename_i between
      have wide : lineLength - 4 ≠ 0 := by omega
      have later := receiveAfter_lines ending short wide (by omega) rest 0 (Nat.dvd_zero 4) present
      rwa [List.take_zero, if_pos rfl, List.drop_zero] at later
    · rename_i cut
      have firstLength : (startMarker ++ (text packet).take (lineLength - 4) ++ [newline]).length =
          lineLength - 1 := by
        simp only [List.length_append, List.length_take, startMarker, List.length_cons,
          List.length_nil]
        omega
      rw [receiveAfter_cut ending (by omega) (by omega), lines_of_ne_nil (by omega)
        (List.length_pos_iff.mp present), List.flatten_cons, List.drop_left' firstLength]

end Frame

namespace Port

variable {σ : Type}

/-- An exchange drops what is waiting and reads back a frame that comes in, up to its end, exactly
if the lines of the frame end between groups of four characters. -/
theorem transceive_encode (port : Port σ)
    (keeps : ∀ left state, port.input (port.keep left state) = left)
    {lineLength : Nat} {packet frame : Bytes}
    (encoded : Frame.encode lineLength packet = .ok frame) (short : packet.length ≤ 65533)
    (request : Bytes) {stale arrived rest : Bytes} {state after : σ}
    (waiting : port.waiting state = .ok stale.length)
    (input : port.input state = stale ++ arrived)
    (written : port.write request (port.keep arrived state) = (.ok (), after))
    (further : port.input after = frame ++ rest) :
    ((port.transceive request state).1, port.input (port.transceive request state).2) =
      if 4 ∣ lineLength ∨ (Frame.text packet).length + 4 ≤ lineLength then (.ok packet, rest)
      else (.error (.malformedResponse .badBase64), frame.drop (lineLength - 1) ++ rest) := by
  have drained : port.drain state = (.ok (), port.keep arrived state) := by
    rw [drain, waiting]
    simp [input]
  have read := Frame.receive_encode encoded short (port.ending after) rest
  have exchanged : port.transceive request state =
      ((Frame.receive (port.ending after) (frame ++ rest)).1,
        port.keep (Frame.receive (port.ending after) (frame ++ rest)).2 after) := by
    rw [transceive, drained]
    simp only [written]
    rw [receive, further]
  rw [exchanged, keeps, read]

/-- Lines of eight columns hold four characters each. -/
theorem transceive_encode_eightColumns :
    Frame.encode 8 [16, 32] =
        .ok [6, 9, 65, 65, 81, 81, 10, 4, 20, 73, 67, 99, 82, 10] ∧
      ((Bench.ScriptedPort.port.transceive [1]
          { incoming := [7]
            answers := [some [6, 9, 65, 65, 81, 81, 10, 4, 20, 73, 67, 99, 82, 10, 8]] }).1,
        (Bench.ScriptedPort.port.transceive [1]
          { incoming := [7]
            answers := [some [6, 9, 65, 65, 81, 81, 10, 4, 20, 73, 67, 99, 82, 10, 8]] }).2.incoming) =
        (.ok [16, 32], [8]) := by
  have textEq : Base64.encode (Frame.content [16, 32]) = [65, 65, 81, 81, 73, 67, 99, 82] := by
    decide +kernel
  have encoded : Frame.encode 8 [16, 32] =
      .ok [6, 9, 65, 65, 81, 81, 10, 4, 20, 73, 67, 99, 82, 10] := by
    simp [Frame.encode, textEq, Frame.lines_of_ne_nil, Frame.startMarker,
      Frame.continuationMarker, Frame.newline]
  constructor
  · exact encoded
  · have waiting : Bench.ScriptedPort.port.waiting
        { incoming := [7]
          answers := [some [6, 9, 65, 65, 81, 81, 10, 4, 20, 73, 67, 99, 82, 10, 8]] } =
        .ok ([7] : Bytes).length := rfl
    have input : ([7] : Bytes) = [7] ++ [] := rfl
    have further : ([6, 9, 65, 65, 81, 81, 10, 4, 20, 73, 67, 99, 82, 10, 8] : Bytes) =
        [6, 9, 65, 65, 81, 81, 10, 4, 20, 73, 67, 99, 82, 10] ++ [8] := rfl
    have read := transceive_encode Bench.ScriptedPort.port (fun _ _ => rfl) encoded (by decide)
      [1] waiting input rfl further
    rwa [if_pos (Or.inl (by decide))] at read

/-- Lines of ten columns hold six characters each: the first one ends inside a group. -/
theorem refused_of_tenColumns :
    Frame.encode 10 [0, 1, 2, 3, 4, 5, 6, 7] =
        .ok [6, 9, 65, 65, 111, 65, 65, 81, 10, 4, 20, 73, 68, 66, 65, 85, 71, 10,
          4, 20, 66, 121, 97, 122, 10] ∧
      (Bench.ScriptedPort.port.transceive []
        { incoming := [6, 9, 65, 65, 111, 65, 65, 81, 10, 4, 20, 73, 68, 66, 65, 85, 71, 10,
            4, 20, 66, 121, 97, 122, 10]
          reported := some 0 }).1 =
        .error (.malformedResponse .badBase64) := by
  have textEq : Base64.encode (Frame.content [0, 1, 2, 3, 4, 5, 6, 7]) =
      [65, 65, 111, 65, 65, 81, 73, 68, 66, 65, 85, 71, 66, 121, 97, 122] := by
    decide +kernel
  have encoded : Frame.encode 10 [0, 1, 2, 3, 4, 5, 6, 7] =
      .ok [6, 9, 65, 65, 111, 65, 65, 81, 10, 4, 20, 73, 68, 66, 65, 85, 71, 10,
        4, 20, 66, 121, 97, 122, 10] := by
    simp [Frame.encode, textEq, Frame.lines_of_ne_nil, Frame.startMarker,
      Frame.continuationMarker, Frame.newline]
  constructor
  · exact encoded
  · have read := Frame.receive_encode encoded (by decide) .timeout []
    rw [if_neg (by rw [Frame.length_text]; decide), List.append_nil] at read
    exact congrArg Prod.fst read

end Port

end SmpClient
