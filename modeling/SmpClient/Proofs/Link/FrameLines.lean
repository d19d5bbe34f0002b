import SmpClient.Proofs.Link.SerialFrame

/-!
# The lines of a frame

A frame is its text cut into pieces.  Each piece stands on a line of its own, between a marker and a
newline, and all lines but the last are as long as they may be.  Put together again the pieces are
the text, which stands for the packet with its length and its checksum.
-/

namespace SmpClient

namespace Frame

/-- A line with its newline. -/
def line (marker text : Bytes) : Bytes :=
  marker ++ text ++ [newline]

/-- The lines of some texts: the first one has a marker of its own, all others continue it. -/
def marked (marker : Bytes) : List Bytes → List Bytes
  | [] => []
  | first :: rest => line marker first :: rest.map (line continuationMarker)

/-- Bytes that wrap a packet: the length of the packet and of its checksum, the packet, and the
checksum. -/
structure Wraps (content packet : Bytes) : Prop where
  length_eq : content.length = packet.length + 4
  announced_eq : Bytes.toNat (content.take 2) = packet.length + 2
  packet_eq : content.slice 2 packet.length = packet
  checksum_eq : Bytes.toNat (content.drop (packet.length + 2)) = (Crc16.ofBytes packet).toNat

theorem marked_continuation (texts : List Bytes) :
    marked continuationMarker texts = texts.map (line continuationMarker) := by
  cases texts <;> rfl

/-- Texts that a longer one is cut into, of a given width but for the last. -/
structure Cuts (width : Nat) (text : Bytes) (texts : List Bytes) : Prop where
  flatten_eq : texts.flatten = text
  nonempty : ∀ piece ∈ texts, piece ≠ []
  length_le : ∀ piece ∈ texts, piece.length ≤ width
  full : ∀ piece ∈ texts.dropLast, piece.length = width

theorem Cuts.nil (width : Nat) : Cuts width [] [] :=
  ⟨rfl, by simp, by simp, by simp⟩

theorem Cuts.cons {width : Nat} (wide : width ≠ 0) {text : Bytes} (present : text ≠ [])
    {texts : List Bytes} (cuts : Cuts width (text.drop width) texts) :
    Cuts width text (text.take width :: texts) := by
  refine ⟨?_, ?_, ?_, ?_⟩
  · rw [List.flatten_cons, cuts.flatten_eq, List.take_append_drop]
  · refine List.forall_mem_cons.mpr ⟨?_, cuts.nonempty⟩
    simp [List.take_eq_nil_iff, wide, present]
  · exact List.forall_mem_cons.mpr ⟨List.length_take_le _ _, cuts.length_le⟩
  · cases texts with
    | nil => simp
    | cons next rest =>
        have more : text.drop width ≠ [] := by
          intro ended
          have nextEq := List.append_eq_nil_iff.mp (cuts.flatten_eq.trans ended)
          exact cuts.nonempty next List.mem_cons_self nextEq.1
        have long : width < text.length := by
          simpa using more
        rw [List.dropLast_cons_cons]
        refine List.forall_mem_cons.mpr ⟨?_, cuts.full⟩
        rw [List.length_take, Nat.min_eq_left (Nat.le_of_lt long)]

/-- The lines of a text are those of the pieces that it is cut into. -/
theorem exists_cuts {width : Nat} (wide : width ≠ 0) (marker text : Bytes) :
    ∃ texts, Cuts width text texts ∧ lines width marker text = marked marker texts := by
  fun_induction lines width marker text with
  | case1 marker text nothing =>
      obtain rfl := nothing.resolve_left wide
      exact ⟨[], .nil width, rfl⟩
  | case2 marker text something ih =>
      obtain ⟨texts, cuts, linesEq⟩ := ih
      refine ⟨text.take width :: texts, cuts.cons wide fun ended => something (.inr ended), ?_⟩
      rw [linesEq, marked_continuation]
      rfl

theorem wraps_content {packet : Bytes} (short : packet.length ≤ 65533) :
    Wraps (content packet) packet := by
  have checksum_lt : (Crc16.ofBytes packet).toNat < 256 ^ 2 := (Crc16.ofBytes packet).toNat_lt
  refine ⟨length_content packet, ?_, ?_, ?_⟩
  · have taken := announced_take_content short le_rfl
    rwa [announced, List.take_take] at taken
  · rw [Bytes.slice, content, List.append_assoc, List.drop_left' (Bytes.length_ofNat 2 _)]
    exact List.take_left' rfl
  · have headLength : (Bytes.ofNat 2 (packet.length + 2) ++ packet).length = packet.length + 2 := by
      rw [List.length_append, Bytes.length_ofNat, Nat.add_comm]
    rw [content, List.drop_left' headLength, Bytes.toNat_ofNat_of_lt checksum_lt]

/-- A frame has marked lines that are no longer than they may be, each with some text.  The texts
put together are the base64 of what wraps the packet. -/
theorem layout_encode {lineLength : Nat} (wide : 4 < lineLength) {packet : Bytes}
    (short : packet.length ≤ 65533) :
    ∃ texts content, encode lineLength packet = .ok (marked startMarker texts).flatten ∧
      (∀ line ∈ marked startMarker texts, line.length ≤ lineLength - 1) ∧
      (∀ text ∈ texts, text ≠ [] ∧ text.length ≤ lineLength - 4 ∧ newline ∉ text) ∧
      (∀ text ∈ texts.dropLast, text.length = lineLength - 4) ∧
      texts.flatten = Base64.encode content ∧ Wraps content packet := by
  have room : lineLength - 4 ≠ 0 := by omega
  obtain ⟨texts, cuts, linesEq⟩ := exists_cuts room startMarker (text packet)
  have length_line (marker : Bytes) (two : marker.length = 2) :
      ∀ text ∈ texts, (line marker text).length ≤ lineLength - 1 := by
    intro text member
    have := cuts.length_le text member
    rw [line, List.length_append, List.length_append, two, List.length_singleton]
    omega
  refine ⟨texts, content packet, ?_, ?_, ?_, cuts.full, cuts.flatten_eq, wraps_content short⟩
  · rw [← linesEq, encode, if_neg (Nat.not_le.mpr wide), text]
  · cases texts with
    | nil => simp [marked]
    | cons first rest =>
        refine List.forall_mem_cons.mpr ⟨length_line _ rfl first List.mem_cons_self, ?_⟩
        intro marked member
        obtain ⟨text, textMember, rfl⟩ := List.mem_map.mp member
        exact length_line _ rfl text (List.mem_cons_of_mem _ textMember)
  · intro piece member
    refine ⟨cuts.nonempty piece member, cuts.length_le piece member, fun found => ?_⟩
    have among : newline ∈ texts.flatten := List.mem_flatten.mpr ⟨piece, member, found⟩
    rw [cuts.flatten_eq] at among
    exact newline_notMem_text packet among

/-- Lines of five columns hold a single character each. -/
theorem layout_encode_fiveColumns :
    4 < 5 ∧ ([16, 32] : Bytes).length ≤ 65533 ∧
      ∃ texts content, encode 5 [16, 32] = .ok (marked startMarker texts).flatten ∧
        (∀ line ∈ marked startMarker texts, line.length ≤ 4) ∧
        (∀ text ∈ texts, text ≠ [] ∧ text.length ≤ 1 ∧ newline ∉ text) ∧
        (∀ text ∈ texts.dropLast, text.length = 1) ∧
        texts.flatten = Base64.encode content ∧ Wraps content [16, 32] := by
  have wide : 4 < 5 := by decide
  have short : ([16, 32] : Bytes).length ≤ 65533 := by decide
  exact ⟨wide, short, layout_encode wide short⟩

end Frame

end SmpClient
