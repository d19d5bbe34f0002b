import SmpClient.Cbor.Decode
import SmpClient.Proofs.Bytes
import SmpClient.Proofs.Cbor.Floats

/-!
# Reading back what was written

The shortest head of an item is read back as its argument, and a written value is read back
with its maps in canonical order.  The bound on the work of a reader, twice the number of its
bytes, always suffices for this.  What is not a number has one written form, so only its usual
bits are read back.
-/

namespace SmpClient

namespace Cbor

theorem readNumber_ofNat {width number : Nat} (fits : number < 256 ^ width) (rest : Bytes) :
    readNumber width (Bytes.ofNat width number ++ rest) = .ok (number, rest) := by
  have width_le : ¬ (Bytes.ofNat width number ++ rest).length < width := by simp
  rw [readNumber, if_neg width_le, List.take_left' (Bytes.length_ofNat width number),
    List.drop_left' (Bytes.length_ofNat width number), Bytes.toNat_ofNat_of_lt fits]

theorem readBytes_append (content rest : Bytes) :
    readBytes content.length (content ++ rest) = .ok (content, rest) := by
  simp [readBytes]

/-- A number that was read takes at most eight bytes. -/
theorem readArgument_lt {initial argument : Nat} {input rest : Bytes}
    (read : readArgument initial input = .ok (argument, rest)) : argument < 2 ^ 64 := by
  have readNumber_lt {width : Nat} (width_le : width ≤ 8)
      (read : readNumber width input = .ok (argument, rest)) : argument < 2 ^ 64 := by
    rw [readNumber] at read
    split at read
    · cases read
    · cases read
      have short : (input.take width).length ≤ 8 := by
        rw [List.length_take]
        omega
      calc
        Bytes.toNat (input.take width) < 256 ^ (input.take width).length := Bytes.toNat_lt _
        _ ≤ 256 ^ 8 := Nat.pow_le_pow_right (by decide) short
        _ = 2 ^ 64 := by decide
  unfold readArgument at read
  split at read
  · exact readNumber_lt (by decide) read
  · exact readNumber_lt (by decide) read
  · exact readNumber_lt (by decide) read
  · exact readNumber_lt (by decide) read
  · split at read
    · cases read
      omega
    · cases read

private theorem toNat_initial {major low : Nat} (major_lt : major < 8) (low_lt : low < 32) :
    (UInt8.ofNat (major * 32 + low)).toNat = major * 32 + low := by
  rw [UInt8.toNat_ofNat']
  omega

/-- The head of an item is an initial byte with its major type, and the argument is read back
from what follows. -/
theorem readArgument_head {major argument : Nat} (major_lt : major < 8)
    (fits : argument < 2 ^ 64) :
    ∃ initial after, head major argument = initial :: after ∧ initial.toNat / 32 = major ∧
      initial.toNat % 32 ≠ 31 ∧
      ∀ rest, readArgument initial.toNat (after ++ rest) = .ok (argument, rest) := by
  have wide {low width : Nat} (low_lt : low < 31) (argument_lt : argument < 256 ^ width)
      (reads : ∀ initial input, initial % 32 = low →
        readArgument initial input = readNumber width input) :
      ∃ initial after,
        UInt8.ofNat (major * 32 + low) :: Bytes.ofNat width argument = initial :: after ∧
        initial.toNat / 32 = major ∧ initial.toNat % 32 ≠ 31 ∧
        ∀ rest, readArgument initial.toNat (after ++ rest) = .ok (argument, rest) := by
    have initialEq := toNat_initial major_lt (by omega : low < 32)
    refine ⟨_, _, rfl, by omega, by omega, ?_⟩
    intro rest
    rw [reads _ _ (by omega), readNumber_ofNat argument_lt]
  unfold head
  split
  · rename_i small
    have initialEq := toNat_initial major_lt (by omega : argument < 32)
    refine ⟨_, [], rfl, by omega, by omega, ?_⟩
    intro rest
    have low : (major * 32 + argument) % 32 = argument := by omega
    rw [initialEq, readArgument, low]
    split <;> simp_all
  split
  · exact wide (by decide) (by omega) fun _ _ low => by simp only [readArgument, low]
  split
  · exact wide (by decide) (by omega) fun _ _ low => by simp only [readArgument, low]
  split
  · exact wide (by decide) (by omega) fun _ _ low => by simp only [readArgument, low]
  · exact wide (by decide) (by omega) fun _ _ low => by simp only [readArgument, low]

theorem readString_head {major : Nat} (major_lt : major < 8) {content : Bytes}
    (fits : content.length < 2 ^ 64) :
    ∃ initial after, head major content.length = initial :: after ∧
      initial.toNat / 32 = major ∧
      ∀ rest, readString major initial.toNat (after ++ (content ++ rest)) =
        .ok (content, rest) := by
  obtain ⟨initial, after, headEq, majorEq, closed, argument⟩ := readArgument_head major_lt fits
  refine ⟨initial, after, headEq, majorEq, ?_⟩
  intro rest
  rw [readString, if_neg closed, argument]
  exact readBytes_append content rest

namespace Value

mutual

/-- Whether a value is read back from its bytes: its numbers fit 64 bits, what is not a number
has its usual bits, and no more than `depth` arrays and maps enclose each other. -/
def Readable : (depth : Nat) → Value → Prop
  | _, .null | _, .bool _ => True
  | _, .float bits => isNaN bits → bits = quietNaN
  | _, .int (.ofNat number) | _, .int (.negSucc number) => number < 2 ^ 64
  | _, .bytes content => content.length < 2 ^ 64
  | _, .text content => (Bytes.ofText content).length < 2 ^ 64
  | 0, .array _ | 0, .map _ => False
  | depth + 1, .array items => items.length < 2 ^ 64 ∧ ItemsReadable depth items
  | depth + 1, .map entries => entries.length < 2 ^ 64 ∧ EntriesReadable depth entries

/-- Whether all items are read back. -/
def ItemsReadable (depth : Nat) : List Value → Prop
  | [] => True
  | item :: rest => Readable depth item ∧ ItemsReadable depth rest

/-- Whether all keys and values are read back. -/
def EntriesReadable (depth : Nat) : List (Value × Value) → Prop
  | [] => True
  | (key, value) :: rest =>
      Readable depth key ∧ Readable depth value ∧ EntriesReadable depth rest

end

mutual

/-- Whether a value is read back can be told from the value. -/
def decidableReadable : (depth : Nat) → (value : Value) → Decidable (value.Readable depth)
  | _, .null | _, .bool _ => .isTrue trivial
  | _, .float bits => inferInstanceAs (Decidable (isNaN bits → bits = quietNaN))
  | _, .int (.ofNat number) | _, .int (.negSucc number) =>
      inferInstanceAs (Decidable (number < 2 ^ 64))
  | _, .bytes content => inferInstanceAs (Decidable (content.length < 2 ^ 64))
  | _, .text content => inferInstanceAs (Decidable ((Bytes.ofText content).length < 2 ^ 64))
  | 0, .array _ | 0, .map _ => .isFalse id
  | depth + 1, .array items =>
      have := decidableItemsReadable depth items
      inferInstanceAs (Decidable (items.length < 2 ^ 64 ∧ ItemsReadable depth items))
  | depth + 1, .map entries =>
      have := decidableEntriesReadable depth entries
      inferInstanceAs (Decidable (entries.length < 2 ^ 64 ∧ EntriesReadable depth entries))

def decidableItemsReadable (depth : Nat) :
    (items : List Value) → Decidable (ItemsReadable depth items)
  | [] => .isTrue trivial
  | item :: rest =>
      have := decidableReadable depth item
      have := decidableItemsReadable depth rest
      inferInstanceAs (Decidable (Readable depth item ∧ ItemsReadable depth rest))

def decidableEntriesReadable (depth : Nat) :
    (entries : List (Value × Value)) → Decidable (EntriesReadable depth entries)
  | [] => .isTrue trivial
  | (key, value) :: rest =>
      have := decidableReadable depth key
      have := decidableReadable depth value
      have := decidableEntriesReadable depth rest
      inferInstanceAs
        (Decidable (Readable depth key ∧ Readable depth value ∧ EntriesReadable depth rest))

end

instance (depth : Nat) (value : Value) : Decidable (value.Readable depth) :=
  decidableReadable depth value

theorem encode_length_pos (value : Value) : 0 < value.encode.length := by
  have head_pos (major argument : Nat) : 0 < (head major argument).length := by
    rw [length_head, headLength]
    repeat' split
    all_goals decide
  cases value with
  | null => simp [encode]
  | bool truth => cases truth <;> simp [encode]
  | int number => cases number <;> exact head_pos _ _
  | float bits =>
      simp only [encode, encodeFloat]
      repeat' split
      all_goals simp
  | bytes content =>
      have := head_pos 2 content.length
      rw [encode, List.length_append]
      omega
  | text content =>
      have := head_pos 3 (Bytes.ofText content).length
      rw [encode, List.length_append]
      omega
  | array items =>
      have := head_pos 4 items.length
      rw [encode, List.length_append]
      omega
  | map entries =>
      have := head_pos 5 entries.length
      rw [encode, List.length_append]
      omega

end Value

/-- A text is read back by one step of work. -/
theorem readItem_text {content : String} (fits : (Bytes.ofText content).length < 2 ^ 64)
    (fuel depth : Nat) (rest : Bytes) :
    readItem (fuel + 1) depth ((Value.text content).encode ++ rest) =
      .ok (.text content, rest) := by
  obtain ⟨initial, after, headEq, majorEq, string⟩ :=
    readString_head (by decide : 3 < 8) fits
  simp only [Value.encode, headEq, List.cons_append, List.append_assoc, readItem, majorEq,
    string]
  simp [textValue, bind, Except.bind, pure, Except.pure]

private theorem readItem_half {short : Nat} (fits : short < 256 ^ 2) (fuel depth : Nat)
    (rest : Bytes) :
    readItem (fuel + 1) depth (0xf9 :: (Bytes.ofNat 2 short ++ rest)) =
      .ok (.float (FloatFormat.half.widen short), rest) := by
  simp [readItem, readSimple, readNumber_ofNat fits, bind, Except.bind, pure, Except.pure]

/-- A number keeps its value in whatever format it is written. -/
theorem readItem_encodeFloat {bits : UInt64} (usual : isNaN bits → bits = quietNaN)
    (fuel depth : Nat) (rest : Bytes) :
    readItem (fuel + 1) depth (encodeFloat bits ++ rest) = .ok (.float bits, rest) := by
  rw [encodeFloat]
  split
  next missing =>
    have widened : FloatFormat.half.widen 0x7e00 = quietNaN := by decide +kernel
    rw [usual missing, ← widened]
    have fits : 0x7e00 < 256 ^ 2 := by decide
    exact readItem_half fits fuel depth rest
  split
  next short held =>
    obtain ⟨fits, widened⟩ := FloatFormat.narrow_half.widen_narrow? held
    rw [← widened]
    exact readItem_half fits fuel depth rest
  split
  next short held =>
    obtain ⟨fits, widened⟩ := FloatFormat.narrow_single.widen_narrow? held
    rw [← widened]
    have number : readNumber 4 (Bytes.ofNat 4 short ++ rest) = .ok (short, rest) :=
      readNumber_ofNat fits rest
    simp [readItem, readSimple, number, bind, Except.bind, pure, Except.pure]
  · have number : readNumber 8 (Bytes.ofNat 8 bits.toNat ++ rest) = .ok (bits.toNat, rest) :=
      readNumber_ofNat bits.toNat_lt rest
    simp [readItem, readSimple, number, bind, Except.bind, pure, Except.pure]

mutual

/-- A written value is read back in canonical form, whatever follows it. -/
theorem readItem_encode (value : Value) (depth fuel : Nat) (rest : Bytes)
    (readable : value.Readable depth) (enough : 2 * value.encode.length ≤ fuel + 1) :
    readItem fuel depth (value.encode ++ rest) = .ok (value.canonical, rest) := by
  have written := value.encode_length_pos
  obtain _ | fuel := fuel
  · omega
  cases value with
  | null => simp [Value.encode, readItem, readSimple, Value.canonical]
  | bool truth => cases truth <;> simp [Value.encode, readItem, readSimple, Value.canonical]
  | float bits => exact readItem_encodeFloat readable fuel depth rest
  | int number =>
      cases number with
      | ofNat number =>
          obtain ⟨initial, after, headEq, majorEq, -, argument⟩ :=
            readArgument_head (by decide : 0 < 8) (by simpa [Value.Readable] using readable)
          simp only [Value.encode, headEq, List.cons_append, readItem, majorEq, argument]
          rfl
      | negSucc number =>
          obtain ⟨initial, after, headEq, majorEq, -, argument⟩ :=
            readArgument_head (by decide : 1 < 8) (by simpa [Value.Readable] using readable)
          simp only [Value.encode, headEq, List.cons_append, readItem, majorEq, argument]
          rfl
  | bytes content =>
      obtain ⟨initial, after, headEq, majorEq, string⟩ :=
        readString_head (by decide : 2 < 8) (by simpa [Value.Readable] using readable)
      simp only [Value.encode, headEq, List.cons_append, List.append_assoc, readItem, majorEq,
        string]
      rfl
  | text content =>
      have fits : (Bytes.ofText content).length < 2 ^ 64 := by
        simpa [Value.Readable] using readable
      exact readItem_text fits fuel depth rest
  | array items =>
      obtain _ | depth := depth
      · simp [Value.Readable] at readable
      obtain ⟨count, itemsReadable⟩ := by simpa only [Value.Readable] using readable
      obtain ⟨initial, after, headEq, majorEq, closed, argument⟩ :=
        readArgument_head (by decide : 4 < 8) count
      have itemsEnough : 2 * (Value.encodeItems items).length ≤ fuel := by
        rw [Value.encode, headEq, List.length_append, List.length_cons] at enough
        omega
      simp only [Value.encode, headEq, List.cons_append, List.append_assoc, readItem, majorEq,
        if_neg closed, argument]
      exact readItems_encode items depth fuel [] rest itemsReadable itemsEnough
  | map entries =>
      obtain _ | depth := depth
      · simp [Value.Readable] at readable
      obtain ⟨count, entriesReadable⟩ := by simpa only [Value.Readable] using readable
      obtain ⟨initial, after, headEq, majorEq, closed, argument⟩ :=
        readArgument_head (by decide : 5 < 8) count
      have entriesEnough : 2 * (Value.encodeEntries entries).length ≤ fuel := by
        rw [Value.encode, headEq, List.length_append, List.length_cons] at enough
        omega
      simp only [Value.encode, headEq, List.cons_append, List.append_assoc, readItem, majorEq,
        if_neg closed, argument]
      exact readEntries_encode entries depth fuel [] rest entriesReadable entriesEnough

theorem readItems_encode (items : List Value) (depth fuel : Nat) (before : List Value)
    (rest : Bytes) (readable : Value.ItemsReadable depth items)
    (enough : 2 * (Value.encodeItems items).length ≤ fuel) :
    readItems fuel depth items.length before (Value.encodeItems items ++ rest) =
      .ok (.array (before.reverse ++ Value.canonicalItems items), rest) := by
  cases items with
  | nil => simp [readItems, Value.encodeItems, Value.canonicalItems]
  | cons item items =>
      have written := item.encode_length_pos
      rw [Value.encodeItems, List.length_append] at enough
      obtain ⟨itemReadable, restReadable⟩ := by
        simpa only [Value.ItemsReadable] using readable
      obtain _ | fuel := fuel
      · omega
      have first := readItem_encode item depth fuel (Value.encodeItems items ++ rest)
        itemReadable (by omega)
      have others := readItems_encode items depth fuel (item.canonical :: before) rest
        restReadable (by omega)
      simp only [Value.encodeItems, List.length_cons, List.append_assoc, readItems, first,
        others]
      simp [Value.canonicalItems]

theorem readEntries_encode (entries : List (Value × Value)) (depth fuel : Nat)
    (before : List (Value × Value)) (rest : Bytes)
    (readable : Value.EntriesReadable depth entries)
    (enough : 2 * (Value.encodeEntries entries).length ≤ fuel) :
    readEntries fuel depth entries.length before (Value.encodeEntries entries ++ rest) =
      .ok (.map ((Value.canonicalEntries entries).foldl
        (fun sorted entry => Value.insertEntry entry.1 entry.2 sorted) before), rest) := by
  cases entries with
  | nil => simp [readEntries, Value.encodeEntries, Value.canonicalEntries]
  | cons entry entries =>
      obtain ⟨key, value⟩ := entry
      have keyWritten := key.encode_length_pos
      have valueWritten := value.encode_length_pos
      rw [Value.encodeEntries, List.length_append, List.length_append] at enough
      obtain ⟨keyReadable, valueReadable, restReadable⟩ := by
        simpa only [Value.EntriesReadable] using readable
      obtain _ | fuel := fuel
      · omega
      have readKey := readItem_encode key depth fuel
        (value.encode ++ (Value.encodeEntries entries ++ rest)) keyReadable (by omega)
      have readValue := readItem_encode value depth fuel
        (Value.encodeEntries entries ++ rest) valueReadable (by omega)
      have others := readEntries_encode entries depth fuel
        (Value.insertEntry key.canonical value.canonical before) rest restReadable (by omega)
      simp only [Value.encodeEntries, List.length_cons, List.append_assoc, readEntries, readKey,
        readValue, others]
      simp [Value.canonicalEntries]

end

/-- A whole written value is decoded to its canonical form. -/
theorem Value.decode_encode {value : Value} (readable : value.Readable maximumDepth) :
    Value.decode value.encode = .ok value.canonical := by
  have read := readItem_encode value maximumDepth (2 * value.encode.length + 2) [] readable
    (by omega)
  rw [List.append_nil] at read
  rw [Value.decode, read]

end Cbor

end SmpClient
