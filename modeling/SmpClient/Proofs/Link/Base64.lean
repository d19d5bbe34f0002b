import SmpClient.Bytes.Base64

/-!
# Base64 text and the bytes in it

The text of some bytes is read back, whole groups at a time: the first groups of the text are the
text of the first bytes, three for each group.  A text that ends inside a group is refused.  Nothing
is read but texts of bytes, so every byte string has one written form.
-/

namespace SmpClient

namespace Base64

theorem value?_symbol {sextet : Nat} (small : sextet < 64) :
    value? (symbol sextet) = some sextet := by
  have all : ∀ number ∈ List.range 64, value? (symbol number) = some number := by decide
  exact all sextet (List.mem_range.mpr small)

theorem value?_pad : value? pad = none := by decide

theorem symbol_ne_pad {sextet : Nat} (small : sextet < 64) : symbol sextet ≠ pad := by
  intro equal
  have read := value?_symbol small
  rw [equal, value?_pad] at read
  cases read

theorem group?_symbol (first second third : UInt8) :
    group? (symbol (first.toNat / 4)) (symbol (first.toNat % 4 * 16 + second.toNat / 16))
        (symbol (second.toNat % 16 * 4 + third.toNat / 64)) (symbol (third.toNat % 64)) =
      some [first, second, third] := by
  have first_lt := first.toNat_lt
  have second_lt := second.toNat_lt
  have third_lt := third.toNat_lt
  have firstEq : first.toNat / 4 * 4 + (first.toNat % 4 * 16 + second.toNat / 16) / 16 =
      first.toNat := by omega
  have secondEq : (first.toNat % 4 * 16 + second.toNat / 16) % 16 * 16 +
      (second.toNat % 16 * 4 + third.toNat / 64) / 4 = second.toNat := by omega
  have thirdEq : (second.toNat % 16 * 4 + third.toNat / 64) % 4 * 64 + third.toNat % 64 =
      third.toNat := by omega
  rw [group?, value?_symbol (by omega), value?_symbol (by omega), value?_symbol (by omega),
    value?_symbol (by omega)]
  simp only [Option.bind_eq_bind, Option.bind_some, Option.pure_def, firstEq, secondEq, thirdEq,
    UInt8.ofNat_toNat]

theorem lastGroup?_two (first second : UInt8) :
    lastGroup? (symbol (first.toNat / 4)) (symbol (first.toNat % 4 * 16 + second.toNat / 16))
        (symbol (second.toNat % 16 * 4)) pad =
      some [first, second] := by
  have first_lt := first.toNat_lt
  have second_lt := second.toNat_lt
  have firstEq : first.toNat / 4 * 4 + (first.toNat % 4 * 16 + second.toNat / 16) / 16 =
      first.toNat := by omega
  have secondEq : (first.toNat % 4 * 16 + second.toNat / 16) % 16 * 16 +
      second.toNat % 16 * 4 / 4 = second.toNat := by omega
  have clear : second.toNat % 16 * 4 % 4 = 0 := by omega
  rw [lastGroup?, if_neg (by simp), value?_symbol (by omega), value?_symbol (by omega),
    value?_symbol (by omega)]
  simp only [Option.bind_eq_bind, Option.bind_some, if_neg (symbol_ne_pad (by omega :
    second.toNat % 16 * 4 < 64)), if_pos clear, firstEq, secondEq, UInt8.ofNat_toNat]

theorem lastGroup?_one (first : UInt8) :
    lastGroup? (symbol (first.toNat / 4)) (symbol (first.toNat % 4 * 16)) pad pad =
      some [first] := by
  have first_lt := first.toNat_lt
  have firstEq : first.toNat / 4 * 4 + first.toNat % 4 * 16 / 16 = first.toNat := by omega
  have clear : first.toNat % 4 * 16 % 16 = 0 := by omega
  rw [lastGroup?, if_neg (by simp), value?_symbol (by omega), value?_symbol (by omega)]
  simp only [Option.bind_eq_bind, Option.bind_some, if_pos, if_pos clear, firstEq,
    UInt8.ofNat_toNat]

/-- A group that is not padded is read the same way wherever it stands. -/
theorem decode?_cons {first second third fourth : UInt8} (plain : fourth ≠ pad) (text : Bytes) :
    decode? (first :: second :: third :: fourth :: text) = (do
      let bytes ← group? first second third fourth
      let others ← decode? text
      return bytes ++ others) := by
  cases text with
  | nil =>
      have last : decode? [first, second, third, fourth] = group? first second third fourth := by
        rw [decode?, lastGroup?, if_pos plain]
      rw [last, decode?]
      cases group? first second third fourth <;> simp
  | cons next text =>
      rw [decode?]
      simp

/-- The text of some bytes stands for them. -/
@[simp]
theorem decode?_encode (bytes : Bytes) : decode? (encode bytes) = some bytes := by
  fun_induction encode bytes with
  | case1 first second third rest ih =>
      rw [decode?_cons (symbol_ne_pad (by omega)), group?_symbol, ih]
      rfl
  | case2 first second => rw [decode?, lastGroup?_two]
  | case3 first => rw [decode?, lastGroup?_one]
  | case4 => rfl

@[simp]
theorem length_encode (bytes : Bytes) : (encode bytes).length = 4 * ((bytes.length + 2) / 3) := by
  fun_induction encode bytes with
  | case1 first second third rest ih =>
      simp only [List.length_cons, ih]
      omega
  | case2 first second => simp
  | case3 first => simp
  | case4 => rfl

/-- The first groups of the text are the text of the first bytes. -/
theorem take_encode (groups : Nat) (bytes : Bytes) :
    (encode bytes).take (4 * groups) = encode (bytes.take (3 * groups)) := by
  induction groups generalizing bytes with
  | zero => simp [encode]
  | succ groups ih =>
      rw [Nat.mul_succ, Nat.mul_succ]
      match bytes with
      | first :: second :: third :: rest => simp [encode, ih]
      | [first, second] => simp [encode]
      | [first] => simp [encode]
      | [] => simp [encode]

/-- What is read at all is a number of whole groups. -/
theorem dvd_length_of_decode? {text bytes : Bytes} (read : decode? text = some bytes) :
    4 ∣ text.length := by
  fun_induction decode? text generalizing bytes with
  | case1 => simp
  | case2 => simp
  | case3 first second third fourth rest _ ih =>
      cases others : decode? rest with
      | none => simp [others] at read
      | some tail =>
          have := ih others
          simp only [List.length_cons]
          omega
  | case4 => cases read

theorem ne_newline_of_mem_encode {bytes : Bytes} {character : UInt8}
    (member : character ∈ encode bytes) : character ≠ 10 := by
  have plain : ∀ sextet < 64, symbol sextet ≠ 10 := by decide
  have padPlain : pad ≠ 10 := by decide
  fun_induction encode bytes with
  | case1 first second third rest ih =>
      have first_lt := first.toNat_lt
      have second_lt := second.toNat_lt
      have third_lt := third.toNat_lt
      simp only [List.mem_cons] at member
      obtain rfl | rfl | rfl | rfl | later := member
      · exact plain _ (by omega)
      · exact plain _ (by omega)
      · exact plain _ (by omega)
      · exact plain _ (by omega)
      · exact ih later
  | case2 first second =>
      have first_lt := first.toNat_lt
      have second_lt := second.toNat_lt
      simp only [List.mem_cons, List.not_mem_nil, or_false] at member
      obtain rfl | rfl | rfl | rfl := member
      · exact plain _ (by omega)
      · exact plain _ (by omega)
      · exact plain _ (by omega)
      · exact padPlain
  | case3 first =>
      have first_lt := first.toNat_lt
      simp only [List.mem_cons, List.not_mem_nil, or_false, or_self] at member
      obtain rfl | rfl | rfl := member
      · exact plain _ (by omega)
      · exact plain _ (by omega)
      · exact padPlain
  | case4 => cases member

theorem symbol_of_value? {character : UInt8} {sextet : Nat} (read : value? character = some sextet) :
    sextet < 64 ∧ symbol sextet = character := by
  have all : ∀ number ∈ List.range 256, ∀ found ∈ value? (UInt8.ofNat number),
      found < 64 ∧ symbol found = UInt8.ofNat number := by decide +kernel
  have known := all character.toNat (List.mem_range.mpr character.toNat_lt) sextet
  rw [UInt8.ofNat_toNat] at known
  exact known read

/-- Four characters that stand for three bytes are their text, in front of any other text. -/
theorem eq_encode_of_group? {first second third fourth : UInt8} {bytes : Bytes}
    (read : group? first second third fourth = some bytes) (others : Bytes) :
    first :: second :: third :: fourth :: encode others = encode (bytes ++ others) := by
  simp only [group?, Option.bind_eq_bind, Option.bind_eq_some_iff, Option.pure_def,
    Option.some.injEq] at read
  obtain ⟨a, readA, b, readB, c, readC, d, readD, rfl⟩ := read
  obtain ⟨a_lt, rfl⟩ := symbol_of_value? readA
  obtain ⟨b_lt, rfl⟩ := symbol_of_value? readB
  obtain ⟨c_lt, rfl⟩ := symbol_of_value? readC
  obtain ⟨d_lt, rfl⟩ := symbol_of_value? readD
  have firstEq : (a * 4 + b / 16) / 4 = a := by omega
  have secondEq : (a * 4 + b / 16) % 4 * 16 + (b % 16 * 16 + c / 4) / 16 = b := by omega
  have thirdEq : (b % 16 * 16 + c / 4) % 16 * 4 + (c % 4 * 64 + d) / 64 = c := by omega
  have fourthEq : (c % 4 * 64 + d) % 64 = d := by omega
  simp only [List.cons_append, List.nil_append, encode,
    UInt8.toNat_ofNat_of_lt' (by omega : a * 4 + b / 16 < 256),
    UInt8.toNat_ofNat_of_lt' (by omega : b % 16 * 16 + c / 4 < 256),
    UInt8.toNat_ofNat_of_lt' (by omega : c % 4 * 64 + d < 256), firstEq, secondEq, thirdEq, fourthEq]

theorem eq_encode_of_lastGroup? {first second third fourth : UInt8} {bytes : Bytes}
    (read : lastGroup? first second third fourth = some bytes) :
    [first, second, third, fourth] = encode bytes := by
  rw [lastGroup?] at read
  split at read
  · simpa [encode] using eq_encode_of_group? read []
  · rename_i padded
    have fourthEq : fourth = pad := Decidable.not_not.mp padded
    simp only [Option.bind_eq_bind, Option.bind_eq_some_iff] at read
    obtain ⟨a, readA, b, readB, read⟩ := read
    obtain ⟨a_lt, rfl⟩ := symbol_of_value? readA
    obtain ⟨b_lt, rfl⟩ := symbol_of_value? readB
    have byte_lt : a * 4 + b / 16 < 256 := by omega
    have firstEq : (a * 4 + b / 16) / 4 = a := by omega
    split at read
    · rename_i thirdEq
      split at read <;> cases read
      rename_i clear
      have secondEq : (a * 4 + b / 16) % 4 * 16 = b := by omega
      simp only [encode, UInt8.toNat_ofNat_of_lt' byte_lt, firstEq, secondEq, thirdEq, fourthEq]
    · obtain ⟨c, readC, found⟩ := Option.bind_eq_some_iff.mp read
      obtain ⟨c_lt, rfl⟩ := symbol_of_value? readC
      split at found <;> cases found
      rename_i clear
      have secondEq : (a * 4 + b / 16) % 4 * 16 + (b % 16 * 16 + c / 4) / 16 = b := by omega
      have thirdEq : (b % 16 * 16 + c / 4) % 16 * 4 = c := by omega
      simp only [encode, UInt8.toNat_ofNat_of_lt' byte_lt,
        UInt8.toNat_ofNat_of_lt' (by omega : b % 16 * 16 + c / 4 < 256), firstEq, secondEq, thirdEq,
        fourthEq]

/-- Reading accepts exactly the texts of byte strings, and each of them has only one. -/
theorem decode?_eq_some_iff {text bytes : Bytes} :
    decode? text = some bytes ↔ text = encode bytes := by
  constructor
  · intro read
    fun_induction decode? text generalizing bytes with
    | case1 => cases read; rfl
    | case2 first second third fourth => exact eq_encode_of_lastGroup? read
    | case3 first second third fourth rest _ ih =>
        simp only [Option.bind_eq_bind, Option.bind_eq_some_iff, Option.pure_def,
          Option.some.injEq] at read
        obtain ⟨group, groupRead, others, othersRead, rfl⟩ := read
        rw [ih othersRead]
        exact eq_encode_of_group? groupRead others
    | case4 => cases read
  · rintro rfl
    exact decode?_encode bytes

theorem encode_injective : Function.Injective encode := by
  intro first second same
  have read := decode?_encode second
  rw [← same, decode?_encode] at read
  exact Option.some.inj read

/-- A text that starts another one stands for the first bytes of what that one stands for. -/
theorem isPrefix_of_encode_append {first second rest : Bytes}
    (split : encode first ++ rest = encode second) : first <+: second := by
  have taken := take_encode ((first.length + 2) / 3) second
  rw [← split, ← length_encode, List.take_left] at taken
  rw [encode_injective taken]
  exact List.take_prefix _ _

end Base64

end SmpClient
