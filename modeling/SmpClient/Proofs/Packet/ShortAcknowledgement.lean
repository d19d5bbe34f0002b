import Mathlib.Data.List.Induction
import Mathlib.Tactic.IntervalCases
import SmpClient.Packet.Response
import SmpClient.Proofs.Cbor.Reading
import SmpClient.Proofs.General

/-!
# The short form of acknowledgements

The short form is read without the full decoder, down to a reader of numbers of its own.  It only
accepts payloads that the full decoder reads as a map of the same fields, so whether it is tried
makes no difference to the response.
-/

namespace SmpClient

namespace Response

/-! ## Two readers of numbers -/

theorem wordOf_concat (bytes : Bytes) (byte : UInt8) :
    wordOf (bytes ++ [byte]) = wordOf bytes <<< 8 ||| byte.toUInt64 := by
  rw [wordOf, List.foldl_concat]
  rfl

/-- A word has room for eight bytes. -/
theorem toNat_wordOf {bytes : Bytes} (short : bytes.length ≤ 8) :
    (wordOf bytes).toNat = Bytes.toNat bytes := by
  induction bytes using List.reverseRecOn with
  | nil => rfl
  | append_singleton bytes byte ih =>
      rw [List.length_append, List.length_singleton] at short
      have high_lt : Bytes.toNat bytes < 2 ^ 56 :=
        calc
          Bytes.toNat bytes < 256 ^ bytes.length := Bytes.toNat_lt bytes
          _ ≤ 256 ^ 7 := Nat.pow_le_pow_right (by decide) (Nat.le_of_succ_le_succ short)
          _ = 2 ^ 56 := by decide
      have digit_lt : byte.toNat < 2 ^ 8 := byte.toNat_lt
      have shifted : (wordOf bytes <<< 8).toNat = Bytes.toNat bytes <<< 8 := by
        have fits : Bytes.toNat bytes <<< 8 < 2 ^ 64 := by
          rw [Nat.shiftLeft_eq]
          omega
        rw [UInt64.toNat_shiftLeft, ih (Nat.le_of_succ_le short)]
        exact Nat.mod_eq_of_lt fits
      calc
        (wordOf (bytes ++ [byte])).toNat = Bytes.toNat bytes <<< 8 ||| byte.toNat := by
          rw [wordOf_concat, UInt64.toNat_or, shifted, UInt8.toNat_toUInt64]
        _ = Bytes.toNat bytes <<< 8 + byte.toNat := (Nat.shiftLeft_add_eq_or_of_lt digit_lt _).symm
        _ = Bytes.toNat (bytes ++ [byte]) := by
          rw [Nat.shiftLeft_eq, Bytes.toNat, Bytes.toNat, List.foldl_concat]

theorem toOption_readNumber {width : Nat} (width_le : width ≤ 8) (input : Bytes) :
    (Cbor.readNumber width input).toOption =
      if input.length < width then none
      else some ((wordOf (input.take width)).toNat, input.drop width) := by
  have short : (input.take width).length ≤ 8 := Nat.le_trans (List.length_take_le _ _) width_le
  rw [Cbor.readNumber, toNat_wordOf short]
  split <;> rfl

theorem bounds_of_unsignedWidth? {low width : Nat} (found : unsignedWidth? low = some width) :
    23 < low ∧ width ≤ 8 := by
  unfold unsignedWidth? at found
  split at found <;> cases found <;> decide

theorem readArgument_eq (initial : Nat) (input : Bytes) :
    Cbor.readArgument initial input =
      match unsignedWidth? (initial % 32) with
      | some width => Cbor.readNumber width input
      | none =>
          if initial % 32 ≤ 23 then .ok (initial % 32, input)
          else .error (.unassigned initial) := by
  generalize lowEq : initial % 32 = low
  rw [Cbor.readArgument, lowEq]
  split
  case h_5 not24 not25 not26 not27 =>
    rw [unsignedWidth?.eq_5 low not24 not25 not26 not27]
    exact if_congr Nat.lt_succ_iff rfl rfl
  all_goals rfl

/-- The short form finds an unsigned integer exactly where the full decoder reads the argument of
one, and it finds the same number. -/
theorem unsigned?_cons (initial : UInt8) (input : Bytes) :
    unsigned? (initial :: input) =
      if initial.toNat / 32 = 0 then (Cbor.readArgument initial.toNat input).toOption
      else none := by
  have majorEq : initial >>> 5 = 0 ↔ initial.toNat / 32 = 0 := by
    rw [← UInt8.toNat_inj, UInt8.toNat_shiftRight]
    exact Iff.of_eq (congrArg (· = 0) (Nat.shiftRight_eq_div_pow initial.toNat 5))
  have lowEq : (initial &&& 0x1f).toNat = initial.toNat % 32 := UInt8.toNat_and_ones 5 rfl
  simp only [unsigned?, ne_eq, majorEq, lowEq, ite_not, readArgument_eq]
  congr 1
  cases widthEq : unsignedWidth? (initial.toNat % 32) with
  | none => split <;> rfl
  | some width =>
      obtain ⟨low_gt, width_le⟩ := bounds_of_unsignedWidth? widthEq
      rw [if_neg (Nat.not_le_of_lt low_gt)]
      exact (toOption_readNumber width_le input).symm

/-- Whatever width an unsigned integer has, the full decoder reads the same number. -/
theorem readItem_of_unsigned? {input rest : Bytes} {number : Nat}
    (found : unsigned? input = some (number, rest)) :
    number < 2 ^ 64 ∧
      ∀ fuel depth, Cbor.readItem (fuel + 1) depth input = .ok (.nat number, rest) := by
  cases input with
  | nil => cases found
  | cons initial input =>
      rw [unsigned?_cons] at found
      split at found
      · rename_i majorZero
        have read := Except.toOption_eq_some_iff.mp found
        refine ⟨Cbor.readArgument_lt read, ?_⟩
        intro fuel depth
        simp only [Cbor.readItem, majorZero, read]
        rfl
      · cases found

/-! ## The entries -/

/-- The entries of an acknowledgement, in canonical order. -/
def shortEntries (rc offset : Option Nat) : List (Cbor.Value × Cbor.Value) :=
  (rc.map fun code => (.text "rc", .nat code)).toList ++
    (offset.map fun position => (.text "off", .nat position)).toList

/-- Fields that the full decoder accepts. -/
structure WithinRange (rc offset : Option Nat) : Prop where
  rc_lt : ∀ code ∈ rc, code < 2 ^ 31
  offset_lt : ∀ position ∈ offset, position < 2 ^ 64

private theorem encode_rc : (Cbor.Value.text "rc").encode = rcKey := by
  decide +kernel

private theorem encode_offset : (Cbor.Value.text "off").encode = offsetKey := by
  decide +kernel

private theorem compareKey_rc_offset :
    (Cbor.Value.text "rc").compareKey (.text "off") = .lt := by
  decide +kernel

private theorem compareKey_offset_rc :
    (Cbor.Value.text "off").compareKey (.text "rc") = .gt := by
  decide +kernel

theorem insertEntry_rc (code : Nat) (offset : Option Nat) :
    Cbor.Value.insertEntry (.text "rc") (.nat code) (shortEntries none offset) =
      shortEntries (some code) offset := by
  cases offset with
  | none => rfl
  | some position => simp [shortEntries, Cbor.Value.insertEntry, compareKey_rc_offset]

theorem insertEntry_offset (rc : Option Nat) (position : Nat) :
    Cbor.Value.insertEntry (.text "off") (.nat position) (shortEntries rc none) =
      shortEntries rc (some position) := by
  cases rc with
  | none => rfl
  | some code => simp [shortEntries, Cbor.Value.insertEntry, compareKey_offset_rc]

theorem readItem_of_prefix {name : String} {key input : Bytes}
    (written : (Cbor.Value.text name).encode = key) (short : key.length < 2 ^ 64)
    (starts : key.isPrefixOf input) (fuel depth : Nat) :
    Cbor.readItem (fuel + 1) depth input = .ok (.text name, input.drop key.length) := by
  obtain ⟨rest, rfl⟩ := List.isPrefixOf_iff_prefix.mp starts
  have fits : (Bytes.ofText name).length < 2 ^ 64 := by
    rw [← written, Cbor.Value.encode, List.length_append] at short
    omega
  rw [List.drop_left, ← written]
  exact Cbor.readItem_text fits fuel depth rest

/-- The full decoder goes through the entries of a short acknowledgement in step. -/
theorem readEntries_of_shortEntries? {count : Nat} {rc offset rc' offset' : Option Nat}
    {input rest : Bytes} (found : shortEntries? count rc offset input = some (rc', offset', rest))
    (within : WithinRange rc offset) (fuel depth : Nat) (enough : count < fuel) :
    WithinRange rc' offset' ∧
      Cbor.readEntries fuel depth count (shortEntries rc offset) input =
        .ok (.map (shortEntries rc' offset'), rest) := by
  induction count generalizing rc offset input fuel with
  | zero =>
      cases found
      exact ⟨within, by simp [Cbor.readEntries]⟩
  | succ count ih =>
      obtain ⟨fuel, rfl⟩ : ∃ before, fuel = before + 2 := ⟨fuel - 2, by omega⟩
      rw [shortEntries?] at found
      split at found
      · rename_i isRc
        obtain ⟨starts, absent⟩ := by simpa only [Bool.and_eq_true] using isRc
        obtain rfl := Option.isNone_iff_eq_none.mp absent
        obtain ⟨⟨code, after⟩, number, found⟩ := Option.bind_eq_some_iff.mp found
        dsimp only at found
        split at found
        · rename_i code_lt
          have readKey := readItem_of_prefix encode_rc (by decide) starts fuel depth
          have readCode := (readItem_of_unsigned? number).2 fuel depth
          have codeWithin : WithinRange (some code) offset :=
            ⟨by simpa using code_lt, within.offset_lt⟩
          simp only [Cbor.readEntries, readKey, readCode, insertEntry_rc]
          exact ih found codeWithin (fuel + 1) (by omega)
        · cases found
      · split at found
        · rename_i isOffset
          obtain ⟨starts, absent⟩ := by simpa only [Bool.and_eq_true] using isOffset
          obtain rfl := Option.isNone_iff_eq_none.mp absent
          obtain ⟨⟨position, after⟩, number, found⟩ := Option.bind_eq_some_iff.mp found
          have readKey := readItem_of_prefix encode_offset (by decide) starts fuel depth
          obtain ⟨position_lt, readPosition⟩ := readItem_of_unsigned? number
          have positionWithin : WithinRange rc (some position) :=
            ⟨within.rc_lt, by simpa using position_lt⟩
          simp only [Cbor.readEntries, readKey, readPosition, insertEntry_offset]
          exact ih found positionWithin (fuel + 1) (by omega)
        · cases found

theorem ofValue_shortEntries {rc : Option Nat} {offset : Nat}
    (within : WithinRange rc (some offset)) :
    Codes.ofValue (.map (shortEntries rc (some offset))) =
      .ok { rc := rc.getD 0, offset := some offset } := by
  have offset_lt : ¬ ((offset : Int) < 0 ∨ 0x10000000000000000 ≤ (offset : Int)) := by
    have := within.offset_lt offset rfl
    omega
  cases rc with
  | none =>
      simp only [Codes.ofValue, shortEntries, Option.map_none, Option.toList_none,
        Option.map_some, Option.toList_some, List.nil_append, List.foldlM_cons,
        List.foldlM_nil, Codes.addEntry, if_neg offset_lt]
      rfl
  | some code =>
      have code_lt : isReturnCode (code : Int) = true := by
        have := within.rc_lt code rfl
        simp only [isReturnCode, Bool.and_eq_true, decide_eq_true_eq]
        omega
      simp only [Codes.ofValue, shortEntries, Option.map_some, Option.toList_some,
        List.singleton_append, List.foldlM_cons, List.foldlM_nil, Codes.addEntry,
        if_neg offset_lt, code_lt]
      rfl

/-- A map of one or two fields, read without the full decoder, is the same to the full decoder. -/
theorem decodePayload_of_shortEntries? {initial : UInt8} {input : Bytes} {count offset : Nat}
    {rc : Option Nat} (initialEq : initial.toNat = 5 * 32 + count) (count_le : count ≤ 2)
    (found : shortEntries? count none none input = some (rc, some offset, [])) :
    decodePayload (initial :: input) = .ok (.map (shortEntries rc (some offset))) ∧
      WithinRange rc (some offset) := by
  have nothingYet : WithinRange none none := ⟨by simp, by simp⟩
  obtain ⟨within, entriesRead⟩ := readEntries_of_shortEntries? found nothingYet
    (2 * (input.length + 1) + 1) (Cbor.maximumDepth - 1) (by omega)
  have majorEq : initial.toNat / 32 = 5 := by omega
  have lowEq : initial.toNat % 32 = count := by omega
  have argument : Cbor.readArgument initial.toNat input = .ok (count, input) := by
    rw [Cbor.readArgument, lowEq]
    interval_cases count <;> rfl
  have itemRead : Cbor.readItem (2 * (initial :: input).length + 2) Cbor.maximumDepth
      (initial :: input) = .ok (.map (shortEntries rc (some offset)), []) := by
    simp only [Cbor.readItem, majorEq, Cbor.maximumDepth, lowEq, argument]
    rw [if_neg (by omega)]
    exact entriesRead
  refine ⟨?_, within⟩
  simp only [decodePayload, List.isEmpty_cons, Cbor.Value.decode, itemRead]
  rfl

/-- What is left to do after the entries: there must be an offset, and nothing after it. -/
private theorem eq_of_ended {rc offset : Option Nat} {rest : Bytes} {codes : Codes}
    (found : (offset.bind fun offset =>
      if rest.isEmpty then some { rc := (rc.getD 0 : Nat), offset := some offset } else none) =
        some codes) :
    ∃ position, offset = some position ∧ rest = [] ∧
      codes = { rc := (rc.getD 0 : Nat), offset := some position } := by
  obtain ⟨position, offsetEq, found⟩ := Option.bind_eq_some_iff.mp found
  split at found
  · rename_i ended
    cases found
    exact ⟨position, offsetEq, List.isEmpty_iff.mp ended, rfl⟩
  · cases found

/-- The short form is a map of one or two fields with nothing after it. -/
theorem shortAck?_eq_some {payload : Bytes} {codes : Codes}
    (found : shortAck? payload = some codes) :
    ∃ initial input count rc offset, payload = initial :: input ∧
      initial.toNat = 5 * 32 + count ∧ count ≤ 2 ∧
      shortEntries? count none none input = some (rc, some offset, []) ∧
      codes = { rc := (rc.getD 0 : Nat), offset := some offset } := by
  cases payload with
  | nil => simp [shortAck?] at found
  | cons initial input =>
      rw [shortAck?] at found
      split at found
      · subst initial
        obtain ⟨_, ⟨⟩, found⟩ := Option.bind_eq_some_iff.mp found
        obtain ⟨⟨rc, offset, rest⟩, read, found⟩ := Option.bind_eq_some_iff.mp found
        obtain ⟨position, rfl, rfl, codesEq⟩ := eq_of_ended found
        exact ⟨0xa1, input, 1, rc, position, rfl, by decide, by decide, read, codesEq⟩
      · split at found
        · subst initial
          obtain ⟨_, ⟨⟩, found⟩ := Option.bind_eq_some_iff.mp found
          obtain ⟨⟨rc, offset, rest⟩, read, found⟩ := Option.bind_eq_some_iff.mp found
          obtain ⟨position, rfl, rfl, codesEq⟩ := eq_of_ended found
          exact ⟨0xa2, input, 2, rc, position, rfl, by decide, by decide, read, codesEq⟩
        · cases found

/-- A payload of the short form is a map of the same fields to the full decoder. -/
theorem decodePayload_of_shortAck? {payload : Bytes} {codes : Codes}
    (found : shortAck? payload = some codes) :
    ∃ entries, decodePayload payload = .ok (.map entries) ∧
      Codes.ofValue (.map entries) = .ok codes := by
  obtain ⟨initial, input, count, rc, offset, rfl, initialEq, count_le, read, rfl⟩ :=
    shortAck?_eq_some found
  obtain ⟨decoded, within⟩ := decodePayload_of_shortEntries? initialEq count_le read
  exact ⟨_, decoded, ofValue_shortEntries within⟩

/-- The short form has an offset and never a code of a group. -/
theorem fields_of_shortAck? {payload : Bytes} {codes : Codes}
    (found : shortAck? payload = some codes) :
    codes.groupCode = none ∧ ∃ offset, codes.offset = some offset := by
  obtain ⟨-, -, -, -, offset, -, -, -, -, rfl⟩ := shortAck?_eq_some found
  exact ⟨rfl, offset, rfl⟩

/-- A packet whose payload has the short form is decoded by the full decoder to the same
response. -/
theorem decodeFully_of_shortAck? {scheme : Scheme} (header : Header) {bytes : Bytes}
    {codes : Codes} (plain : scheme.isCoap = false)
    (found : shortAck? (payloadOf scheme bytes) = some codes) :
    decodeFully scheme (some header) bytes =
      .ok { scheme, bytes, header := some header, rc := codes.rc, groupCode := codes.groupCode,
            offset := codes.offset } := by
  obtain ⟨entries, decoded, read⟩ := decodePayload_of_shortAck? found
  simp [decodeFully, decoded, read, plain, bind, Except.bind, pure, Except.pure]

/-- Trying the short form first makes no difference to a response, nor to its failure.  What
the short form finds is what the full decoder finds: a return code, an offset, and no code of a
group. -/
theorem decode_uploadAck_eq_generic :
    (∀ (scheme : Scheme) (bytes : Bytes),
      decode scheme bytes .uploadAck = decode scheme bytes .generic) ∧
    ∀ (payload : Bytes) (codes : Codes), shortAck? payload = some codes →
      (codes.groupCode = none ∧ ∃ offset, codes.offset = some offset) ∧
      ∃ entries, decodePayload payload = .ok (.map entries) ∧
        Codes.ofValue (.map entries) = .ok codes := by
  constructor
  · intro scheme bytes
    cases plain : scheme.isCoap with
    | true => simp [decode, plain]
    | false =>
        cases leading : leadingHeader bytes with
        | error failure => simp [decode, plain, leading, bind, Except.bind]
        | ok header =>
            cases found : shortAck? (payloadOf scheme bytes) with
            | none => simp [decode, plain, leading, found, bind, Except.bind]
            | some codes =>
                have full := decodeFully_of_shortAck? header plain found
                simp [decode, plain, leading, found, full, bind, Except.bind, pure,
                  Except.pure]
  · intro payload codes found
    exact ⟨fields_of_shortAck? found, decodePayload_of_shortAck? found⟩

/-- An offset in a wider head than it needs still has the short form. -/
example : shortAck? [0xa1, 0x63, 0x6f, 0x66, 0x66, 0x18, 0x05] = some { offset := some 5 } := by
  decide

end Response

end SmpClient
