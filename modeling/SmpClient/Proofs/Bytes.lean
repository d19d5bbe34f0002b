import SmpClient.Bytes.Sha256
import Mathlib.Tactic.Positivity
import Mathlib.Tactic.Ring

/-!
# Numbers and texts in byte strings

A number is read back from its bytes when they are wide enough for it, bytes from the number
that they stand for, a text always.  Numbers may have either end first.  The low bits of a byte
are its remainder.
-/

/-- A mask of ones leaves the low bits of a byte. -/
theorem UInt8.toNat_and_ones (count : Nat) {byte mask : UInt8} (ones : mask.toNat = 2 ^ count - 1) :
    (byte &&& mask).toNat = byte.toNat % 2 ^ count := by
  rw [UInt8.toNat_and, ones, Nat.and_two_pow_sub_one_eq_mod]

namespace SmpClient

namespace Bytes

theorem foldl_digits (bytes : Bytes) (high : Nat) :
    bytes.foldl (fun high byte => high * 256 + byte.toNat) high =
      high * 256 ^ bytes.length + toNat bytes := by
  induction bytes generalizing high with
  | nil => simp [toNat]
  | cons byte bytes ih =>
      simp only [toNat, List.foldl_cons, List.length_cons]
      rw [ih, ih]
      ring

theorem toNat_cons (byte : UInt8) (bytes : Bytes) :
    toNat (byte :: bytes) = byte.toNat * 256 ^ bytes.length + toNat bytes := by
  have step := foldl_digits bytes byte.toNat
  simpa [toNat] using step

theorem toNat_lt (bytes : Bytes) : toNat bytes < 256 ^ bytes.length := by
  induction bytes with
  | nil => simp [toNat]
  | cons byte bytes ih =>
      have digit : byte.toNat < 256 := byte.toNat_lt
      have high : byte.toNat * 256 ^ bytes.length ≤ 255 * 256 ^ bytes.length :=
        Nat.mul_le_mul_right _ (by omega)
      rw [toNat_cons, List.length_cons, pow_succ]
      omega

/-- The low digits of a number are the number up to their width. -/
theorem toNat_ofNat (width number : Nat) :
    toNat (ofNat width number) = number % 256 ^ width := by
  induction width with
  | zero => simp [ofNat, toNat, Nat.mod_one]
  | succ width ih =>
      have digits : number % (256 ^ width * 256) =
          number % 256 ^ width + 256 ^ width * (number / 256 ^ width % 256) :=
        Nat.mod_mul
      have digit : (UInt8.ofNat (number / 256 ^ width)).toNat = number / 256 ^ width % 256 :=
        UInt8.toNat_ofNat'
      rw [ofNat, toNat_cons, ih, length_ofNat, Nat.pow_eq, digit, pow_succ, digits]
      ring

theorem toNat_ofNat_of_lt {width number : Nat} (fits : number < 256 ^ width) :
    toNat (ofNat width number) = number := by
  rw [toNat_ofNat, Nat.mod_eq_of_lt fits]

/-- Strings of one length that stand for one number are equal. -/
theorem toNat_injective_of_length_eq {first second : Bytes}
    (lengthEq : first.length = second.length) (numberEq : toNat first = toNat second) :
    first = second := by
  induction first generalizing second with
  | nil => exact (List.eq_nil_of_length_eq_zero lengthEq.symm).symm
  | cons byte bytes ih =>
      obtain _ | ⟨other, others⟩ := second
      · simp at lengthEq
      have restLength : bytes.length = others.length := by simpa using lengthEq
      have rest_lt := toNat_lt bytes
      have others_lt := toNat_lt others
      rw [toNat_cons, toNat_cons, ← restLength] at numberEq
      rw [← restLength] at others_lt
      have digitEq : byte = other := by
        apply UInt8.toNat_inj.mp
        calc
          byte.toNat = (byte.toNat * 256 ^ bytes.length + toNat bytes) / 256 ^ bytes.length := by
            rw [Nat.mul_comm, Nat.mul_add_div (by positivity), Nat.div_eq_of_lt rest_lt,
              Nat.add_zero]
          _ = (other.toNat * 256 ^ bytes.length + toNat others) / 256 ^ bytes.length := by
            rw [numberEq]
          _ = other.toNat := by
            rw [Nat.mul_comm, Nat.mul_add_div (by positivity), Nat.div_eq_of_lt others_lt,
              Nat.add_zero]
      subst digitEq
      rw [ih restLength (Nat.add_left_cancel numberEq)]

/-- A string is read off the number that it stands for. -/
theorem ofNat_toNat (bytes : Bytes) : ofNat bytes.length (toNat bytes) = bytes := by
  apply toNat_injective_of_length_eq (length_ofNat _ _)
  exact toNat_ofNat_of_lt (toNat_lt bytes)

/-- The low `width` base-256 digits of `number`, least significant first. -/
def ofNatLittle (width number : Nat) : Bytes :=
  (ofNat width number).reverse

@[simp]
theorem length_ofNatLittle (width number : Nat) : (ofNatLittle width number).length = width := by
  rw [ofNatLittle, List.length_reverse, length_ofNat]

theorem toNatLittle_eq_toNat_reverse (bytes : Bytes) :
    toNatLittle bytes = toNat bytes.reverse := by
  rw [toNatLittle, toNat, List.foldl_reverse]
  simp only [Nat.add_comm, Nat.mul_comm]

theorem toNatLittle_lt (bytes : Bytes) : toNatLittle bytes < 256 ^ bytes.length := by
  rw [toNatLittle_eq_toNat_reverse, ← List.length_reverse]
  exact toNat_lt bytes.reverse

/-- A string stands for a number exactly if it is written as that number is. -/
theorem toNatLittle_eq_iff {bytes : Bytes} {width number : Nat} (lengthEq : bytes.length = width) :
    toNatLittle bytes = number ↔ bytes = ofNatLittle width number ∧ number < 256 ^ width := by
  subst lengthEq
  constructor
  · rintro rfl
    have written := ofNat_toNat bytes.reverse
    rw [List.length_reverse, ← toNatLittle_eq_toNat_reverse] at written
    rw [ofNatLittle, written, List.reverse_reverse]
    exact ⟨rfl, toNatLittle_lt bytes⟩
  · rintro ⟨written, fits⟩
    rw [written, toNatLittle_eq_toNat_reverse, ofNatLittle, List.reverse_reverse,
      toNat_ofNat_of_lt fits]

theorem slice_slice (bytes : Bytes) (start : Nat) {span offset length : Nat}
    (within : offset + length ≤ span) :
    (bytes.slice start span).slice offset length = bytes.slice (start + offset) length := by
  rw [slice, slice, slice, List.drop_take, List.take_take, List.drop_drop]
  congr 1
  omega

theorem drop_slice (bytes : Bytes) (start span count : Nat) :
    (bytes.slice start span).drop count = bytes.slice (start + count) (span - count) := by
  rw [slice, slice, List.drop_take, List.drop_drop]

private theorem loop_toList (bytes : ByteArray) (index : Nat) (before : List UInt8) :
    ByteArray.toList.loop bytes index before =
      before.reverse ++ bytes.data.toList.drop index := by
  fun_induction ByteArray.toList.loop bytes index before with
  | case1 index before within ih =>
      have uncons : bytes.data.toList.drop index =
          bytes.get! index :: bytes.data.toList.drop (index + 1) := by
        rw [List.drop_eq_getElem_cons (by simpa using within)]
        simp [ByteArray.get!, getElem!_pos bytes.data index within]
      rw [ih, uncons, List.reverse_cons, List.append_assoc, List.singleton_append]
  | case2 index before beyond =>
      have ended : bytes.data.toList.drop index = [] := by
        apply List.drop_eq_nil_of_le
        simpa using beyond
      rw [ended, List.append_nil]

private theorem toList_eq_data (bytes : ByteArray) : bytes.toList = bytes.data.toList := by
  rw [ByteArray.toList, loop_toList]
  simp

@[simp]
theorem toText?_ofText (text : String) : toText? (ofText text) = some text := by
  have bytesEq : ByteArray.mk (ofText text).toArray = text.toByteArray := by
    simp [ofText, toList_eq_data]
  rw [toText?, bytesEq, String.fromUTF8?, dif_pos text.isValidUTF8]
  rfl

end Bytes

namespace Sha256

@[simp]
theorem length_digest (message : Bytes) : (digest message).length = 32 := by
  simp [digest]

end Sha256

end SmpClient
