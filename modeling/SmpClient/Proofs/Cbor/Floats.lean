import SmpClient.Cbor.Float
import Mathlib.Algebra.Order.Ring.Nat
import Mathlib.Tactic.Positivity
import Mathlib.Tactic.Ring

/-!
# Numbers in their narrowest format

A double that a narrower format holds exactly is the double that its bits there stand for.  So
nothing is lost when a number is written in fewer bytes.
-/

namespace SmpClient

namespace Cbor

/-- The bits that are read for everything that is not a number. -/
def quietNaN : UInt64 := 0x7ff8000000000000

namespace FloatFormat

/-- A format all of whose numbers are doubles. -/
structure Narrow (format : FloatFormat) : Prop where
  exponent_pos : 0 < format.exponentBits
  fraction_le : format.fractionBits ≤ 52
  lowest_le : format.bias + format.fractionBits ≤ 1023

theorem narrow_half : half.Narrow := ⟨by decide, by decide, by decide⟩

theorem narrow_single : single.Narrow := ⟨by decide, by decide, by decide⟩

variable {format : FloatFormat} {sign exponent fraction : Nat}

/-- The bits of a number from its sign and the fields of its exponent and its fraction. -/
def join (format : FloatFormat) (sign exponent fraction : Nat) : Nat :=
  fraction + 2 ^ format.fractionBits * (exponent + 2 ^ format.exponentBits * sign)

theorem join_lt (sign_lt : sign < 2) (exponent_lt : exponent < 2 ^ format.exponentBits)
    (fraction_lt : fraction < 2 ^ format.fractionBits) :
    format.join sign exponent fraction < 2 ^ (1 + format.exponentBits + format.fractionBits) := by
  have append_lt {low high a b : Nat} (low_lt : low < a) (high_lt : high < b) :
      low + a * high < a * b := by
    calc
      low + a * high < a + a * high := by omega
      _ = a * (high + 1) := by ring
      _ ≤ a * b := Nat.mul_le_mul_left a high_lt
  calc
    format.join sign exponent fraction
      < 2 ^ format.fractionBits * (2 ^ format.exponentBits * 2) :=
        append_lt fraction_lt (append_lt exponent_lt sign_lt)
    _ = 2 ^ (1 + format.exponentBits + format.fractionBits) := by
        rw [pow_add, pow_add]
        ring

/-- The exponent and the fraction of a double, in one number, for those of a narrow format. -/
def magnitude (format : FloatFormat) (exponent fraction : Nat) : Nat :=
  if exponent = format.top then 0x7ff * 2 ^ 52 + fraction * 2 ^ (52 - format.fractionBits)
  else if exponent ≠ 0 then
    (exponent + 1023 - format.bias) * 2 ^ 52 + fraction * 2 ^ (52 - format.fractionBits)
  else if fraction = 0 then 0
  else (1024 - format.bias - format.fractionBits + fraction.log2) * 2 ^ 52 +
    (fraction - 2 ^ fraction.log2) * 2 ^ (52 - fraction.log2)

theorem widen_join (sign_lt : sign < 2) (exponent_lt : exponent < 2 ^ format.exponentBits)
    (fraction_lt : fraction < 2 ^ format.fractionBits) :
    format.widen (format.join sign exponent fraction) =
      UInt64.ofNat (sign * 2 ^ 63 + format.magnitude exponent fraction) := by
  have fractionEq : format.join sign exponent fraction % 2 ^ format.fractionBits = fraction := by
    rw [join, Nat.add_mul_mod_self_left, Nat.mod_eq_of_lt fraction_lt]
  have high : format.join sign exponent fraction / 2 ^ format.fractionBits =
      exponent + 2 ^ format.exponentBits * sign := by
    rw [join, Nat.add_mul_div_left _ _ (by positivity), Nat.div_eq_of_lt fraction_lt,
      Nat.zero_add]
  have exponentEq : (exponent + 2 ^ format.exponentBits * sign) % 2 ^ format.exponentBits =
      exponent := by
    rw [Nat.add_mul_mod_self_left, Nat.mod_eq_of_lt exponent_lt]
  have signEq : (exponent + 2 ^ format.exponentBits * sign) / 2 ^ format.exponentBits % 2 =
      sign := by
    rw [Nat.add_mul_div_left _ _ (by positivity), Nat.div_eq_of_lt exponent_lt, Nat.zero_add,
      Nat.mod_eq_of_lt sign_lt]
  simp only [widen, Nat.pow_eq, pow_add, ← Nat.div_div_eq_div_mul, fractionEq, high, exponentEq,
    signEq]
  rfl

/-- Fields of a narrow number that stand for what a double has below its sign. -/
structure Holds (format : FloatFormat) (exponent fraction low : Nat) : Prop where
  exponent_lt : exponent < 2 ^ format.exponentBits
  fraction_lt : fraction < 2 ^ format.fractionBits
  magnitude_eq : format.magnitude exponent fraction = low

theorem top_lt (format : FloatFormat) : format.top < 2 ^ format.exponentBits := by
  have := Nat.two_pow_pos format.exponentBits
  rw [top, Nat.pow_eq]
  omega

theorem Narrow.top_pos (narrow : format.Narrow) : 0 < format.top := by
  have := Nat.pow_le_pow_right (by decide : 0 < 2) narrow.exponent_pos
  rw [top, Nat.pow_eq]
  omega

theorem holds_infinity (format : FloatFormat) : format.Holds format.top 0 (0x7ff * 2 ^ 52) where
  exponent_lt := format.top_lt
  fraction_lt := by positivity
  magnitude_eq := by simp [magnitude]

theorem Narrow.holds_zero (narrow : format.Narrow) : format.Holds 0 0 0 where
  exponent_lt := by positivity
  fraction_lt := by positivity
  magnitude_eq := by
    have := narrow.top_pos
    simp [magnitude, show 0 ≠ format.top by omega]

theorem Narrow.holds_normal (narrow : format.Narrow) {exponent fraction : Nat}
    (large : 1023 < exponent + format.bias) (field_lt : exponent + format.bias - 1023 < format.top)
    (fraction_lt : fraction < 2 ^ 52) (kept : fraction % 2 ^ (52 - format.fractionBits) = 0) :
    format.Holds (exponent + format.bias - 1023) (fraction / 2 ^ (52 - format.fractionBits))
      (exponent * 2 ^ 52 + fraction) where
  exponent_lt := field_lt.trans format.top_lt
  fraction_lt := by
    rw [Nat.div_lt_iff_lt_mul (by positivity), ← pow_add,
      Nat.add_sub_cancel' narrow.fraction_le]
    exact fraction_lt
  magnitude_eq := by
    have exponentEq : exponent + format.bias - 1023 + 1023 - format.bias = exponent := by omega
    rw [magnitude, if_neg (by omega), if_pos (by omega), exponentEq,
      Nat.div_mul_cancel (Nat.dvd_of_mod_eq_zero kept)]

/-- A number below the normal ones of the narrow format keeps its leading one in the fraction. -/
theorem Narrow.holds_subnormal (narrow : format.Narrow) {exponent fraction extra : Nat}
    (extra_pos : 0 < extra) (small : exponent + format.bias + extra = 1024)
    (fraction_lt : fraction < 2 ^ 52)
    (kept : (2 ^ 52 + fraction) % 2 ^ (52 - format.fractionBits + extra) = 0) :
    format.Holds 0 ((2 ^ 52 + fraction) / 2 ^ (52 - format.fractionBits + extra))
      (exponent * 2 ^ 52 + fraction) := by
  have fraction_le := narrow.fraction_le
  -- The dropped bits are zero and the leading bit is not among them.
  have extra_le : extra ≤ format.fractionBits := by
    by_contra long
    have divides := Nat.le_of_dvd (by positivity) (Nat.dvd_of_mod_eq_zero kept)
    have := Nat.pow_le_pow_right (by decide : 0 < 2)
      (by omega : 53 ≤ 52 - format.fractionBits + extra)
    omega
  obtain ⟨width, widthEq⟩ : ∃ width, width + extra = format.fractionBits :=
    ⟨_, Nat.sub_add_cancel extra_le⟩
  have droppedEq : 52 - format.fractionBits + extra = 52 - width := by omega
  have unitEq : 2 ^ 52 = 2 ^ width * 2 ^ (52 - width) := by
    rw [← pow_add, Nat.add_sub_cancel' (by omega)]
  rw [droppedEq] at kept ⊢
  obtain ⟨rest, rfl⟩ : 2 ^ (52 - width) ∣ fraction := by
    rw [unitEq, Nat.mul_add_mod'] at kept
    exact Nat.dvd_of_mod_eq_zero kept
  have rest_lt : rest < 2 ^ width := by
    rw [unitEq, Nat.mul_comm] at fraction_lt
    exact Nat.lt_of_mul_lt_mul_right fraction_lt
  have quotientEq : (2 ^ 52 + 2 ^ (52 - width) * rest) / 2 ^ (52 - width) = 2 ^ width + rest := by
    rw [unitEq, Nat.mul_comm, ← Nat.mul_add, Nat.mul_div_cancel_left _ (by positivity)]
  have nonzero : 2 ^ width + rest ≠ 0 := by
    have := Nat.two_pow_pos width
    omega
  have logEq : (2 ^ width + rest).log2 = width := by
    rw [Nat.log2_eq_iff nonzero, pow_succ]
    omega
  rw [quotientEq]
  refine ⟨by positivity, ?_, ?_⟩
  · calc
      2 ^ width + rest < 2 ^ (width + 1) := by
        rw [pow_succ]
        omega
      _ ≤ 2 ^ format.fractionBits := Nat.pow_le_pow_right (by decide) (by omega)
  · have top_pos := narrow.top_pos
    have lowest_le := narrow.lowest_le
    have exponentEq : 1024 - format.bias - format.fractionBits + width = exponent := by omega
    rw [magnitude, if_neg (by omega), if_neg (by simp), if_neg nonzero, logEq, exponentEq,
      Nat.add_sub_cancel_left, Nat.mul_comm rest]

/-- A double that a narrow format holds has its sign there, and fields for the rest. -/
theorem Narrow.narrow?_eq_some (narrow : format.Narrow) {bits : UInt64} {short : Nat}
    (held : format.narrow? bits = some short) :
    ∃ exponent fraction, short = format.join (bits.toNat / 2 ^ 63) exponent fraction ∧
      format.Holds exponent fraction (bits.toNat % 2 ^ 63) := by
  have lowEq : bits.toNat % 2 ^ 63 =
      bits.toNat / 2 ^ 52 % 2 ^ 11 * 2 ^ 52 + bits.toNat % 2 ^ 52 := by omega
  have fraction_lt : bits.toNat % 2 ^ 52 < 2 ^ 52 := Nat.mod_lt _ (by decide)
  rw [lowEq]
  simp only [narrow?, Nat.pow_eq] at held
  generalize bits.toNat / 2 ^ 63 = sign at *
  generalize bits.toNat / 2 ^ 52 % 2 ^ 11 = exponent at *
  generalize bits.toNat % 2 ^ 52 = fraction at *
  split at held
  next infinite =>
    subst infinite
    split at held
    next whole =>
      subst whole
      cases held
      exact ⟨format.top, 0, by rw [join, pow_add]; ring, format.holds_infinity⟩
    · cases held
  split at held
  next zero =>
    subst zero
    split at held
    next whole =>
      subst whole
      cases held
      exact ⟨0, 0, by rw [join, pow_add]; ring, narrow.holds_zero⟩
    · cases held
  split at held
  next large =>
    split at held
    next fits =>
      cases held
      exact ⟨_, _, by rw [join, pow_add]; ring, narrow.holds_normal large fits.1 fraction_lt fits.2⟩
    · cases held
  next small =>
    rw [← pow_add] at held
    split at held
    next kept =>
      cases held
      exact ⟨0, _, by rw [join, pow_add]; ring,
        narrow.holds_subnormal (by omega) (by omega) fraction_lt kept⟩
    · cases held

/-- What a narrow format holds is read back from there, and fits its bytes. -/
theorem Narrow.widen_narrow? (narrow : format.Narrow) {bits : UInt64} {short : Nat}
    (held : format.narrow? bits = some short) :
    short < 2 ^ (1 + format.exponentBits + format.fractionBits) ∧ format.widen short = bits := by
  obtain ⟨exponent, fraction, rfl, holds⟩ := narrow.narrow?_eq_some held
  have sign_lt : bits.toNat / 2 ^ 63 < 2 := by
    have := bits.toNat_lt
    omega
  refine ⟨join_lt sign_lt holds.exponent_lt holds.fraction_lt, ?_⟩
  rw [widen_join sign_lt holds.exponent_lt holds.fraction_lt, holds.magnitude_eq,
    Nat.div_add_mod' bits.toNat (2 ^ 63), UInt64.ofNat_toNat]

end FloatFormat

end Cbor

end SmpClient
