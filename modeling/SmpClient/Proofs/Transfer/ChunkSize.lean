import SmpClient.Proofs.Transfer.ChunkFits
import SmpClient.Proofs.Transfer.Storage

/-!
# How long a chunk is

A request takes the bytes that it carries, a head that grows with them, and a rest that depends only on
where the chunk starts.  Of the chunks that keep to the alignment, an upload takes the longest whose
request fits the link; it gives up exactly where none does.
-/

namespace SmpClient

namespace Upload

/-- What a request takes on the link, framing included. -/
def sizeOnLink (upload : Upload) (seq : UInt8) (offset length : Nat) : Except Error Nat :=
  (upload.chunkPacket seq offset length).map fun packet =>
    packet.length + upload.scheme.framingOverhead

/-- The lengths that a chunk may have where so much of the data remains: it is the last one, or a
multiple of the alignment. -/
structure Allowed (alignment remaining length : Nat) : Prop where
  pos : 0 < length
  le_remaining : length ≤ remaining
  last_or_dvd : length = remaining ∨ max alignment 1 ∣ length

/-- The shortest of them. -/
def smallest (alignment remaining : Nat) : Nat :=
  min (max alignment 1) remaining

section

variable {alignment remaining length target : Nat}

theorem allowed_smallest (left : 0 < remaining) :
    Allowed alignment remaining (smallest alignment remaining) where
  pos := by
    rw [smallest]
    omega
  le_remaining := Nat.min_le_right _ _
  last_or_dvd := by
    rcases Nat.le_total (max alignment 1) remaining with unit | short
    · right
      rw [smallest, Nat.min_eq_left unit]
    · left
      rw [smallest, Nat.min_eq_right short]

theorem allowed_aligned (pos : 0 < aligned alignment remaining length) :
    Allowed alignment remaining (aligned alignment remaining length) where
  pos := pos
  le_remaining := aligned_le _ _ _
  last_or_dvd := by
    simp only [aligned]
    split
    · exact .inr (Nat.dvd_sub_mod _)
    · rename_i whole
      exact .inl (Nat.le_antisymm (Nat.min_le_right _ _) (Nat.le_of_not_lt whole))

/-- Cutting to the alignment leaves no allowed length out. -/
theorem le_aligned (allowed : Allowed alignment remaining target) (target_le : target ≤ length) :
    target ≤ aligned alignment remaining length := by
  have cut_ge : target ≤ min length remaining := Nat.le_min.mpr ⟨target_le, allowed.le_remaining⟩
  simp only [aligned]
  split
  · rename_i short
    generalize min length remaining = cut at cut_ge short ⊢
    have target_ne : target ≠ remaining := by omega
    obtain ⟨count, rfl⟩ := allowed.last_or_dvd.resolve_left target_ne
    have unit_pos : 0 < max alignment 1 := by omega
    calc max alignment 1 * count ≤ max alignment 1 * (cut / max alignment 1) :=
          Nat.mul_le_mul_left _ ((Nat.le_div_iff_mul_le unit_pos).mpr (by rwa [Nat.mul_comm]))
      _ = cut - cut % max alignment 1 := by
          rw [← Nat.sub_eq_of_eq_add (Nat.div_add_mod cut _).symm]
  · exact cut_ge

theorem le_fitting_iff {room : Nat} (pos : 0 < target) :
    target ≤ fitting room ↔ target + headLength target ≤ room := by
  refine ⟨fun target_le => ?_, le_fitting⟩
  have fits := fitting_fits (Nat.lt_of_lt_of_le pos target_le)
  have head_le := Cbor.headLength_mono target_le
  rw [← headLength_eq, ← headLength_eq] at head_le
  omega

/-- The allowed lengths that fit are those up to the chunk that is taken. -/
theorem fits_iff (allowed : Allowed alignment remaining length) (fixed mtu : Nat) :
    fixed + headLength length + length ≤ mtu ↔
      length ≤ aligned alignment remaining (fitting (mtu - fixed)) := by
  have pos := allowed.pos
  have head_pos := Cbor.headLength_pos length
  rw [← headLength_eq] at head_pos
  have fitting_iff : length ≤ fitting (mtu - fixed) ↔ length + headLength length ≤ mtu - fixed :=
    le_fitting_iff pos
  constructor
  · intro fits
    exact le_aligned allowed (fitting_iff.mpr (by omega))
  · intro length_le
    have cut_le := aligned_le_length alignment remaining (fitting (mtu - fixed))
    -- a length that fits leaves the subtraction of the fixed part exact, for its head takes a byte
    have fits := fitting_iff.mp (by omega)
    omega

end

variable {upload : Upload} {offset : Nat}

/-- What the requests at an offset take besides the data and its head. -/
theorem exists_fixedLength (addressable : upload.Addressable) (offset : Nat) :
    ∃ fixed,
      (∀ seq, ∃ emptyPacket, upload.chunkPacket seq offset 0 = .ok emptyPacket ∧
        upload.fixedLength emptyPacket = fixed) ∧
      ∀ seq length, offset + length ≤ upload.data.length →
        upload.sizeOnLink seq offset length = .ok (fixed + headLength length + length) := by
  obtain ⟨first, -, firstBuilt, -⟩ := exists_chunkPacket addressable 0 offset 0
  have firstEq := length_chunkPacket addressable firstBuilt
  have wrapping_pos : 0 < Packet.wrapping upload.scheme := by
    rw [Packet.wrapping]
    split <;> decide
  refine ⟨upload.fixedLength first, fun seq => ?_, fun seq length within => ?_⟩
  · obtain ⟨emptyPacket, -, built, -⟩ := exists_chunkPacket addressable seq offset 0
    have lengthEq := length_chunkPacket addressable built
    exact ⟨emptyPacket, built, by rw [fixedLength, fixedLength, lengthEq, firstEq]⟩
  · obtain ⟨packet, -, built, -⟩ := exists_chunkPacket addressable seq offset length
    have packetEq := length_packet_add_one addressable within firstBuilt built
    simp only [sizeOnLink, built, Except.map, Except.ok.injEq, fixedLength]
    omega

theorem chunkLength_of_fixedLength {seq : UInt8} {emptyPacket : Bytes} {fixed : Nat}
    (built : upload.chunkPacket seq offset 0 = .ok emptyPacket)
    (fixedEq : upload.fixedLength emptyPacket = fixed) (within : offset < upload.data.length) :
    let remaining := upload.data.length - offset
    let length := aligned upload.alignment remaining (fitting (upload.mtu - fixed))
    let least := smallest upload.alignment remaining
    upload.chunkLength seq offset =
      if length = 0 then .error (.insufficientMtu (fixed + headLength least + least) upload.mtu)
      else .ok length := by
  have left : 0 < upload.data.length - offset := Nat.sub_pos_of_lt within
  simp only [chunkLength, built, bind, Except.bind, fixedEq, left, and_true, smallest]
  rfl

/-- A chunk has the greatest allowed length whose request fits the link, and there is none exactly where
no allowed length fits. -/
theorem chunkLength_exact (addressable : upload.Addressable) (within : offset < upload.data.length)
    (seq : UInt8) :
    let remaining := upload.data.length - offset
    let least := smallest upload.alignment remaining
    ∃ size : Nat → Nat,
      (∀ seq length, offset + length ≤ upload.data.length →
        upload.sizeOnLink seq offset length = .ok (size length)) ∧
      (∀ length, upload.chunkLength seq offset = .ok length →
        Allowed upload.alignment remaining length ∧ size length ≤ upload.mtu ∧
          ∀ more, Allowed upload.alignment remaining more → length < more →
            upload.mtu < size more) ∧
      ∀ failure, upload.chunkLength seq offset = .error failure ↔
        (∀ length, Allowed upload.alignment remaining length → upload.mtu < size length) ∧
          failure = .insufficientMtu (size least) upload.mtu ∧ upload.mtu < size least := by
  intro remaining least
  obtain ⟨fixed, empties, sizes⟩ := exists_fixedLength addressable offset
  obtain ⟨emptyPacket, built, fixedEq⟩ := empties seq
  have lengthEq := chunkLength_of_fixedLength built fixedEq within
  obtain ⟨chunk, chunkEq⟩ : ∃ chunk, chunk =
    aligned upload.alignment remaining (fitting (upload.mtu - fixed)) := ⟨_, rfl⟩
  have left : 0 < remaining := Nat.sub_pos_of_lt within
  have leastAllowed : Allowed upload.alignment remaining least := allowed_smallest left
  have fits_iff (length : Nat) (allowed : Allowed upload.alignment remaining length) :
      fixed + headLength length + length ≤ upload.mtu ↔ length ≤ chunk :=
    chunkEq ▸ fits_iff allowed fixed upload.mtu
  simp only at lengthEq
  rw [← chunkEq] at lengthEq
  refine ⟨fun length => fixed + headLength length + length, sizes, fun length sized => ?_,
    fun failure => ⟨fun failed => ?_, ?_⟩⟩
  · rw [lengthEq] at sized
    split_ifs at sized with none
    obtain rfl := Except.ok.inj sized
    have allowed : Allowed upload.alignment remaining chunk :=
      chunkEq ▸ allowed_aligned (by omega)
    refine ⟨allowed, (fits_iff chunk allowed).mpr (Nat.le_refl _), ?_⟩
    intro more moreAllowed longer
    exact Nat.lt_of_not_le fun fits => Nat.not_le.mpr longer ((fits_iff more moreAllowed).mp fits)
  · rw [lengthEq] at failed
    split_ifs at failed with none
    have unfit (length : Nat) (allowed : Allowed upload.alignment remaining length) :
        upload.mtu < fixed + headLength length + length := by
      have pos := allowed.pos
      have unfit := mt (fits_iff length allowed).mp (by omega)
      omega
    exact ⟨unfit, (Except.error.inj failed).symm, unfit least leastAllowed⟩
  · rintro ⟨unfit, rfl, -⟩
    have none : chunk = 0 := by
      by_contra some
      have allowed : Allowed upload.alignment remaining chunk :=
        chunkEq ▸ allowed_aligned (by omega)
      exact Nat.not_le.mpr (unfit chunk allowed) ((fits_iff chunk allowed).mpr (Nat.le_refl _))
    rw [lengthEq, if_pos none]

/-- Forty bytes over a link whose packets hold one byte more than a chunk of 23 takes. -/
def fortyBytes : Upload :=
  { Storage.threeBytes with data := List.replicate 40 7, mtu := 88 }

/-- A chunk of 24 bytes has a longer head, for which there is no room. -/
theorem chunkLength_exact_fortyBytes :
    (fortyBytes.Addressable ∧ 0 < fortyBytes.data.length ∧
      (fortyBytes.chunkLength 0 0).toOption = some 23) ∧
    ∃ size : Nat → Nat, fortyBytes.sizeOnLink 0 0 23 = .ok (size 23) ∧
      fortyBytes.sizeOnLink 0 0 24 = .ok (size 24) ∧ size 23 ≤ 88 ∧ 88 < size 24 := by
  have addressable : fortyBytes.Addressable := ⟨by decide, by decide⟩
  have within : 0 < fortyBytes.data.length := by decide
  have found : (fortyBytes.chunkLength 0 0).toOption = some 23 := by decide +kernel
  have next : Allowed 1 40 24 := ⟨by decide, by decide, .inr (by decide)⟩
  obtain ⟨size, sizes, exact, -⟩ := chunkLength_exact addressable within 0
  obtain ⟨-, fits, longest⟩ : Allowed 1 40 23 ∧ size 23 ≤ 88 ∧
      ∀ more, Allowed 1 40 more → 23 < more → 88 < size more := by
    cases sized : fortyBytes.chunkLength 0 0 with
    | error failure =>
        rw [sized] at found
        cases found
    | ok length =>
        rw [sized] at found
        exact exact 23 (Option.some.inj found ▸ sized)
  exact ⟨⟨addressable, within, found⟩, size, sizes 0 23 (by decide), sizes 0 24 (by decide), fits,
    longest 24 next (by decide)⟩

end Upload

end SmpClient
