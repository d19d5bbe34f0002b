import SmpClient.Firmware.Container
import SmpClient.Proofs.Bytes
import SmpClient.Proofs.General
import SmpClient.Proofs.Indexing

/-!
# The format of a firmware file

A file is read exactly if it is laid out as its header says: a header, one area of entries or two,
and in the last of them nothing but whole entries.  All places follow from the sizes in the header
and in the areas, none of which is to be trusted, and no byte is looked for beyond the end.
-/

namespace SmpClient

namespace Firmware

/-- An entry as it is written. -/
def Entry.encode (entry : Entry) : Bytes :=
  Bytes.ofNatLittle 2 entry.kind ++ Bytes.ofNatLittle 2 entry.content.length ++ entry.content

/-- Whether two bytes are enough for the kind and the length. -/
def Entry.Fits (entry : Entry) : Prop :=
  entry.kind < 256 ^ 2 ∧ entry.content.length < 256 ^ 2

instance (entry : Entry) : Decidable entry.Fits :=
  inferInstanceAs (Decidable (_ ∧ _))

/-- A number is written at a place of a file. -/
def NumberAt (data : Bytes) (offset width number : Nat) : Prop :=
  data.slice offset width = Bytes.ofNatLittle width number ∧ number < 256 ^ width

instance (data : Bytes) (offset width number : Nat) :
    Decidable (NumberAt data offset width number) :=
  inferInstanceAs (Decidable (_ ∧ _))

/-- Where the numbers of a header are, how wide they are, and the numbers. -/
def ImageHeader.places (header : ImageHeader) : List (Nat × Nat × Nat) :=
  [(4, 4, header.loadAddress), (8, 2, header.headerSize), (10, 2, header.protectedSize),
    (12, 4, header.imageSize), (16, 4, header.flags), (20, 1, header.version.major),
    (21, 1, header.version.minor), (22, 2, header.version.revision), (24, 4, header.version.build)]

/-- An area starts at a place, with its magic number and its size in front. -/
structure AreaAt (data : Bytes) (offset magic size : Nat) : Prop where
  magic_at : NumberAt data offset 2 magic
  size_at : NumberAt data (offset + 2) 2 size
  four_le : 4 ≤ size

/-- Where the area that may hold the hash is expected. -/
def ImageHeader.areaOffset (header : ImageHeader) : Nat :=
  header.headerSize + header.imageSize + header.protectedSize

/-- A file is laid out as a container: the magic number and the header, a protected area if the
header gives a size for it, and the area with the entries. -/
structure Holds (data : Bytes) (container : Container) : Prop where
  length_le : 32 ≤ data.length
  magic : data.take 4 = [0x3d, 0xb8, 0xf3, 0x96]
  header : ∀ place ∈ container.header.places, NumberAt data place.1 place.2.1 place.2.2
  protectedArea : 0 < container.header.protectedSize →
    AreaAt data (container.header.headerSize + container.header.imageSize) 0x6908
      container.header.protectedSize
  area : ∃ size, AreaAt data container.header.areaOffset 0x6907 size ∧
    container.header.areaOffset + size ≤ data.length ∧
    data.slice (container.header.areaOffset + 4) (size - 4) =
      (container.entries.map Entry.encode).flatten
  fits : ∀ entry ∈ container.entries, entry.Fits

section Numbers

theorem field_lt (data : Bytes) (offset width : Nat) : field data offset width < 256 ^ width := by
  apply Nat.lt_of_lt_of_le (Bytes.toNatLittle_lt _)
  apply Nat.pow_le_pow_right (by decide)
  rw [Bytes.length_slice]
  exact Nat.min_le_left _ _

theorem field_eq_iff {data : Bytes} {offset width number : Nat}
    (within : offset + width ≤ data.length) :
    field data offset width = number ↔ NumberAt data offset width number := by
  apply Bytes.toNatLittle_eq_iff
  rw [Bytes.length_slice]
  omega

theorem NumberAt.within {data : Bytes} {offset width number : Nat}
    (written : NumberAt data offset width number) (wide : 0 < width) :
    offset + width ≤ data.length := by
  have lengthEq := congrArg List.length written.1
  rw [Bytes.length_slice, Bytes.length_ofNatLittle] at lengthEq
  omega

theorem NumberAt.field_eq {data : Bytes} {offset width number : Nat}
    (written : NumberAt data offset width number) (wide : 0 < width) :
    field data offset width = number :=
  (field_eq_iff (written.within wide)).mpr written

theorem imageMagic_iff {data : Bytes} (long : 4 ≤ data.length) :
    field data 0 4 = imageMagic ↔ data.take 4 = [0x3d, 0xb8, 0xf3, 0x96] := by
  have written : Bytes.ofNatLittle 4 imageMagic = [0x3d, 0xb8, 0xf3, 0x96] := by decide
  have small : imageMagic < 256 ^ 4 := by decide
  rw [field_eq_iff (by omega), NumberAt, written, and_iff_left small, Bytes.slice, List.drop_zero]

theorem ImageHeader.places_within (header : ImageHeader) :
    ∀ place ∈ header.places, place.1 + place.2.1 ≤ 32 := by
  simp [ImageHeader.places]

theorem readHeader_eq_iff {data : Bytes} (long : 32 ≤ data.length) {header : ImageHeader} :
    readHeader data = header ↔
      ∀ place ∈ header.places, NumberAt data place.1 place.2.1 place.2.2 := by
  have read : (∀ place ∈ header.places, field data place.1 place.2.1 = place.2.2) ↔
      readHeader data = header := by
    obtain ⟨_, _, _, _, _, ⟨_, _, _, _⟩⟩ := header
    simp [readHeader, ImageHeader.places]
  rw [← read]
  apply forall₂_congr
  intro place member
  exact field_eq_iff (Nat.le_trans (header.places_within place member) long)

end Numbers

section Areas

theorem areaSize_eq_ok_iff {data : Bytes} {offset magic size : Nat} :
    areaSize data offset magic = .ok size ↔ AreaAt data offset magic size := by
  constructor
  · intro read
    simp only [areaSize] at read
    split at read
    · cases read
    · rename_i long
      rw [Nat.not_lt] at long
      split at read
      · cases read
      · rename_i found
        split at read
        · cases read
        · rename_i large
          have magicEq := not_not.mp found
          have sizeEq := Except.ok.inj read
          rw [sizeEq] at large
          exact ⟨(field_eq_iff (by omega)).mp magicEq, (field_eq_iff (by omega)).mp sizeEq,
            Nat.not_lt.mp large⟩
  · intro area
    have long := area.size_at.within (by decide)
    rw [areaSize, if_neg (by omega), area.magic_at.field_eq (by decide),
      area.size_at.field_eq (by decide), if_neg (not_not.mpr rfl),
      if_neg (Nat.not_lt.mpr area.four_le)]

theorem areaOffset_eq_ok_iff {data : Bytes} {header : ImageHeader} {offset : Nat} :
    areaOffset data header = .ok offset ↔
      offset = header.areaOffset ∧ (0 < header.protectedSize →
        AreaAt data (header.headerSize + header.imageSize) protectedAreaMagic
          header.protectedSize) := by
  rw [areaOffset, ImageHeader.areaOffset]
  by_cases single : header.protectedSize = 0
  · simp only [single, if_true, Nat.add_zero, Nat.lt_irrefl, false_implies, and_true,
      Except.ok.injEq]
    exact eq_comm
  · have both : 0 < header.protectedSize := Nat.pos_of_ne_zero single
    simp only [if_neg single, Except.bind_eq_ok_iff, areaSize_eq_ok_iff, both, true_implies]
    constructor
    · rintro ⟨size, area, ended⟩
      split at ended
      · cases ended
      · rename_i sizeEq
        rw [not_not.mp sizeEq] at area ended
        exact ⟨(Except.ok.inj ended).symm, area⟩
    · rintro ⟨rfl, area⟩
      exact ⟨header.protectedSize, area, if_neg (not_not.mpr rfl)⟩

end Areas

section Entries

theorem readEntries_encode_append {entry : Entry} (fits : entry.Fits) (others : Bytes) :
    readEntries (entry.encode ++ others) = (readEntries others).map (entry :: ·) := by
  obtain ⟨kind, content⟩ := entry
  obtain ⟨kindFits, lengthFits⟩ := fits
  have kindEq : Bytes.toNatLittle (Bytes.ofNatLittle 2 kind) = kind :=
    (Bytes.toNatLittle_eq_iff (Bytes.length_ofNatLittle 2 kind)).mpr ⟨rfl, kindFits⟩
  have lengthEq : Bytes.toNatLittle (Bytes.ofNatLittle 2 content.length) = content.length :=
    (Bytes.toNatLittle_eq_iff (Bytes.length_ofNatLittle 2 _)).mpr ⟨rfl, lengthFits⟩
  have split (number : Nat) : Bytes.ofNatLittle 2 number =
      [UInt8.ofNat (number / 1), UInt8.ofNat (number / 256)] := rfl
  rw [split] at kindEq lengthEq
  have encodeEq : (⟨kind, content⟩ : Entry).encode ++ others =
      UInt8.ofNat (kind / 1) :: UInt8.ofNat (kind / 256) :: UInt8.ofNat (content.length / 1) ::
        UInt8.ofNat (content.length / 256) :: (content ++ others) := by
    simp [Entry.encode, split]
  rw [encodeEq, readEntries, kindEq, lengthEq]
  simp

/-- What is read from an area that is not empty. -/
theorem readEntries_of_ne_nil {area : Bytes} (present : area ≠ []) :
    readEntries area =
      if area.length < 4 then .error .truncatedEntry
      else if area.length < 4 + field area 2 2 then .error (.entryBeyondArea (field area 0 2))
      else (readEntries (area.drop (4 + field area 2 2))).map
        (⟨field area 0 2, area.slice 4 (field area 2 2)⟩ :: ·) := by
  match area with
  | [] => exact absurd rfl present
  | [_] => simp [readEntries]
  | [_, _] => simp [readEntries]
  | [_, _, _] => simp [readEntries]
  | kindLow :: kindHigh :: lengthLow :: lengthHigh :: rest =>
      have kindEq : field (kindLow :: kindHigh :: lengthLow :: lengthHigh :: rest) 0 2 =
          Bytes.toNatLittle [kindLow, kindHigh] := rfl
      have lengthEq : field (kindLow :: kindHigh :: lengthLow :: lengthHigh :: rest) 2 2 =
          Bytes.toNatLittle [lengthLow, lengthHigh] := rfl
      have long : ¬ (kindLow :: kindHigh :: lengthLow :: lengthHigh :: rest).length < 4 := by simp
      have roomIff (length : Nat) :
          (kindLow :: kindHigh :: lengthLow :: lengthHigh :: rest).length < 4 + length ↔
            rest.length < length := by
        simp only [List.length_cons]
        omega
      rw [if_neg long, kindEq, lengthEq, if_congr (roomIff _) rfl rfl, readEntries, Nat.add_comm 4]
      rfl

/-- Entries are read from an area exactly if they fill it. -/
theorem readEntries_eq_ok_iff {area : Bytes} {entries : List Entry} :
    readEntries area = .ok entries ↔
      area = (entries.map Entry.encode).flatten ∧ ∀ entry ∈ entries, entry.Fits := by
  constructor
  · intro read
    fun_induction readEntries area generalizing entries with
    | case1 =>
        cases read
        exact ⟨rfl, List.forall_mem_nil _⟩
    | case2 => cases read
    | case3 kindLow kindHigh lengthLow lengthHigh rest kind length room =>
        rename_i ih
        cases others : readEntries (rest.drop length) with
        | error failure => simp [others, Except.map] at read
        | ok later =>
            obtain ⟨restEq, fit⟩ := ih others
            rw [others] at read
            cases read
            obtain ⟨kindEq, kindFits⟩ :
                [kindLow, kindHigh] = Bytes.ofNatLittle 2 kind ∧ kind < 256 ^ 2 :=
              (Bytes.toNatLittle_eq_iff rfl).mp rfl
            obtain ⟨lengthEq, lengthFits⟩ :
                [lengthLow, lengthHigh] = Bytes.ofNatLittle 2 length ∧ length < 256 ^ 2 :=
              (Bytes.toNatLittle_eq_iff rfl).mp rfl
            have taken : (rest.take length).length = length :=
              List.length_take_of_le (Nat.not_lt.mp room)
            refine ⟨?_, List.forall_mem_cons.mpr ⟨⟨kindFits, taken.trans_lt lengthFits⟩, fit⟩⟩
            rw [List.map_cons, List.flatten_cons, ← restEq, Entry.encode, taken, ← kindEq,
              ← lengthEq]
            simp
    | case4 => cases read
  · rintro ⟨rfl, fit⟩
    induction entries with
    | nil => rw [List.map_nil, List.flatten_nil, readEntries]
    | cons entry entries ih =>
        obtain ⟨first, later⟩ := List.forall_mem_cons.mp fit
        rw [List.map_cons, List.flatten_cons, readEntries_encode_append first, ih later]
        rfl

end Entries

theorem Container.read_eq_ok_iff {data : Bytes} {container : Container} :
    Container.read data = .ok container ↔ Holds data container := by
  constructor
  · intro read
    simp only [Container.read] at read
    split at read
    · cases read
    · rename_i long
      rw [imageHeaderSize, Nat.not_lt] at long
      split at read
      · cases read
      · rename_i magic
        have started := (imageMagic_iff (by omega)).mp (not_not.mp magic)
        simp only [Except.bind_eq_ok_iff, areaOffset_eq_ok_iff, areaSize_eq_ok_iff] at read
        obtain ⟨offset, ⟨rfl, protectedArea⟩, size, area, ended⟩ := read
        split at ended
        · cases ended
        · rename_i inside
          obtain ⟨entries, found, made⟩ := Except.bind_eq_ok_iff.mp ended
          obtain ⟨filled, fits⟩ := readEntries_eq_ok_iff.mp found
          obtain rfl := Except.ok.inj made
          exact ⟨long, started, (readHeader_eq_iff long).mp rfl, protectedArea,
            ⟨size, area, Nat.not_lt.mp inside, filled⟩, fits⟩
  · intro holds
    have headerEq := (readHeader_eq_iff holds.length_le).mpr holds.header
    have magic := (imageMagic_iff (Nat.le_trans (by decide) holds.length_le)).mpr holds.magic
    have offset : areaOffset data container.header = .ok container.header.areaOffset :=
      areaOffset_eq_ok_iff.mpr ⟨rfl, holds.protectedArea⟩
    obtain ⟨size, area, inside, filled⟩ := holds.area
    have found := readEntries_eq_ok_iff.mpr ⟨filled, holds.fits⟩
    have sized : areaSize data container.header.areaOffset areaMagic = .ok size :=
      areaSize_eq_ok_iff.mpr area
    rw [Container.read, imageHeaderSize, if_neg (Nat.not_lt.mpr holds.length_le)]
    simp only [magic, ne_eq, not_true_eq_false, if_false, headerEq]
    rw [offset]
    simp only [bind, Except.bind, sized, if_neg (Nat.not_lt.mpr inside), found]
    rfl

section ProtectedContent

/-- Files of one length that differ at most between two places. -/
structure AgreeOutside (data other : Bytes) (start stop : Nat) : Prop where
  length_eq : other.length = data.length
  getElem?_eq : ∀ index, index < start ∨ stop ≤ index → other[index]? = data[index]?

variable {data other : Bytes} {start stop : Nat}

theorem agreeOutside_append (before : Bytes) {first second : Bytes}
    (same : second.length = first.length) (after : Bytes) :
    AgreeOutside (before ++ first ++ after) (before ++ second ++ after) before.length
      (before.length + first.length) := by
  refine ⟨by simp [same], ?_⟩
  rintro index (early | late)
  · rw [List.append_assoc, List.append_assoc, List.getElem?_append_left early,
      List.getElem?_append_left early]
  · have firstLength : (before ++ first).length ≤ index := by rwa [List.length_append]
    have secondLength : (before ++ second).length ≤ index := by rwa [List.length_append, same]
    rw [List.getElem?_append_right firstLength, List.getElem?_append_right secondLength,
      List.length_append, List.length_append, same]

theorem AgreeOutside.slice_eq (agree : AgreeOutside data other start stop) {offset length : Nat}
    (outside : offset + length ≤ start ∨ stop ≤ offset) :
    other.slice offset length = data.slice offset length := by
  apply List.ext_getElem?
  intro index
  simp only [Bytes.slice, List.getElem?_take, List.getElem?_drop]
  split
  · exact agree.getElem?_eq (offset + index) (by omega)
  · rfl

theorem NumberAt.of_agree {offset width number : Nat} (written : NumberAt data offset width number)
    (agree : AgreeOutside data other start stop)
    (outside : offset + width ≤ start ∨ stop ≤ offset) : NumberAt other offset width number :=
  ⟨(agree.slice_eq outside).trans written.1, written.2⟩

theorem AreaAt.of_agree {offset magic size : Nat} (area : AreaAt data offset magic size)
    (agree : AgreeOutside data other start stop) (outside : offset + 4 ≤ start ∨ stop ≤ offset) :
    AreaAt other offset magic size :=
  ⟨area.magic_at.of_agree agree (by omega), area.size_at.of_agree agree (by omega), area.four_le⟩

/-- What fills the protected area is not looked at. -/
theorem Holds.of_agree {container : Container} (holds : Holds data container)
    (agree : AgreeOutside data other
      (max 32 (container.header.headerSize + container.header.imageSize + 4))
      container.header.areaOffset) : Holds other container := by
  have front : 32 ≤ max 32 (container.header.headerSize + container.header.imageSize + 4) :=
    Nat.le_max_left _ _
  have started : other.slice 0 4 = data.slice 0 4 :=
    agree.slice_eq (.inl (Nat.le_trans (by decide) front))
  obtain ⟨size, area, inside, filled⟩ := holds.area
  refine ⟨agree.length_eq ▸ holds.length_le, ?_, ?_, ?_, ⟨size, ?_, ?_, ?_⟩, holds.fits⟩
  · simpa [Bytes.slice, holds.magic] using started
  · intro place member
    apply (holds.header place member).of_agree agree
    exact .inl (Nat.le_trans (container.header.places_within place member) front)
  · intro both
    exact (holds.protectedArea both).of_agree agree (.inl (Nat.le_max_right _ _))
  · exact area.of_agree agree (.inr le_rfl)
  · rwa [agree.length_eq]
  · rw [agree.slice_eq (.inr (Nat.le_add_right _ _)), filled]

end ProtectedContent

section Hash

/-- The content of the first entry that holds a hash. -/
def FirstHash (entries : List Entry) (value : Bytes) : Prop :=
  ∃ before entry after, entries = before ++ entry :: after ∧ entry.content = value ∧
    entry.kind ∈ [0x10, 0x11, 0x12] ∧ ∀ other ∈ before, other.kind ∉ [0x10, 0x11, 0x12]

theorem Entry.isHash_iff (entry : Entry) :
    entry.isHash = true ↔ entry.kind ∈ [0x10, 0x11, 0x12] := by
  simp [Entry.isHash, or_assoc]

theorem Container.hash_eq_ok_iff {container : Container} {value : Bytes} :
    container.hash = .ok value ↔ FirstHash container.entries value := by
  have found : container.hash = .ok value ↔
      ∃ entry, container.entries.find? Entry.isHash = some entry ∧ entry.content = value := by
    rw [Container.hash]
    cases container.entries.find? Entry.isHash <;> simp
  simp only [found, List.find?_eq_some_iff_append, Bool.not_eq_true', ← Bool.not_eq_true,
    Entry.isHash_iff]
  constructor
  · rintro ⟨entry, ⟨kind, before, after, entriesEq, others⟩, contentEq⟩
    exact ⟨before, entry, after, entriesEq, contentEq, kind, others⟩
  · rintro ⟨before, entry, after, entriesEq, contentEq, kind, others⟩
    exact ⟨entry, ⟨kind, before, after, entriesEq, others⟩, contentEq⟩

end Hash

section Indexing

/-- The number in the bytes from `start` up to `stop`, if all of them are there. -/
def number? (data : Bytes) (start stop : Nat) : Option Nat :=
  (data.range? start stop).map Bytes.toNatLittle

def readHeader? (data : Bytes) : Option ImageHeader := do
  let loadAddress ← number? data 4 8
  let headerSize ← number? data 8 10
  let protectedSize ← number? data 10 12
  let imageSize ← number? data 12 16
  let flags ← number? data 16 20
  let major ← number? data 20 21
  let minor ← number? data 21 22
  let revision ← number? data 22 24
  let build ← number? data 24 28
  let version : Version := { major, minor, revision, build }
  return { loadAddress, headerSize, protectedSize, imageSize, flags, version }

def areaSize? (data : Bytes) (offset magic : Nat) : Option (Except BadImage Nat) := do
  Size.check? (offset + 4)
  match data.range? offset (offset + 4) with
  | none => return .error (.noArea offset)
  | some info =>
      let found ← number? info 0 2
      if found ≠ magic then return .error (.areaMagic magic offset found)
      else
        let size ← number? info 2 4
        if size < 4 then return .error (.areaTooSmall size)
        else return .ok size

def areaOffset? (data : Bytes) (header : ImageHeader) : Option (Except BadImage Nat) := do
  let offset := header.headerSize + header.imageSize
  Size.check? offset
  if header.protectedSize = 0 then return .ok offset
  else
    match ← areaSize? data offset protectedAreaMagic with
    | .error problem => return .error problem
    | .ok size =>
        if size ≠ header.protectedSize then
          return .error (.protectedSize size header.protectedSize)
        else
          Size.check? (offset + size)
          return .ok (offset + size)

/-- The entries from `position` up to `stop`, taken out by indexes that are checked. -/
def entriesFrom? (data : Bytes) (stop position : Nat) : Option (Except BadImage (List Entry)) :=
  if position < stop then do
    Size.check? (position + 4)
    if stop < position + 4 then return .error .truncatedEntry
    else
      let kind ← number? data position (position + 2)
      let length ← number? data (position + 2) (position + 4)
      Size.check? (position + 4 + length)
      if stop < position + 4 + length then return .error (.entryBeyondArea kind)
      else
        let content ← data.range? (position + 4) (position + 4 + length)
        let later ← entriesFrom? data stop (position + 4 + length)
        return later.map (⟨kind, content⟩ :: ·)
  else some (.ok [])
termination_by stop - position

/-- Reads a container by indexes that are checked. -/
def Container.read? (data : Bytes) : Option (Except BadImage Container) :=
  if data.length < imageHeaderSize then some (.error (.tooShort data.length))
  else do
    let magic ← number? data 0 4
    if magic ≠ imageMagic then return .error (.magic magic)
    else
      let header ← readHeader? data
      match ← areaOffset? data header with
      | .error problem => return .error problem
      | .ok offset =>
          match ← areaSize? data offset areaMagic with
          | .error problem => return .error problem
          | .ok size =>
              Size.check? (offset + size)
              if data.length < offset + size then return .error .areaBeyondEnd
              else
                let entries ← entriesFrom? data (offset + size) (offset + 4)
                return entries.map (⟨header, ·⟩)

theorem field_slice (data : Bytes) (start : Nat) {span offset width : Nat}
    (within : offset + width ≤ span) :
    field (data.slice start span) offset width = field data (start + offset) width := by
  rw [field, field, Bytes.slice_slice data start within]

theorem number?_of_le {data : Bytes} {start stop : Nat} (ordered : start ≤ stop)
    (within : stop ≤ data.length) :
    number? data start stop = some (field data start (stop - start)) := by
  rw [number?, Bytes.range?_of_le ordered within]
  rfl

theorem readHeader?_of_le {data : Bytes} (long : 32 ≤ data.length) :
    readHeader? data = some (readHeader data) := by
  have read (start stop : Nat) (ordered : start ≤ stop) (front : stop ≤ 32) :
      number? data start stop = some (field data start (stop - start)) :=
    number?_of_le ordered (Nat.le_trans front long)
  rw [readHeader?, read 4 8, read 8 10, read 10 12, read 12 16, read 16 20, read 20 21, read 21 22,
    read 22 24, read 24 28] <;> first | rfl | decide

theorem areaSize?_eq_some {data : Bytes} {offset : Nat} (magic : Nat)
    (small : offset + 4 < 2 ^ 64) :
    areaSize? data offset magic = some (areaSize data offset magic) := by
  rw [areaSize?, areaSize, Size.check?_of_lt small]
  simp only [Option.bind_eq_bind, Option.bind_some]
  by_cases short : data.length < offset + 4
  · rw [Bytes.range?_of_lt short, if_pos short]
    rfl
  · have lengthEq : (data.slice offset 4).length = 4 := by
      rw [Bytes.length_slice]
      omega
    have read (start stop : Nat) (ordered : start ≤ stop) (within : stop ≤ 4) :
        number? (data.slice offset 4) start stop =
          some (field data (offset + start) (stop - start)) := by
      rw [number?_of_le ordered (within.trans_eq lengthEq.symm),
        field_slice data offset (by omega)]
    rw [Bytes.range?_of_le (Nat.le_add_right offset 4) (Nat.not_lt.mp short), if_neg short,
      Nat.add_sub_cancel_left]
    simp only [read 0 2 (by decide) (by decide), read 2 4 (by decide) (by decide),
      Option.bind_some, Nat.add_zero]
    split
    · rfl
    · split <;> rfl

theorem areaOffset?_eq_some {data : Bytes} {header : ImageHeader}
    (small : header.areaOffset + 4 < 2 ^ 64) :
    areaOffset? data header = some (areaOffset data header) := by
  rw [ImageHeader.areaOffset] at small
  rw [areaOffset?, areaOffset, Size.check?_of_lt (by omega)]
  simp only [Option.bind_eq_bind, Option.bind_some]
  split
  · rfl
  · rw [areaSize?_eq_some protectedAreaMagic (by omega)]
    cases areaSize data (header.headerSize + header.imageSize) protectedAreaMagic with
    | error problem => rfl
    | ok size =>
        simp only [Option.bind_some, bind, Except.bind]
        by_cases differs : size ≠ header.protectedSize
        · rw [if_pos differs, if_pos differs]
          rfl
        · have sizeEq := not_not.mp differs
          rw [if_neg differs, if_neg differs, Size.check?_of_lt (by omega)]
          rfl

theorem entriesFrom?_eq_some {data : Bytes} {stop position : Nat} (inside : stop ≤ data.length)
    (ordered : position ≤ stop) (small : stop + 4 + 256 ^ 2 < 2 ^ 64) :
    entriesFrom? data stop position =
      some (readEntries (data.slice position (stop - position))) := by
  -- on the number of bytes that are still to be read
  induction left : stop - position using Nat.strong_induction_on generalizing position with
  | h left ih =>
      subst left
      by_cases ended : position = stop
      · rw [entriesFrom?, if_neg (by omega), ended, Nat.sub_self, Bytes.slice_zero, readEntries]
      have lengthEq : (data.slice position (stop - position)).length = stop - position := by
        rw [Bytes.length_slice]
        omega
      have present : data.slice position (stop - position) ≠ [] := by
        apply List.ne_nil_of_length_pos
        omega
      rw [entriesFrom?, if_pos (by omega), readEntries_of_ne_nil present, lengthEq,
        Size.check?_of_lt (by omega)]
      simp only [Option.bind_eq_bind, Option.bind_some]
      by_cases short : stop < position + 4
      · rw [if_pos short, if_pos (by omega)]
        rfl
      have length_lt := field_lt data (position + 2) 2
      rw [if_neg short, if_neg (by omega), number?_of_le (by omega) (by omega),
        number?_of_le (by omega) (by omega), field_slice data position (by omega),
        field_slice data position (by omega), Nat.add_sub_cancel_left,
        show position + 4 - (position + 2) = 2 by omega]
      simp only [Option.bind_some, Nat.add_zero]
      rw [Size.check?_of_lt (by omega)]
      by_cases beyond : stop < position + 4 + field data (position + 2) 2
      · rw [Option.bind_some, if_pos beyond, if_pos (by omega)]
        rfl
      rw [Option.bind_some, if_neg beyond, if_neg (by omega),
        Bytes.range?_of_le (by omega) (by omega), ih _ (by omega) (by omega) rfl,
        Bytes.slice_slice data position (by omega), Bytes.drop_slice, Nat.add_sub_cancel_left,
        Nat.add_assoc, Nat.sub_sub]
      rfl

/-- A reader stays within the file, and its indexes have 64 bits. -/
theorem Container.read?_eq_some (data : Bytes) :
    Container.read? data = some (Container.read data) := by
  rw [Container.read?, Container.read]
  by_cases short : data.length < imageHeaderSize
  · rw [if_pos short, if_pos short]
  have long : 32 ≤ data.length := Nat.not_lt.mp short
  rw [if_neg short, if_neg short, number?_of_le (by omega) (by omega)]
  simp only [Option.bind_eq_bind, Option.bind_some, Nat.sub_zero]
  by_cases foreign : field data 0 4 ≠ imageMagic
  · rw [if_pos foreign, if_pos foreign]
    rfl
  rw [if_neg foreign, if_neg foreign, readHeader?_of_le long]
  have headerSize_lt : (readHeader data).headerSize < 256 ^ 2 := field_lt data 8 2
  have protectedSize_lt : (readHeader data).protectedSize < 256 ^ 2 := field_lt data 10 2
  have imageSize_lt : (readHeader data).imageSize < 256 ^ 4 := field_lt data 12 4
  have offset_lt : (readHeader data).areaOffset < 2 ^ 34 := by
    rw [ImageHeader.areaOffset]
    omega
  simp only [Option.bind_some]
  rw [areaOffset?_eq_some (by omega)]
  cases offsetEq : areaOffset data (readHeader data) with
  | error problem => rfl
  | ok offset =>
      obtain ⟨rfl, -⟩ := areaOffset_eq_ok_iff.mp offsetEq
      simp only [Option.bind_some, bind, Except.bind]
      rw [areaSize?_eq_some areaMagic (by omega)]
      cases sizeEq : areaSize data (readHeader data).areaOffset areaMagic with
      | error problem => rfl
      | ok size =>
          have area := areaSize_eq_ok_iff.mp sizeEq
          have size_lt := area.size_at.2
          have four_le := area.four_le
          simp only [Option.bind_some]
          rw [Size.check?_of_lt (by omega), Option.bind_some]
          by_cases beyond : data.length < (readHeader data).areaOffset + size
          · rw [if_pos beyond, if_pos beyond]
            rfl
          rw [if_neg beyond, if_neg beyond,
            entriesFrom?_eq_some (Nat.not_lt.mp beyond) (by omega) (by omega), Nat.add_sub_add_left]
          cases readEntries (data.slice ((readHeader data).areaOffset + 4) (size - 4)) <;> rfl

end Indexing

/-- A container is read exactly from the files that hold it, whatever fills the protected area.
The hash is the content of the first entry of its kind, and no byte is looked for where there is
none. -/
theorem Container.read_accepts_format (data : Bytes) :
    (∀ container, Container.read data = .ok container ↔ Holds data container) ∧
    (∀ container value, Container.read data = .ok container →
      (container.hash = .ok value ↔ FirstHash container.entries value)) ∧
    (∀ container other, Container.read data = .ok container →
      AgreeOutside data other
        (max 32 (container.header.headerSize + container.header.imageSize + 4))
        container.header.areaOffset →
      Container.read other = .ok container) ∧
    Container.read? data = some (Container.read data) := by
  refine ⟨fun container => Container.read_eq_ok_iff, ?_, ?_, Container.read?_eq_some data⟩
  · intro container value _
    exact Container.hash_eq_ok_iff
  · intro container other read agree
    exact Container.read_eq_ok_iff.mpr ((Container.read_eq_ok_iff.mp read).of_agree agree)

/-- A hash in the protected area is not taken for the one after it, nor is anything else there. -/
theorem Container.read_accepts_format_hashInBothAreas :
    ∃ front : Bytes, ∃ container : Container,
      (∀ filling : Bytes, filling.length = 6 →
        Container.read (front ++ filling ++ [0x07, 0x69, 10, 0, 0x10, 0, 2, 0, 0xaa, 0xbb]) =
          .ok container) ∧
      container.hash = .ok [0xaa, 0xbb] := by
  let front : Bytes :=
    [0x3d, 0xb8, 0xf3, 0x96, 0, 0, 0, 0, 32, 0, 10, 0, 0, 0, 0, 0,
      0, 0, 0, 0, 1, 2, 3, 0, 4, 0, 0, 0, 0, 0, 0, 0, 0x08, 0x69, 10, 0]
  let area : Bytes := [0x07, 0x69, 10, 0, 0x10, 0, 2, 0, 0xaa, 0xbb]
  let container : Container :=
    { header := ⟨0, 32, 10, 0, 0, ⟨1, 2, 3, 4⟩⟩, entries := [⟨0x10, [0xaa, 0xbb]⟩] }
  have holds : Holds (front ++ [0x10, 0, 2, 0, 1, 2] ++ area) container := by
    refine ⟨by decide, by decide, by decide, ?_, ⟨10, ?_, by decide, by decide⟩, by decide⟩
    · intro _
      exact ⟨by decide, by decide, by decide⟩
    · exact ⟨by decide, by decide, by decide⟩
  have accepts := read_accepts_format (front ++ [0x10, 0, 2, 0, 1, 2] ++ area)
  have read := (accepts.1 container).mpr holds
  have hash := (accepts.2.1 container [0xaa, 0xbb] read).mpr
    ⟨[], ⟨0x10, [0xaa, 0xbb]⟩, [], rfl, rfl, by decide, List.forall_mem_nil _⟩
  refine ⟨front, container, ?_, hash⟩
  intro filling six
  exact accepts.2.2.1 container (front ++ filling ++ area) read
    (agreeOutside_append front six area)

end Firmware

end SmpClient
