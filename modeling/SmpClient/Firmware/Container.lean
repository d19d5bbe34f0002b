import SmpClient.Error

/-!
# Firmware image files

A firmware file starts with a header of 32 bytes.  After the image come one or two areas of
tagged entries; the second, or only one, holds the hash by which the boot loader knows
the image.  Numbers are little-endian.  Signatures are not checked.
-/

namespace SmpClient

namespace Firmware

/-- The version of an image. -/
structure Version where
  major : Nat
  minor : Nat
  revision : Nat
  build : Nat
  deriving DecidableEq, Inhabited

/-- The four numbers with points between them. -/
def Version.text (version : Version) : String :=
  toString version.major ++ "." ++ toString version.minor ++ "." ++ toString version.revision ++
    "." ++ toString version.build

/-- The header of an image file. -/
structure ImageHeader where
  loadAddress : Nat
  headerSize : Nat
  protectedSize : Nat
  imageSize : Nat
  flags : Nat
  version : Version
  deriving DecidableEq, Inhabited

/-- An entry of an area: its kind and its content. -/
structure Entry where
  kind : Nat
  content : Bytes
  deriving DecidableEq, Inhabited

/-- What an image file says about its image. -/
structure Container where
  header : ImageHeader
  entries : List Entry
  deriving DecidableEq, Inhabited

/-- The number that every image file starts with. -/
def imageMagic : Nat := 0x96f3b83d

def imageHeaderSize : Nat := 32

/-- The number that starts the area which may hold the hash. -/
def areaMagic : Nat := 0x6907

/-- The number that starts the area that is covered by the signature. -/
def protectedAreaMagic : Nat := 0x6908

/-- The little-endian number in the `width` bytes at `offset`. -/
def field (data : Bytes) (offset width : Nat) : Nat :=
  Bytes.toNatLittle (data.slice offset width)

/-- The header in the first bytes of a file. -/
def readHeader (data : Bytes) : ImageHeader :=
  { loadAddress := field data 4 4
    headerSize := field data 8 2
    protectedSize := field data 10 2
    imageSize := field data 12 4
    flags := field data 16 4
    version :=
      { major := field data 20 1
        minor := field data 21 1
        revision := field data 22 2
        build := field data 24 4 } }

/-- The size of the area that starts at `offset` with the given magic number.  The four bytes of
the magic number and the size are part of the area. -/
def areaSize (data : Bytes) (offset magic : Nat) : Except BadImage Nat :=
  if data.length < offset + 4 then .error (.noArea offset)
  else
    let found := field data offset 2
    let size := field data (offset + 2) 2
    if found ≠ magic then .error (.areaMagic magic offset found)
    else if size < 4 then .error (.areaTooSmall size)
    else .ok size

/-- The entries that fill an area, each a kind, a length and that many bytes. -/
def readEntries : Bytes → Except BadImage (List Entry)
  | [] => .ok []
  | kindLow :: kindHigh :: lengthLow :: lengthHigh :: rest =>
      let kind := Bytes.toNatLittle [kindLow, kindHigh]
      let length := Bytes.toNatLittle [lengthLow, lengthHigh]
      if rest.length < length then .error (.entryBeyondArea kind)
      else (readEntries (rest.drop length)).map (⟨kind, rest.take length⟩ :: ·)
  | _ => .error .truncatedEntry
termination_by area => area.length
decreasing_by simp only [List.length_drop, List.length_cons]; omega

/-- Where the area that may hold the hash starts, after a protected area if there is one. -/
def areaOffset (data : Bytes) (header : ImageHeader) : Except BadImage Nat :=
  let offset := header.headerSize + header.imageSize
  if header.protectedSize = 0 then .ok offset
  else do
    let size ← areaSize data offset protectedAreaMagic
    if size ≠ header.protectedSize then .error (.protectedSize size header.protectedSize)
    else .ok (offset + size)

def Container.read (data : Bytes) : Except BadImage Container :=
  if data.length < imageHeaderSize then .error (.tooShort data.length)
  else
    let magic := field data 0 4
    if magic ≠ imageMagic then .error (.magic magic)
    else do
      let header := readHeader data
      let offset ← areaOffset data header
      let size ← areaSize data offset areaMagic
      if data.length < offset + size then .error .areaBeyondEnd
      else
        let entries ← readEntries (data.slice (offset + 4) (size - 4))
        return { header, entries }

/-- Whether entries of a kind hold a hash of the image, of 256, 384 or 512 bits. -/
def Entry.isHash (entry : Entry) : Bool :=
  entry.kind == 0x10 || entry.kind == 0x11 || entry.kind == 0x12

/-- The hash by which the boot loader knows the image: the first that the file holds. -/
def Container.hash (container : Container) : Except BadImage Bytes :=
  match container.entries.find? Entry.isHash with
  | some entry => .ok entry.content
  | none => .error .noHash

end Firmware

end SmpClient
