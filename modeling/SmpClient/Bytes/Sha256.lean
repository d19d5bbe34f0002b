import SmpClient.Bytes.Basic

/-!
# SHA-256

The first chunk of a firmware upload carries this digest of the whole image.
-/

namespace SmpClient

namespace Sha256

/-- The round constants: the first 32 bits of the fractional parts of the cube roots of the
first 64 primes. -/
def constants : Array UInt32 := #[
  0x428a2f98, 0x71374491, 0xb5c0fbcf, 0xe9b5dba5, 0x3956c25b, 0x59f111f1, 0x923f82a4, 0xab1c5ed5,
  0xd807aa98, 0x12835b01, 0x243185be, 0x550c7dc3, 0x72be5d74, 0x80deb1fe, 0x9bdc06a7, 0xc19bf174,
  0xe49b69c1, 0xefbe4786, 0x0fc19dc6, 0x240ca1cc, 0x2de92c6f, 0x4a7484aa, 0x5cb0a9dc, 0x76f988da,
  0x983e5152, 0xa831c66d, 0xb00327c8, 0xbf597fc7, 0xc6e00bf3, 0xd5a79147, 0x06ca6351, 0x14292967,
  0x27b70a85, 0x2e1b2138, 0x4d2c6dfc, 0x53380d13, 0x650a7354, 0x766a0abb, 0x81c2c92e, 0x92722c85,
  0xa2bfe8a1, 0xa81a664b, 0xc24b8b70, 0xc76c51a3, 0xd192e819, 0xd6990624, 0xf40e3585, 0x106aa070,
  0x19a4c116, 0x1e376c08, 0x2748774c, 0x34b0bcb5, 0x391c0cb3, 0x4ed8aa4a, 0x5b9cca4f, 0x682e6ff3,
  0x748f82ee, 0x78a5636f, 0x84c87814, 0x8cc70208, 0x90befffa, 0xa4506ceb, 0xbef9a3f7, 0xc67178f2]

/-- The eight words of the running hash, or of one round. -/
structure Working where
  a : UInt32
  b : UInt32
  c : UInt32
  d : UInt32
  e : UInt32
  f : UInt32
  g : UInt32
  h : UInt32

/-- The hash of nothing: the first 32 bits of the fractional parts of the square roots of the
first eight primes. -/
def start : Working :=
  ⟨0x6a09e667, 0xbb67ae85, 0x3c6ef372, 0xa54ff53a, 0x510e527f, 0x9b05688c, 0x1f83d9ab, 0x5be0cd19⟩

def rotate (word amount : UInt32) : UInt32 :=
  (word >>> amount) ||| (word <<< (32 - amount))

/-- The sixteen words of a block. -/
def words : Bytes → List UInt32
  | first :: second :: third :: fourth :: rest =>
      UInt32.ofNat (Bytes.toNat [first, second, third, fourth]) :: words rest
  | _ => []

/-- The block's words, extended to one for each round. -/
def schedule (block : Bytes) : Array UInt32 :=
  (List.range 48).foldl
    (fun known index =>
      let low := known.getD (index + 1) 0
      let high := known.getD (index + 14) 0
      let lowMix := rotate low 7 ^^^ rotate low 18 ^^^ (low >>> 3)
      let highMix := rotate high 17 ^^^ rotate high 19 ^^^ (high >>> 10)
      known.push (known.getD index 0 + lowMix + known.getD (index + 9) 0 + highMix))
    (words block).toArray

/-- One round with its constant and its schedule word. -/
def round (state : Working) (constant word : UInt32) : Working :=
  let mixE := rotate state.e 6 ^^^ rotate state.e 11 ^^^ rotate state.e 25
  let choice := (state.e &&& state.f) ^^^ (~~~state.e &&& state.g)
  let first := state.h + mixE + choice + constant + word
  let mixA := rotate state.a 2 ^^^ rotate state.a 13 ^^^ rotate state.a 22
  let majority := (state.a &&& state.b) ^^^ (state.a &&& state.c) ^^^ (state.b &&& state.c)
  ⟨first + (mixA + majority), state.a, state.b, state.c, state.d + first, state.e, state.f,
    state.g⟩

/-- The running hash after one 64-byte block. -/
def compress (hash : Working) (block : Bytes) : Working :=
  let known := schedule block
  let final := (List.range 64).foldl
    (fun state index => round state (constants.getD index 0) (known.getD index 0)) hash
  ⟨hash.a + final.a, hash.b + final.b, hash.c + final.c, hash.d + final.d, hash.e + final.e,
    hash.f + final.f, hash.g + final.g, hash.h + final.h⟩

/-- The message, a set bit, zeros, and the length in bits: a multiple of 64 bytes. -/
def padded (message : Bytes) : Bytes :=
  message ++ 0x80 :: List.replicate ((119 - message.length % 64) % 64) 0 ++
    Bytes.ofNat 8 (message.length * 8)

/-- The running hash after `count` blocks. -/
def absorb : (count : Nat) → Working → Bytes → Working
  | 0, hash, _ => hash
  | count + 1, hash, message => absorb count (compress hash (message.take 64)) (message.drop 64)

/-- The 32 bytes of the digest. -/
def digest (message : Bytes) : Bytes :=
  let blocks := padded message
  let hash := absorb (blocks.length / 64) start blocks
  [hash.a, hash.b, hash.c, hash.d, hash.e, hash.f, hash.g, hash.h].flatMap
    fun word => Bytes.ofNat 4 word.toNat

end Sha256

end SmpClient
