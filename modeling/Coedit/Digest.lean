import Coedit.Bytes

/-!
# SHA-256

The 256-bit digest of a byte string (FIPS 180-4).  Entries of a shared lock
directory are named by the digest of their key.
-/

namespace Coedit.Digest

/-- The round constants: fractional parts of the cube roots of the first
sixty-four primes. -/
def roundConstants : Array UInt32 := #[
  0x428a2f98, 0x71374491, 0xb5c0fbcf, 0xe9b5dba5, 0x3956c25b, 0x59f111f1, 0x923f82a4, 0xab1c5ed5,
  0xd807aa98, 0x12835b01, 0x243185be, 0x550c7dc3, 0x72be5d74, 0x80deb1fe, 0x9bdc06a7, 0xc19bf174,
  0xe49b69c1, 0xefbe4786, 0x0fc19dc6, 0x240ca1cc, 0x2de92c6f, 0x4a7484aa, 0x5cb0a9dc, 0x76f988da,
  0x983e5152, 0xa831c66d, 0xb00327c8, 0xbf597fc7, 0xc6e00bf3, 0xd5a79147, 0x06ca6351, 0x14292967,
  0x27b70a85, 0x2e1b2138, 0x4d2c6dfc, 0x53380d13, 0x650a7354, 0x766a0abb, 0x81c2c92e, 0x92722c85,
  0xa2bfe8a1, 0xa81a664b, 0xc24b8b70, 0xc76c51a3, 0xd192e819, 0xd6990624, 0xf40e3585, 0x106aa070,
  0x19a4c116, 0x1e376c08, 0x2748774c, 0x34b0bcb5, 0x391c0cb3, 0x4ed8aa4a, 0x5b9cca4f, 0x682e6ff3,
  0x748f82ee, 0x78a5636f, 0x84c87814, 0x8cc70208, 0x90befffa, 0xa4506ceb, 0xbef9a3f7, 0xc67178f2]

/-- The eight working words. -/
structure State where
  a : UInt32
  b : UInt32
  c : UInt32
  d : UInt32
  e : UInt32
  f : UInt32
  g : UInt32
  h : UInt32

/-- The state before any block: fractional parts of the square roots of the
first eight primes. -/
def State.initial : State :=
  ⟨0x6a09e667, 0xbb67ae85, 0x3c6ef372, 0xa54ff53a, 0x510e527f, 0x9b05688c, 0x1f83d9ab, 0x5be0cd19⟩

def rotateRight (word amount : UInt32) : UInt32 :=
  (word >>> amount) ||| (word <<< (32 - amount))

/-- A big-endian word. -/
def wordAt (block : Array UInt8) (index : Nat) : UInt32 :=
  (block.getD (4 * index) 0).toUInt32 <<< 24 ||| (block.getD (4 * index + 1) 0).toUInt32 <<< 16 |||
    (block.getD (4 * index + 2) 0).toUInt32 <<< 8 ||| (block.getD (4 * index + 3) 0).toUInt32

/-- The sixty-four words scheduled for one block. -/
def schedule (block : Array UInt8) : Array UInt32 :=
  let start := (Array.range 16).map (wordAt block)
  (List.range 48).foldl (fun words step =>
    let index := step + 16
    let low := words.getD (index - 15) 0
    let high := words.getD (index - 2) 0
    let s0 := rotateRight low 7 ^^^ rotateRight low 18 ^^^ (low >>> 3)
    let s1 := rotateRight high 17 ^^^ rotateRight high 19 ^^^ (high >>> 10)
    words.push (words.getD (index - 16) 0 + s0 + words.getD (index - 7) 0 + s1)) start

/-- One of the sixty-four rounds. -/
def State.round (state : State) (constant word : UInt32) : State :=
  let s1 := rotateRight state.e 6 ^^^ rotateRight state.e 11 ^^^ rotateRight state.e 25
  let choice := (state.e &&& state.f) ^^^ ((~~~ state.e) &&& state.g)
  let first := state.h + s1 + choice + constant + word
  let s0 := rotateRight state.a 2 ^^^ rotateRight state.a 13 ^^^ rotateRight state.a 22
  let majority := (state.a &&& state.b) ^^^ (state.a &&& state.c) ^^^ (state.b &&& state.c)
  ⟨first + (s0 + majority), state.a, state.b, state.c, state.d + first, state.e, state.f, state.g⟩

/-- Absorb one block of sixty-four bytes. -/
def State.absorb (state : State) (block : Array UInt8) : State :=
  let words := schedule block
  let mixed := (List.range 64).foldl
    (fun mixing index => mixing.round (roundConstants.getD index 0) (words.getD index 0)) state
  ⟨state.a + mixed.a, state.b + mixed.b, state.c + mixed.c, state.d + mixed.d,
    state.e + mixed.e, state.f + mixed.f, state.g + mixed.g, state.h + mixed.h⟩

/-- The message followed by a one bit, zeros, and its length in bits, so that
it fills whole blocks. -/
def pad (message : Bytes) : Array UInt8 :=
  let size := message.length
  let zeros := (119 - size % 64) % 64
  let length := (Bytes.ofNatLE 8 (8 * size)).reverse
  message.toArray ++ #[(0x80 : UInt8)] ++ Array.replicate zeros 0 ++ length.toArray

/-- The digest, as thirty-two bytes. -/
def sha256 (message : Bytes) : Bytes :=
  let padded := pad message
  let final := (List.range (padded.size / 64)).foldl
    (fun state index => state.absorb (padded.extract (64 * index) (64 * index + 64))) State.initial
  [final.a, final.b, final.c, final.d, final.e, final.f, final.g, final.h].flatMap
    fun word => (Bytes.ofNatLE 4 word.toNat).reverse

end Coedit.Digest
