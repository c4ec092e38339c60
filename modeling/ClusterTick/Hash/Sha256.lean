/-!
# SHA-256

The hash of FIPS 180-4 over byte arrays: padding to whole blocks of sixty-four
bytes, the message schedule of sixty-four words per block and the compression
of each block into eight chaining words.
-/

namespace ClusterTick.Sha256

/-- The first thirty-two bits of the fractional parts of the cube roots of the
first sixty-four primes. -/
def roundConstants : List UInt32 := [
  0x428a2f98, 0x71374491, 0xb5c0fbcf, 0xe9b5dba5, 0x3956c25b, 0x59f111f1,
  0x923f82a4, 0xab1c5ed5, 0xd807aa98, 0x12835b01, 0x243185be, 0x550c7dc3,
  0x72be5d74, 0x80deb1fe, 0x9bdc06a7, 0xc19bf174, 0xe49b69c1, 0xefbe4786,
  0x0fc19dc6, 0x240ca1cc, 0x2de92c6f, 0x4a7484aa, 0x5cb0a9dc, 0x76f988da,
  0x983e5152, 0xa831c66d, 0xb00327c8, 0xbf597fc7, 0xc6e00bf3, 0xd5a79147,
  0x06ca6351, 0x14292967, 0x27b70a85, 0x2e1b2138, 0x4d2c6dfc, 0x53380d13,
  0x650a7354, 0x766a0abb, 0x81c2c92e, 0x92722c85, 0xa2bfe8a1, 0xa81a664b,
  0xc24b8b70, 0xc76c51a3, 0xd192e819, 0xd6990624, 0xf40e3585, 0x106aa070,
  0x19a4c116, 0x1e376c08, 0x2748774c, 0x34b0bcb5, 0x391c0cb3, 0x4ed8aa4a,
  0x5b9cca4f, 0x682e6ff3, 0x748f82ee, 0x78a5636f, 0x84c87814, 0x8cc70208,
  0x90befffa, 0xa4506ceb, 0xbef9a3f7, 0xc67178f2]

/-- The eight chaining words. -/
structure State where
  a : UInt32
  b : UInt32
  c : UInt32
  d : UInt32
  e : UInt32
  f : UInt32
  g : UInt32
  h : UInt32
  deriving DecidableEq, Repr

/-- The first thirty-two bits of the fractional parts of the square roots of
the first eight primes. -/
def initialState : State :=
  ⟨0x6a09e667, 0xbb67ae85, 0x3c6ef372, 0xa54ff53a, 0x510e527f, 0x9b05688c,
    0x1f83d9ab, 0x5be0cd19⟩

def rotateRight (word : UInt32) (amount : UInt32) : UInt32 :=
  (word >>> amount) ||| (word <<< (32 - amount))

def sigma0 (word : UInt32) : UInt32 :=
  rotateRight word 7 ^^^ rotateRight word 18 ^^^ (word >>> 3)

def sigma1 (word : UInt32) : UInt32 :=
  rotateRight word 17 ^^^ rotateRight word 19 ^^^ (word >>> 10)

/-- One round with its schedule word and its constant. -/
def round (state : State) (word constant : UInt32) : State :=
  let sum1 :=
    rotateRight state.e 6 ^^^ rotateRight state.e 11 ^^^ rotateRight state.e 25
  let choice := (state.e &&& state.f) ^^^ ((state.e ^^^ 0xffffffff) &&& state.g)
  let first := state.h + sum1 + choice + constant + word
  let sum0 :=
    rotateRight state.a 2 ^^^ rotateRight state.a 13 ^^^ rotateRight state.a 22
  let majority :=
    (state.a &&& state.b) ^^^ (state.a &&& state.c) ^^^ (state.b &&& state.c)
  ⟨first + (sum0 + majority), state.a, state.b, state.c, state.d + first,
    state.e, state.f, state.g⟩

/-- The number of zero bytes between the end mark and the length. -/
def paddingZeros (size : Nat) : Nat := (119 - size % 64) % 64

/-- The big-endian bytes of a length in bits. -/
def lengthBytes (size : Nat) : List UInt8 :=
  (List.range 8).map fun index => UInt8.ofNat ((size * 8) >>> (8 * (7 - index)))

/-- A message with its end mark, zeros and length: whole blocks. -/
def padded (message : List UInt8) : Array UInt8 :=
  (message ++ 0x80 :: List.replicate (paddingZeros message.length) 0 ++
    lengthBytes message.length).toArray

/-- The big-endian word at a byte position. -/
def wordAt (bytes : Array UInt8) (position : Nat) : UInt32 :=
  (List.range 4).foldl
    (fun word index => word * 256 + (bytes.getD (position + index) 0).toUInt32)
    0

/-- The schedule of the block at a byte position: sixteen message words and
forty-eight derived ones. -/
def schedule (bytes : Array UInt8) (position : Nat) : Array UInt32 :=
  let input :=
    ((List.range 16).map fun index =>
      wordAt bytes (position + 4 * index)).toArray
  (List.range 48).foldl
    (fun words _ =>
      let word (back : Nat) := words.getD (words.size - back) 0
      words.push (sigma1 (word 2) + word 7 + sigma0 (word 15) + word 16))
    input

/-- The chaining words after one more block. -/
def compress (state : State) (bytes : Array UInt8) (position : Nat) : State :=
  let final := ((schedule bytes position).toList.zip roundConstants).foldl
    (fun state entry => round state entry.1 entry.2) state
  ⟨state.a + final.a, state.b + final.b, state.c + final.c, state.d + final.d,
    state.e + final.e, state.f + final.f, state.g + final.g, state.h + final.h⟩

/-- The big-endian bytes of a word. -/
def wordBytes (word : UInt32) : List UInt8 :=
  [(word >>> 24).toUInt8, (word >>> 16).toUInt8, (word >>> 8).toUInt8,
    word.toUInt8]

/-- The thirty-two bytes of the hash of a message. -/
def hash (message : List UInt8) : List UInt8 :=
  let bytes := padded message
  let final := (List.range (bytes.size / 64)).foldl
    (fun state index => compress state bytes (64 * index)) initialState
  [final.a, final.b, final.c, final.d, final.e, final.f, final.g,
      final.h].flatMap wordBytes

end ClusterTick.Sha256
