import RouteAtlas.Text.Utf8

/-!
# SHA-256

The digest behind route identifiers. A message is padded to whole blocks of 64 bytes; each block
is expanded to 64 words and mixed into a state of eight words in as many rounds.

Everything is computed on machine words and lists of bytes, so the kernel can evaluate the digest of
a short message. Nothing about the digest is assumed anywhere: whatever is proved of identifiers
either holds for any digest or says what happens when two messages share one.
-/

namespace RouteAtlas.Digest

/-- The words that the rounds add: the first 32 bits of the fractional parts of the cube roots of
the first 64 primes. -/
def roundWords : List UInt32 :=
  [0x428a2f98, 0x71374491, 0xb5c0fbcf, 0xe9b5dba5, 0x3956c25b, 0x59f111f1, 0x923f82a4, 0xab1c5ed5,
   0xd807aa98, 0x12835b01, 0x243185be, 0x550c7dc3, 0x72be5d74, 0x80deb1fe, 0x9bdc06a7, 0xc19bf174,
   0xe49b69c1, 0xefbe4786, 0x0fc19dc6, 0x240ca1cc, 0x2de92c6f, 0x4a7484aa, 0x5cb0a9dc, 0x76f988da,
   0x983e5152, 0xa831c66d, 0xb00327c8, 0xbf597fc7, 0xc6e00bf3, 0xd5a79147, 0x06ca6351, 0x14292967,
   0x27b70a85, 0x2e1b2138, 0x4d2c6dfc, 0x53380d13, 0x650a7354, 0x766a0abb, 0x81c2c92e, 0x92722c85,
   0xa2bfe8a1, 0xa81a664b, 0xc24b8b70, 0xc76c51a3, 0xd192e819, 0xd6990624, 0xf40e3585, 0x106aa070,
   0x19a4c116, 0x1e376c08, 0x2748774c, 0x34b0bcb5, 0x391c0cb3, 0x4ed8aa4a, 0x5b9cca4f, 0x682e6ff3,
   0x748f82ee, 0x78a5636f, 0x84c87814, 0x8cc70208, 0x90befffa, 0xa4506ceb, 0xbef9a3f7, 0xc67178f2]

/-- The chaining state. -/
structure State where
  a : UInt32
  b : UInt32
  c : UInt32
  d : UInt32
  e : UInt32
  f : UInt32
  g : UInt32
  h : UInt32

/-- The state before the first block: the first 32 bits of the fractional parts of the square roots
of the first eight primes. -/
def State.initial : State :=
  ⟨0x6a09e667, 0xbb67ae85, 0x3c6ef372, 0xa54ff53a, 0x510e527f, 0x9b05688c, 0x1f83d9ab, 0x5be0cd19⟩

/-- The word turned right by `n` bits, `n` between 1 and 31. -/
def turnRight (x n : UInt32) : UInt32 := (x >>> n) ||| (x <<< (32 - n))

/-- The next word of a block's schedule from the words before, the latest first. -/
def nextWord (words : Array UInt32) : UInt32 :=
  let back := fun n => words.getD (words.size - n) 0
  let x := back 15
  let y := back 2
  back 16 + (turnRight x 7 ^^^ turnRight x 18 ^^^ (x >>> 3)) + back 7
    + (turnRight y 17 ^^^ turnRight y 19 ^^^ (y >>> 10))

/-- Words added to a schedule, `n` of them. -/
def extendSchedule : Nat → Array UInt32 → Array UInt32
  | 0, words => words
  | n + 1, words => extendSchedule n (words.push (nextWord words))

/-- One round. -/
def round (s : State) (schedule constant : UInt32) : State :=
  let big1 := turnRight s.e 6 ^^^ turnRight s.e 11 ^^^ turnRight s.e 25
  let choice := (s.e &&& s.f) ^^^ ((~~~ s.e) &&& s.g)
  let first := s.h + big1 + choice + constant + schedule
  let big0 := turnRight s.a 2 ^^^ turnRight s.a 13 ^^^ turnRight s.a 22
  let majority := (s.a &&& s.b) ^^^ (s.a &&& s.c) ^^^ (s.b &&& s.c)
  ⟨first + (big0 + majority), s.a, s.b, s.c, s.d + first, s.e, s.f, s.g⟩

/-- The state after one more block of sixteen words. -/
def absorb (s : State) (block : List UInt32) : State :=
  let schedule := extendSchedule 48 block.toArray
  let t := (schedule.toList.zip roundWords).foldl (fun s (word, constant) => round s word constant) s
  ⟨s.a + t.a, s.b + t.b, s.c + t.c, s.d + t.d, s.e + t.e, s.f + t.f, s.g + t.g, s.h + t.h⟩

/-- The bytes of a number below `2 ^ (8 * width)`, the highest first. -/
def bigEndian (width n : Nat) : Bytes :=
  (List.range width).reverse.map fun k => UInt8.ofNat (n / Nat.pow 256 k % 256)

/-- The message with the mark bit, zeros and its length in bits, filling whole blocks. -/
def pad (message : Bytes) : Bytes :=
  let zeros := (119 - message.length % 64) % 64
  message ++ 0x80 :: List.replicate zeros 0 ++ bigEndian 8 (8 * message.length)

/-- The words of four bytes each. -/
def wordsOf : Bytes → List UInt32
  | a :: b :: c :: d :: rest =>
    ((a.toUInt32 <<< 24) ||| (b.toUInt32 <<< 16) ||| (c.toUInt32 <<< 8) ||| d.toUInt32)
      :: wordsOf rest
  | _ => []

/-- Absorbs a number of blocks of sixteen words each. -/
def absorbBlocks : Nat → List UInt32 → State → State
  | 0, _, s => s
  | n + 1, words, s => absorbBlocks n (words.drop 16) (absorb s (words.take 16))

/-- The digest of a message: 64 lower-case hexadecimal digits. -/
def sha256 (message : Bytes) : Text :=
  let words := wordsOf (pad message)
  let s := absorbBlocks (words.length / 16) words .initial
  [s.a, s.b, s.c, s.d, s.e, s.f, s.g, s.h].flatMap fun word =>
    (bigEndian 4 word.toNat).flatMap fun byte =>
      [Nat.digitChar (byte.toNat / 16), Nat.digitChar (byte.toNat % 16)]

end RouteAtlas.Digest
