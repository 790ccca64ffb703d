/-!
# SHA-256 digests

Keys are kept and compared by their digests only.  A message is padded to whole blocks of 64 bytes,
and each block is mixed into eight words of 32 bits in 64 rounds.
-/

namespace RunnerGateway
namespace Access

/-- A digest of 32 bytes. -/
abbrev Digest := List UInt8

namespace Digest

/-- The bits of a word turned to the right. -/
def turn (x : UInt32) (n : UInt32) : UInt32 :=
  (x >>> n) ||| (x <<< (32 - n))

/-- The constants of the rounds: the first bits of the cube roots of the first 64 primes, after the
point. -/
def roundConstants : List UInt32 := [
  0x428a2f98, 0x71374491, 0xb5c0fbcf, 0xe9b5dba5, 0x3956c25b, 0x59f111f1, 0x923f82a4, 0xab1c5ed5,
  0xd807aa98, 0x12835b01, 0x243185be, 0x550c7dc3, 0x72be5d74, 0x80deb1fe, 0x9bdc06a7, 0xc19bf174,
  0xe49b69c1, 0xefbe4786, 0x0fc19dc6, 0x240ca1cc, 0x2de92c6f, 0x4a7484aa, 0x5cb0a9dc, 0x76f988da,
  0x983e5152, 0xa831c66d, 0xb00327c8, 0xbf597fc7, 0xc6e00bf3, 0xd5a79147, 0x06ca6351, 0x14292967,
  0x27b70a85, 0x2e1b2138, 0x4d2c6dfc, 0x53380d13, 0x650a7354, 0x766a0abb, 0x81c2c92e, 0x92722c85,
  0xa2bfe8a1, 0xa81a664b, 0xc24b8b70, 0xc76c51a3, 0xd192e819, 0xd6990624, 0xf40e3585, 0x106aa070,
  0x19a4c116, 0x1e376c08, 0x2748774c, 0x34b0bcb5, 0x391c0cb3, 0x4ed8aa4a, 0x5b9cca4f, 0x682e6ff3,
  0x748f82ee, 0x78a5636f, 0x84c87814, 0x8cc70208, 0x90befffa, 0xa4506ceb, 0xbef9a3f7, 0xc67178f2]

/-- The eight words that the blocks are mixed into. -/
structure State where
  a : UInt32
  b : UInt32
  c : UInt32
  d : UInt32
  e : UInt32
  f : UInt32
  g : UInt32
  h : UInt32

/-- The words before the first block: the first bits of the square roots of the first eight primes,
after the point. -/
def start : State where
  a := 0x6a09e667
  b := 0xbb67ae85
  c := 0x3c6ef372
  d := 0xa54ff53a
  e := 0x510e527f
  f := 0x9b05688c
  g := 0x1f83d9ab
  h := 0x5be0cd19

/-- The words added one by one. -/
def State.add (s t : State) : State where
  a := s.a + t.a
  b := s.b + t.b
  c := s.c + t.c
  d := s.d + t.d
  e := s.e + t.e
  f := s.f + t.f
  g := s.g + t.g
  h := s.h + t.h

/-- One round, with its constant and its word of the schedule. -/
def round (s : State) (kw : UInt32 × UInt32) : State :=
  let mixE := turn s.e 6 ^^^ turn s.e 11 ^^^ turn s.e 25
  let choice := (s.e &&& s.f) ^^^ ((s.e ^^^ 0xffffffff) &&& s.g)
  let first := s.h + mixE + choice + kw.1 + kw.2
  let mixA := turn s.a 2 ^^^ turn s.a 13 ^^^ turn s.a 22
  let majority := (s.a &&& s.b) ^^^ (s.a &&& s.c) ^^^ (s.b &&& s.c)
  let second := mixA + majority
  { a := first + second, b := s.a, c := s.b, d := s.c
    e := s.d + first, f := s.e, g := s.f, h := s.g }

/-- The word of four bytes, the first one highest. -/
def word (a b c d : UInt8) : UInt32 :=
  (a.toUInt32 <<< 24) ||| (b.toUInt32 <<< 16) ||| (c.toUInt32 <<< 8) ||| d.toUInt32

/-- The words of a block. -/
def words : List UInt8 → List UInt32
  | a :: b :: c :: d :: rest => word a b c d :: words rest
  | _ => []

/-- The next word of a schedule whose words are given last first. -/
def nextWord (done : List UInt32) : UInt32 :=
  let back (n : Nat) : UInt32 := done.getD (n - 1) 0
  let mix15 := turn (back 15) 7 ^^^ turn (back 15) 18 ^^^ (back 15 >>> 3)
  let mix2 := turn (back 2) 17 ^^^ turn (back 2) 19 ^^^ (back 2 >>> 10)
  back 16 + mix15 + back 7 + mix2

/-- The schedule of a block with `n` more words, last first. -/
def extend : (n : Nat) → List UInt32 → List UInt32
  | 0, done => done
  | n + 1, done => extend n (nextWord done :: done)

/-- The words of the 64 rounds of a block. -/
def schedule (block : List UInt8) : List UInt32 :=
  (extend 48 (words block).reverse).reverse

/-- Mixes one block into the words. -/
def mixBlock (s : State) (block : List UInt8) : State :=
  s.add ((roundConstants.zip (schedule block)).foldl round s)

/-- The bytes of a number of 64 bits, the highest one first. -/
def lengthBytes (n : Nat) : List UInt8 :=
  (List.range 8).reverse.map fun k => UInt8.ofNat (n / Nat.pow 256 k)

/-- The message with a mark at its end and its length in bits at the end of its last block. -/
def pad (message : List UInt8) : List UInt8 :=
  let zeros := (119 - message.length % 64) % 64
  message ++ [0x80] ++ List.replicate zeros 0 ++ lengthBytes (8 * message.length)

/-- The first `count` blocks of 64 bytes. -/
def blocks : (count : Nat) → List UInt8 → List (List UInt8)
  | 0, _ => []
  | count + 1, bytes => bytes.take 64 :: blocks count (bytes.drop 64)

/-- The bytes of a word, the highest one first. -/
def wordBytes (w : UInt32) : List UInt8 :=
  [(w >>> 24).toUInt8, (w >>> 16).toUInt8, (w >>> 8).toUInt8, w.toUInt8]

/-- The bytes of the eight words. -/
def State.bytes (s : State) : List UInt8 :=
  [s.a, s.b, s.c, s.d, s.e, s.f, s.g, s.h].flatMap wordBytes

/-- The digest of a message. -/
def ofBytes (message : List UInt8) : Digest :=
  let padded := pad message
  ((blocks (padded.length / 64) padded).foldl mixBlock start).bytes

/-- The digest of a text. -/
def ofText (text : String) : Digest :=
  ofBytes text.toUTF8.toList

end Digest
end Access
end RunnerGateway
