import NodeProvisioning.Text.Hex

/-!
# The SHA-256 digest

A message is padded to whole blocks of 64 bytes; each block is stretched to 64 words and mixed into
eight words of state, which are the digest at the end.

## Main definitions

* `Digest.Sha256.pad` — the message with its length, in whole blocks
* `Digest.Sha256.schedule` — the 64 words of a block
* `Digest.Sha256.compress` — one block mixed into the state
* `Digest.sha256` — the digest of a list of bytes, as 32 bytes
-/

namespace NodeProvisioning.Digest

namespace Sha256

/-- The eight working words. -/
structure State where
  (a b c d e f g h : UInt32)
deriving DecidableEq

/-- The fractional parts of the square roots of the first eight primes. -/
def initial : State :=
  ⟨0x6a09e667, 0xbb67ae85, 0x3c6ef372, 0xa54ff53a, 0x510e527f, 0x9b05688c, 0x1f83d9ab, 0x5be0cd19⟩

/-- The fractional parts of the cube roots of the first sixty-four primes. -/
def roundConstants : List UInt32 := [
  0x428a2f98, 0x71374491, 0xb5c0fbcf, 0xe9b5dba5, 0x3956c25b, 0x59f111f1, 0x923f82a4, 0xab1c5ed5,
  0xd807aa98, 0x12835b01, 0x243185be, 0x550c7dc3, 0x72be5d74, 0x80deb1fe, 0x9bdc06a7, 0xc19bf174,
  0xe49b69c1, 0xefbe4786, 0x0fc19dc6, 0x240ca1cc, 0x2de92c6f, 0x4a7484aa, 0x5cb0a9dc, 0x76f988da,
  0x983e5152, 0xa831c66d, 0xb00327c8, 0xbf597fc7, 0xc6e00bf3, 0xd5a79147, 0x06ca6351, 0x14292967,
  0x27b70a85, 0x2e1b2138, 0x4d2c6dfc, 0x53380d13, 0x650a7354, 0x766a0abb, 0x81c2c92e, 0x92722c85,
  0xa2bfe8a1, 0xa81a664b, 0xc24b8b70, 0xc76c51a3, 0xd192e819, 0xd6990624, 0xf40e3585, 0x106aa070,
  0x19a4c116, 0x1e376c08, 0x2748774c, 0x34b0bcb5, 0x391c0cb3, 0x4ed8aa4a, 0x5b9cca4f, 0x682e6ff3,
  0x748f82ee, 0x78a5636f, 0x84c87814, 0x8cc70208, 0x90befffa, 0xa4506ceb, 0xbef9a3f7, 0xc67178f2]

/-- The word turned right by `n` bits. -/
def rotateRight (x n : UInt32) : UInt32 := (x >>> n) ||| (x <<< (32 - n))

/-- A number below 2^64 as eight bytes, the most significant first. -/
def lengthBytes (n : Nat) : List UInt8 :=
  [56, 48, 40, 32, 24, 16, 8, 0].map fun shift => UInt8.ofNat (n >>> shift)

/-- The message followed by a one bit, zeros, and its length in bits, in whole blocks. -/
def pad (message : List UInt8) : List UInt8 :=
  let zeros := (119 - message.length % 64) % 64
  message ++ 0x80 :: List.replicate zeros 0 ++ lengthBytes (8 * message.length)

/-- Four bytes to a word, the most significant first. -/
def words : List UInt8 → List UInt32
  | a :: b :: c :: d :: rest =>
    ((a.toUInt32 <<< 24) ||| (b.toUInt32 <<< 16) ||| (c.toUInt32 <<< 8) ||| d.toUInt32) ::
      words rest
  | _ => []

/-- The word that follows sixteen words, the last of which comes first in `recent`. -/
def nextWord (recent : List UInt32) : UInt32 :=
  match recent with
  | [_, w2, _, _, _, _, w7, _, _, _, _, _, _, _, w15, w16] =>
    let s0 := rotateRight w15 7 ^^^ rotateRight w15 18 ^^^ (w15 >>> 3)
    let s1 := rotateRight w2 17 ^^^ rotateRight w2 19 ^^^ (w2 >>> 10)
    w16 + s0 + w7 + s1
  | _ => 0

/-- `count` more words after those given, the last of which comes first. -/
def stretch : (count : Nat) → List UInt32 → List UInt32
  | 0, acc => acc
  | count + 1, acc => stretch count (nextWord (acc.take 16) :: acc)

/-- The sixty-four words of a block of sixteen. -/
def schedule (block : List UInt32) : List UInt32 := (stretch 48 block.reverse).reverse

/-- One round: a word of the schedule with the constant of its place. -/
def round (s : State) (kw : UInt32 × UInt32) : State :=
  let s1 := rotateRight s.e 6 ^^^ rotateRight s.e 11 ^^^ rotateRight s.e 25
  let choice := (s.e &&& s.f) ^^^ (~~~ s.e &&& s.g)
  let t1 := s.h + s1 + choice + kw.1 + kw.2
  let s0 := rotateRight s.a 2 ^^^ rotateRight s.a 13 ^^^ rotateRight s.a 22
  let majority := (s.a &&& s.b) ^^^ (s.a &&& s.c) ^^^ (s.b &&& s.c)
  ⟨t1 + (s0 + majority), s.a, s.b, s.c, s.d + t1, s.e, s.f, s.g⟩

/-- One block mixed into the state. -/
def compress (s : State) (block : List UInt32) : State :=
  let t := (roundConstants.zip (schedule block)).foldl round s
  ⟨s.a + t.a, s.b + t.b, s.c + t.c, s.d + t.d, s.e + t.e, s.f + t.f, s.g + t.g, s.h + t.h⟩

/-- The blocks of sixteen words, at most `count` of them. -/
def blocks : (count : Nat) → List UInt32 → List (List UInt32)
  | 0, _ => []
  | count + 1, ws => if ws.isEmpty then [] else ws.take 16 :: blocks count (ws.drop 16)

/-- The state after a padded message. -/
def absorb (padded : List UInt8) : State :=
  let ws := words padded
  (blocks (ws.length / 16 + 1) ws).foldl compress initial

/-- The eight words of a state, first to last. -/
def State.toList (s : State) : List UInt32 := [s.a, s.b, s.c, s.d, s.e, s.f, s.g, s.h]

end Sha256

/-- The SHA-256 digest of a message, as eight words. -/
def sha256 (message : List UInt8) : List UInt32 := (Sha256.absorb (Sha256.pad message)).toList

/-- The SHA-256 digest of a text in UTF-8, in lower-case hexadecimal. -/
def sha256Hex (text : String) : List Char :=
  (sha256 text.toUTF8.toList).flatMap fun w => Text.hexFixed 8 w.toNat

end NodeProvisioning.Digest
