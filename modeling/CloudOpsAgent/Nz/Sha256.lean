/-
  SHA-256 as `hashlib.sha256` computes it on the UTF-8 bytes of a text.

  The development reasons with an abstract `Sha256`; this is the instance the program runs with.
  One block is 64 rounds over a schedule of 64 words; a message is padded to whole blocks.
-/
import CloudOpsAgent.Nz.Canonical

namespace CloudOpsAgent

namespace Sha256

abbrev Word := BitVec 32

/-- The eight working variables. -/
structure Digest where
  (a b c d e f g h : Word)

/-- The first 32 bits of the fractional parts of the square roots of the first 8 primes. -/
def initial : Digest where
  a := 0x6a09e667#32
  b := 0xbb67ae85#32
  c := 0x3c6ef372#32
  d := 0xa54ff53a#32
  e := 0x510e527f#32
  f := 0x9b05688c#32
  g := 0x1f83d9ab#32
  h := 0x5be0cd19#32

/-- The first 32 bits of the fractional parts of the cube roots of the first 64 primes. -/
def roundConstants : List Word := List.map (BitVec.ofNat 32) [
  0x428a2f98, 0x71374491, 0xb5c0fbcf, 0xe9b5dba5, 0x3956c25b, 0x59f111f1,
  0x923f82a4, 0xab1c5ed5, 0xd807aa98, 0x12835b01, 0x243185be, 0x550c7dc3,
  0x72be5d74, 0x80deb1fe, 0x9bdc06a7, 0xc19bf174, 0xe49b69c1, 0xefbe4786,
  0x0fc19dc6, 0x240ca1cc, 0x2de92c6f, 0x4a7484aa, 0x5cb0a9dc, 0x76f988da,
  0x983e5152, 0xa831c66d, 0xb00327c8, 0xbf597fc7, 0xc6e00bf3, 0xd5a79147,
  0x06ca6351, 0x14292967, 0x27b70a85, 0x2e1b2138, 0x4d2c6dfc, 0x53380d13,
  0x650a7354, 0x766a0abb, 0x81c2c92e, 0x92722c85, 0xa2bfe8a1, 0xa81a664b,
  0xc24b8b70, 0xc76c51a3, 0xd192e819, 0xd6990624, 0xf40e3585, 0x106aa070,
  0x19a4c116, 0x1e376c08, 0x2748774c, 0x34b0bcb5, 0x391c0cb3, 0x4ed8aa4a,
  0x5b9cca4f, 0x682e6ff3, 0x748f82ee, 0x78a5636f, 0x84c87814, 0x8cc70208,
  0x90befffa, 0xa4506ceb, 0xbef9a3f7, 0xc67178f2]

/-- The next word of the schedule, from the last sixteen, latest first. -/
def nextWord (latest : List Word) : Word :=
  let w (n : Nat) := latest.getD (n - 1) 0
  let s0 := (w 15).rotateRight 7 ^^^ (w 15).rotateRight 18 ^^^ (w 15) >>> 3
  let s1 := (w 2).rotateRight 17 ^^^ (w 2).rotateRight 19 ^^^ (w 2) >>> 10
  w 16 + s0 + w 7 + s1

/-- `count` more words of the schedule. -/
def extend : (count : Nat) → (latest : List Word) → List Word
  | 0, latest => latest
  | count + 1, latest => extend count (nextWord latest :: latest)

/-- The 64 words of the schedule of a block. -/
def schedule (block : List Word) : List Word := (extend 48 block.reverse).reverse

def round (s : Digest) (k w : Word) : Digest :=
  let s1 := s.e.rotateRight 6 ^^^ s.e.rotateRight 11 ^^^ s.e.rotateRight 25
  let ch := (s.e &&& s.f) ^^^ (~~~s.e &&& s.g)
  let t1 := s.h + s1 + ch + k + w
  let s0 := s.a.rotateRight 2 ^^^ s.a.rotateRight 13 ^^^ s.a.rotateRight 22
  let maj := (s.a &&& s.b) ^^^ (s.a &&& s.c) ^^^ (s.b &&& s.c)
  ⟨t1 + (s0 + maj), s.a, s.b, s.c, s.d + t1, s.e, s.f, s.g⟩

/-- Compress one block of sixteen words. -/
def compress (s : Digest) (block : List Word) : Digest :=
  let t := (roundConstants.zip (schedule block)).foldl (fun t kw => round t kw.1 kw.2) s
  ⟨s.a + t.a, s.b + t.b, s.c + t.c, s.d + t.d, s.e + t.e, s.f + t.f, s.g + t.g, s.h + t.h⟩

/-- The message, a one bit, zeros, and the length in bits as 64 bits: whole blocks of 64 bytes. -/
def pad (message : List UInt8) : List UInt8 :=
  let zeros := (119 - message.length % 64) % 64
  message ++ 0x80 :: List.replicate zeros 0 ++
    (List.range 8).map fun i => UInt8.ofNat (message.length * 8 / 256 ^ (7 - i))

/-- Big-endian words. -/
def words : List UInt8 → List Word
  | a :: b :: c :: d :: rest => (a.toBitVec ++ b.toBitVec ++ c.toBitVec ++ d.toBitVec) :: words rest
  | _ => []

def digest (message : List UInt8) : Sha256Digest :=
  let ws := words (pad message)
  let s := (List.range (ws.length / 16)).foldl
    (fun s i => compress s ((ws.drop (16 * i)).take 16)) initial
  ⟨s.a ++ s.b ++ s.c ++ s.d ++ s.e ++ s.f ++ s.g ++ s.h⟩

/-- `sha256(text.encode("utf-8")).hexdigest()`. -/
abbrev standard : Sha256 := ⟨fun text => digest text.toUTF8.toList⟩

end Sha256

end CloudOpsAgent
