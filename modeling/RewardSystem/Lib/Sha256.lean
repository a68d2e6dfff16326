import Mathlib.Algebra.Order.Ring.Int
import Mathlib.Tactic.Common

/-!
# SHA-256

The digest of FIPS 180-4 for messages of whole bytes, over 32-bit words.
-/

namespace Sha256

abbrev Word := BitVec 32

section Functions

/-- `ROTR^n`. -/
def rotr (x : Word) (n : Nat) : Word :=
  x >>> n ||| x <<< (32 - n)

def ch (x y z : Word) : Word :=
  (x &&& y) ^^^ (~~~x &&& z)

def maj (x y z : Word) : Word :=
  (x &&& y) ^^^ (x &&& z) ^^^ (y &&& z)

def bigSigma0 (x : Word) : Word :=
  rotr x 2 ^^^ rotr x 13 ^^^ rotr x 22

def bigSigma1 (x : Word) : Word :=
  rotr x 6 ^^^ rotr x 11 ^^^ rotr x 25

def smallSigma0 (x : Word) : Word :=
  rotr x 7 ^^^ rotr x 18 ^^^ x >>> 3

def smallSigma1 (x : Word) : Word :=
  rotr x 17 ^^^ rotr x 19 ^^^ x >>> 10

end Functions

section Constants

def firstPrimes : List Nat :=
  [2, 3, 5, 7, 11, 13, 17, 19, 23, 29, 31, 37, 41, 43, 47, 53, 59, 61, 67, 71, 73, 79, 83, 89, 97,
    101, 103, 107, 109, 113, 127, 131, 137, 139, 149, 151, 157, 163, 167, 173, 179, 181, 191, 193,
    197, 199, 211, 223, 227, 229, 233, 239, 241, 251, 257, 263, 269, 271, 277, 281, 283, 293, 307,
    311]

def roundConstants : List Word :=
  [0x428a2f98, 0x71374491, 0xb5c0fbcf, 0xe9b5dba5, 0x3956c25b, 0x59f111f1, 0x923f82a4, 0xab1c5ed5,
    0xd807aa98, 0x12835b01, 0x243185be, 0x550c7dc3, 0x72be5d74, 0x80deb1fe, 0x9bdc06a7, 0xc19bf174,
    0xe49b69c1, 0xefbe4786, 0x0fc19dc6, 0x240ca1cc, 0x2de92c6f, 0x4a7484aa, 0x5cb0a9dc, 0x76f988da,
    0x983e5152, 0xa831c66d, 0xb00327c8, 0xbf597fc7, 0xc6e00bf3, 0xd5a79147, 0x06ca6351, 0x14292967,
    0x27b70a85, 0x2e1b2138, 0x4d2c6dfc, 0x53380d13, 0x650a7354, 0x766a0abb, 0x81c2c92e, 0x92722c85,
    0xa2bfe8a1, 0xa81a664b, 0xc24b8b70, 0xc76c51a3, 0xd192e819, 0xd6990624, 0xf40e3585, 0x106aa070,
    0x19a4c116, 0x1e376c08, 0x2748774c, 0x34b0bcb5, 0x391c0cb3, 0x4ed8aa4a, 0x5b9cca4f, 0x682e6ff3,
    0x748f82ee, 0x78a5636f, 0x84c87814, 0x8cc70208, 0x90befffa, 0xa4506ceb, 0xbef9a3f7, 0xc67178f2]

/-- The round constants are the first 32 bits of the fractional parts of the cube roots of the first
primes. -/
theorem roundConstants_spec : ∀ entry ∈ firstPrimes.zip roundConstants, ∃ whole < 8,
    (whole * 2 ^ 32 + entry.2.toNat) ^ 3 ≤ entry.1 * 2 ^ 96 ∧
      entry.1 * 2 ^ 96 < (whole * 2 ^ 32 + entry.2.toNat + 1) ^ 3 := by
  decide

end Constants

section Rounds

/-- The working variables, or a hash value. -/
structure Registers (α : Type*) where
  a : α
  b : α
  c : α
  d : α
  e : α
  f : α
  g : α
  h : α
  deriving DecidableEq, Repr

namespace Registers

variable {α β : Type*}

def map (f : α → β) (s : Registers α) : Registers β :=
  ⟨f s.a, f s.b, f s.c, f s.d, f s.e, f s.f, f s.g, f s.h⟩

def toList (s : Registers α) : List α :=
  [s.a, s.b, s.c, s.d, s.e, s.f, s.g, s.h]

theorem toList_map (f : α → β) (s : Registers α) : (s.map f).toList = s.toList.map f :=
  rfl

end Registers

def initialHash : Registers Word :=
  ⟨0x6a09e667, 0xbb67ae85, 0x3c6ef372, 0xa54ff53a, 0x510e527f, 0x9b05688c, 0x1f83d9ab, 0x5be0cd19⟩

/-- The initial hash value is the first 32 bits of the fractional parts of the square roots of the
first eight primes. -/
theorem initialHash_spec : ∀ entry ∈ firstPrimes.zip initialHash.toList, ∃ whole < 8,
    (whole * 2 ^ 32 + entry.2.toNat) ^ 2 ≤ entry.1 * 2 ^ 64 ∧
      entry.1 * 2 ^ 64 < (whole * 2 ^ 32 + entry.2.toNat + 1) ^ 2 := by
  decide

/-- The message schedule of a block, up to the word 15 + `count`. -/
def schedule (block : List Word) : Nat → List Word
  | 0 => block
  | count + 1 =>
      let w := schedule block count
      let t := 16 + count
      w ++ [smallSigma1 (w.getD (t - 2) 0) + w.getD (t - 7) 0 + smallSigma0 (w.getD (t - 15) 0) +
        w.getD (t - 16) 0]

def round (constant word : Word) (s : Registers Word) : Registers Word :=
  let t1 := s.h + bigSigma1 s.e + ch s.e s.f s.g + constant + word
  let t2 := bigSigma0 s.a + maj s.a s.b s.c
  ⟨t1 + t2, s.a, s.b, s.c, s.d + t1, s.e, s.f, s.g⟩

def rounds (words : List Word) (s : Registers Word) : Registers Word :=
  (List.range 64).foldl (fun s t => round (roundConstants.getD t 0) (words.getD t 0) s) s

/-- The next hash value. -/
def compress (hash : Registers Word) (block : List Word) : Registers Word :=
  let s := rounds (schedule block 48) hash
  ⟨hash.a + s.a, hash.b + s.b, hash.c + s.c, hash.d + s.d, hash.e + s.e, hash.f + s.f,
    hash.g + s.g, hash.h + s.h⟩

end Rounds

section Padding

/-- The number of zero bytes that fill the last block up to the length. -/
def zeroBytes (length : Nat) : Nat :=
  (119 - length % 64) % 64

/-- The length in bits as a 64-bit big-endian number. -/
def lengthBytes (length : Nat) : List UInt8 :=
  [7, 6, 5, 4, 3, 2, 1, 0].map fun place => UInt8.ofNat (8 * length / 256 ^ place)

def pad (message : List UInt8) : List UInt8 :=
  message ++ [0x80] ++ List.replicate (zeroBytes message.length) 0 ++ lengthBytes message.length

theorem length_pad (message : List UInt8) : (pad message).length % 64 = 0 := by
  simp only [pad, lengthBytes, zeroBytes, List.length_append, List.length_replicate, List.length_map,
    List.length_cons, List.length_nil]
  omega

/-- A word of four bytes, the first one highest. -/
def wordOfBytes (b0 b1 b2 b3 : UInt8) : Word :=
  b0.toBitVec.setWidth 32 <<< 24 ||| b1.toBitVec.setWidth 32 <<< 16 |||
    b2.toBitVec.setWidth 32 <<< 8 ||| b3.toBitVec.setWidth 32

def wordAt (bytes : List UInt8) (place : Nat) : Word :=
  wordOfBytes (bytes.getD place 0) (bytes.getD (place + 1) 0) (bytes.getD (place + 2) 0)
    (bytes.getD (place + 3) 0)

/-- The words of a block of 64 bytes. -/
def blockAt (bytes : List UInt8) (offset : Nat) : List Word :=
  (List.range 16).map fun t => wordAt bytes (offset + t * 4)

end Padding

section Digest

def digest (message : List UInt8) : Registers Word :=
  let padded := pad message
  (List.range (padded.length / 64)).foldl
    (fun hash i => compress hash (blockAt padded (i * 64))) initialHash

/-- The last `count` hexadecimal digits of a number. -/
def hexDigits : Nat → Nat → List Char
  | 0, _ => []
  | count + 1, n => hexDigits count (n / 16) ++ [(n % 16).digitChar]

def hexDigest (message : List UInt8) : String :=
  String.ofList ((digest message).toList.flatMap fun word => hexDigits 8 word.toNat)

example : hexDigest [0x61, 0x62, 0x63] =
    "ba7816bf8f01cfea414140de5dae2223b00361a396177a9cb410ff61f20015ad" := by
  decide +kernel

end Digest

end Sha256
