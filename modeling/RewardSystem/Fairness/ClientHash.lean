import Mathlib.Data.List.GetD
import RewardSystem.Lib.JsInteger
import RewardSystem.Lib.Sha256

/-!
# The hash that a client computes

The client checks a revealed seed with a SHA-256 of its own, written with JavaScript's numbers. A
sum that leaves the exact integers is no result.
-/

namespace RewardSystem.Fairness

open JsInteger Sha256

section Client

def sha256InitialState : Registers Int :=
  ⟨0x6a09e667, 0xbb67ae85, 0x3c6ef372, 0xa54ff53a, 0x510e527f, 0x9b05688c, 0x1f83d9ab, 0x5be0cd19⟩

def sha256K : List Int :=
  [0x428a2f98, 0x71374491, 0xb5c0fbcf, 0xe9b5dba5, 0x3956c25b, 0x59f111f1, 0x923f82a4, 0xab1c5ed5,
    0xd807aa98, 0x12835b01, 0x243185be, 0x550c7dc3, 0x72be5d74, 0x80deb1fe, 0x9bdc06a7, 0xc19bf174,
    0xe49b69c1, 0xefbe4786, 0x0fc19dc6, 0x240ca1cc, 0x2de92c6f, 0x4a7484aa, 0x5cb0a9dc, 0x76f988da,
    0x983e5152, 0xa831c66d, 0xb00327c8, 0xbf597fc7, 0xc6e00bf3, 0xd5a79147, 0x06ca6351, 0x14292967,
    0x27b70a85, 0x2e1b2138, 0x4d2c6dfc, 0x53380d13, 0x650a7354, 0x766a0abb, 0x81c2c92e, 0x92722c85,
    0xa2bfe8a1, 0xa81a664b, 0xc24b8b70, 0xc76c51a3, 0xd192e819, 0xd6990624, 0xf40e3585, 0x106aa070,
    0x19a4c116, 0x1e376c08, 0x2748774c, 0x34b0bcb5, 0x391c0cb3, 0x4ed8aa4a, 0x5b9cca4f, 0x682e6ff3,
    0x748f82ee, 0x78a5636f, 0x84c87814, 0x8cc70208, 0x90befffa, 0xa4506ceb, 0xbef9a3f7, 0xc67178f2]

def rightRotate (value : Int) (shift : Nat) : Int :=
  bitOr (unsignedShift value shift) (shiftLeft value (32 - shift))

def pushZeros (padded : List Int) : List Int :=
  if padded.length % 64 ≠ 56 then pushZeros (padded ++ [0]) else padded
termination_by (120 - padded.length % 64) % 64
decreasing_by
  simp only [List.length_append, List.length_singleton]
  omega

/-- The four bytes of a 32-bit number, the highest first. -/
def splitBytes (bits : Int) : List Int :=
  [24, 16, 8, 0].map fun shift => bitAnd (unsignedShift bits shift) 0xff

def padBytes (bytes : List UInt8) : Option (List Int) := do
  let bitLength ← checked (bytes.length * 8)
  let highBits := bitLength / 0x100000000
  let lowBits := unsignedShift bitLength 0
  let padded := pushZeros (bytes.map (fun byte => (byte.toNat : Int)) ++ [0x80])
  some (padded ++ splitBytes highBits ++ splitBytes lowBits)

/-- An element of an array; one that is missing counts as zero in a bitwise operator. -/
def element (items : List Int) (index : Int) : Option Int :=
  (checked index).map fun index => items.getD index.toNat 0

def readWord (padded : List Int) (offset index : Nat) : Option Int := do
  let base ← checked (offset + index * 4)
  let b0 ← element padded base
  let b1 ← element padded (base + 1)
  let b2 ← element padded (base + 2)
  let b3 ← element padded (base + 3)
  some (bitOr (bitOr (bitOr (shiftLeft b0 24) (shiftLeft b1 16)) (shiftLeft b2 8)) b3)

def expandWord (words : List Int) (index : Nat) : Option Int := do
  let w15 := words.getD (index - 15) 0
  let w2 := words.getD (index - 2) 0
  let s0 := bitXor (bitXor (rightRotate w15 7) (rightRotate w15 18)) (unsignedShift w15 3)
  let s1 := bitXor (bitXor (rightRotate w2 17) (rightRotate w2 19)) (unsignedShift w2 10)
  let left ← add (words.getD (index - 16) 0) s0
  let right ← add (words.getD (index - 7) 0) s1
  let sum ← add (bitOr left 0) (bitOr right 0)
  some (unsignedShift sum 0)

/-- An element of a `Uint32Array` keeps the last 32 bits, unsigned. -/
def setWord (words : List Int) (index : Nat) (value : Int) : List Int :=
  words.set index (unsigned (word value))

/-- The `Uint32Array` of a block. -/
def blockWords (padded : List Int) (offset : Nat) : Option (List Int) := do
  let read ← (List.range 16).foldlM
    (fun words index => (readWord padded offset index).map (setWord words index))
    (List.replicate 64 0)
  (List.range' 16 48).foldlM
    (fun words index => (expandWord words index).map (setWord words index)) read

def clientRound (words : List Int) (s : Registers Int) (index : Nat) : Option (Registers Int) := do
  let s1 := bitXor (bitXor (rightRotate s.e 6) (rightRotate s.e 11)) (rightRotate s.e 25)
  let choice := bitXor (bitAnd s.e s.f) (bitAnd (bitNot s.e) s.g)
  let sum1 ← add s.h s1
  let sum2 ← add (bitOr sum1 0) choice
  let sum3 ← add (bitOr sum2 0) (sha256K.getD index 0)
  let sum4 ← add sum3 (words.getD index 0)
  let temp1 := unsignedShift sum4 0
  let s0 := bitXor (bitXor (rightRotate s.a 2) (rightRotate s.a 13)) (rightRotate s.a 22)
  let majority := bitXor (bitXor (bitAnd s.a s.b) (bitAnd s.a s.c)) (bitAnd s.b s.c)
  let temp2 ← add s0 majority
  let e ← add s.d temp1
  let a ← add temp1 (unsignedShift temp2 0)
  some ⟨unsignedShift a 0, s.a, s.b, s.c, unsignedShift e 0, s.e, s.f, s.g⟩

def addHash (hash s : Registers Int) : Option (Registers Int) := do
  let a ← add hash.a s.a
  let b ← add hash.b s.b
  let c ← add hash.c s.c
  let d ← add hash.d s.d
  let e ← add hash.e s.e
  let f ← add hash.f s.f
  let g ← add hash.g s.g
  let h ← add hash.h s.h
  some ⟨unsignedShift a 0, unsignedShift b 0, unsignedShift c 0, unsignedShift d 0,
    unsignedShift e 0, unsignedShift f 0, unsignedShift g 0, unsignedShift h 0⟩

def clientBlock (padded : List Int) (hash : Registers Int) (offset : Nat) :
    Option (Registers Int) := do
  let words ← blockWords padded offset
  let s ← (List.range 64).foldlM (clientRound words) hash
  addHash hash s

/-- The offsets of the loop `for (offset = 0; offset < length; offset += 64)`. -/
def blockOffsets (length : Nat) : List Nat :=
  (List.range ((length + 63) / 64)).map (· * 64)

def padStart (length : Nat) (digits : List Char) : List Char :=
  List.replicate (length - digits.length) '0' ++ digits

/-- `value.toString(16).padStart(8, "0")`. -/
def hexWord (value : Int) : List Char :=
  padStart 8 (Nat.toDigits 16 value.toNat)

def sha256HexOfBytes (bytes : List UInt8) : Option String := do
  let padded ← padBytes bytes
  let hash ← (blockOffsets padded.length).foldlM (clientBlock padded) sha256InitialState
  some (String.ofList (hash.toList.flatMap hexWord))

def encodeUtf8 (value : String) : List UInt8 :=
  value.toUTF8.toList

def sha256Hex (input : String) : Option String :=
  sha256HexOfBytes (encodeUtf8 input)

structure FairnessVerificationResult where
  isMatch : Bool
  computedHash : String
  deriving DecidableEq, Repr

def verifyFairnessReveal (seed commitHash : String) : Option FairnessVerificationResult := do
  let computedHash ← sha256Hex seed
  some ⟨computedHash = commitHash, computedHash⟩

end Client

section Server

/-- `createHash('sha256').update(seed).digest('hex')`. -/
def hashSeed (seed : String) : String :=
  hexDigest (encodeUtf8 seed)

def verifyFairnessSeed (seed commitHash : String) : FairnessVerificationResult :=
  let computedHash := hashSeed seed
  ⟨computedHash = commitHash, computedHash⟩

end Server

section Padding

def numbers (bytes : List UInt8) : List Int :=
  bytes.map fun byte => (byte.toNat : Int)

theorem pushZeros_eq (padded : List Int) :
    pushZeros padded = padded ++ List.replicate ((120 - padded.length % 64) % 64) 0 := by
  induction padded using pushZeros.induct with
  | case1 padded hmore ih =>
      have hcount : (120 - padded.length % 64) % 64 =
          (120 - (padded ++ [(0 : Int)]).length % 64) % 64 + 1 := by
        rw [List.length_append, List.length_singleton]
        omega
      rw [pushZeros, if_pos hmore, ih, hcount, List.replicate_succ, List.append_assoc]
      rfl
  | case2 padded hdone =>
      have hcount : (120 - padded.length % 64) % 64 = 0 := by omega
      rw [pushZeros, if_neg hdone, hcount, List.replicate_zero, List.append_nil]

theorem splitBytes_eq (n : Nat) :
    splitBytes n = [24, 16, 8, 0].map fun shift : Nat =>
      ((n % 2 ^ 32 / 2 ^ shift % 256 : Nat) : Int) := by
  unfold splitBytes
  apply List.map_congr_left
  intro shift hshift
  apply bitAnd_unsignedShift
  simp only [List.mem_cons, List.not_mem_nil, or_false] at hshift
  omega

theorem number_ofNat (n : Nat) : ((UInt8.ofNat n).toNat : Int) = ((n % 256 : Nat) : Int) := by
  rw [UInt8.toNat_ofNat']

theorem splitBytes_length (length : Nat) (hlength : length < 2 ^ 50) :
    splitBytes ((length * 8 : Int) / 0x100000000) ++ splitBytes (unsignedShift (length * 8) 0) =
      numbers (lengthBytes length) := by
  have hhigh : (length * 8 : Int) / 0x100000000 = ((length * 8 / 2 ^ 32 : Nat) : Int) := by omega
  have hlow : unsignedShift (length * 8) 0 = ((length * 8 % 2 ^ 32 : Nat) : Int) := by
    have hcast : (length * 8 : Int) = ((length * 8 : Nat) : Int) := by omega
    rw [hcast, unsignedShift_zero, word_natCast, unsigned, BitVec.toNat_ofNat]
  rw [hhigh, hlow, splitBytes_eq, splitBytes_eq]
  simp only [numbers, lengthBytes, List.map_cons, List.map_nil, List.cons_append, List.nil_append,
    number_ofNat, List.cons.injEq, Int.natCast_inj, and_true]
  omega

theorem padBytes_eq (bytes : List UInt8) (hlength : bytes.length < 2 ^ 50) :
    padBytes bytes = some (numbers (pad bytes)) := by
  have hchecked : checked (bytes.length * 8) = some (bytes.length * 8 : Int) :=
    checked_eq_some (by omega) (by omega)
  have hzeros : (120 - (numbers bytes ++ [(0x80 : Int)]).length % 64) % 64 =
      zeroBytes bytes.length := by
    rw [zeroBytes, numbers, List.length_append, List.length_map, List.length_singleton]
    omega
  rw [padBytes, hchecked]
  change some (pushZeros (numbers bytes ++ [0x80]) ++ _ ++ _) = _
  rw [pushZeros_eq, hzeros, List.append_assoc, splitBytes_length _ hlength]
  simp [numbers, pad]

end Padding

section Functions

variable (w x y z : Word)

theorem unsignedShift_unsigned {shift : Nat} (hshift : shift < 32) :
    unsignedShift (unsigned w) shift = unsigned (w >>> shift) := by
  rw [unsignedShift, word_unsigned, Nat.mod_eq_of_lt hshift]

theorem rightRotate_unsigned {shift : Nat} (hpos : 0 < shift) (hshift : shift < 32) :
    rightRotate (unsigned w) shift = signed (rotr w shift) := by
  have hback : (32 - shift) % 32 = 32 - shift := by omega
  rw [rightRotate, unsignedShift_unsigned w hshift, bitOr, word_unsigned, shiftLeft, word_signed,
    word_unsigned, hback, rotr]

theorem bitXor_signed : bitXor (signed x) (signed y) = signed (x ^^^ y) := by
  rw [bitXor, word_signed, word_signed]

theorem smallSigma0_eq : bitXor (bitXor (rightRotate (unsigned w) 7) (rightRotate (unsigned w) 18))
    (unsignedShift (unsigned w) 3) = signed (smallSigma0 w) := by
  rw [rightRotate_unsigned w (by decide) (by decide), rightRotate_unsigned w (by decide) (by decide),
    unsignedShift_unsigned w (by decide), bitXor_signed, bitXor, word_signed, word_unsigned]
  rfl

theorem smallSigma1_eq : bitXor (bitXor (rightRotate (unsigned w) 17) (rightRotate (unsigned w) 19))
    (unsignedShift (unsigned w) 10) = signed (smallSigma1 w) := by
  rw [rightRotate_unsigned w (by decide) (by decide), rightRotate_unsigned w (by decide) (by decide),
    unsignedShift_unsigned w (by decide), bitXor_signed, bitXor, word_signed, word_unsigned]
  rfl

theorem bigSigma0_eq : bitXor (bitXor (rightRotate (unsigned w) 2) (rightRotate (unsigned w) 13))
    (rightRotate (unsigned w) 22) = signed (bigSigma0 w) := by
  rw [rightRotate_unsigned w (by decide) (by decide), rightRotate_unsigned w (by decide) (by decide),
    rightRotate_unsigned w (by decide) (by decide), bitXor_signed, bitXor_signed]
  rfl

theorem bigSigma1_eq : bitXor (bitXor (rightRotate (unsigned w) 6) (rightRotate (unsigned w) 11))
    (rightRotate (unsigned w) 25) = signed (bigSigma1 w) := by
  rw [rightRotate_unsigned w (by decide) (by decide), rightRotate_unsigned w (by decide) (by decide),
    rightRotate_unsigned w (by decide) (by decide), bitXor_signed, bitXor_signed]
  rfl

theorem choice_eq : bitXor (bitAnd (unsigned x) (unsigned y))
    (bitAnd (bitNot (unsigned x)) (unsigned z)) = signed (ch x y z) := by
  simp only [bitXor, bitAnd, bitNot, word_signed, word_unsigned]
  rfl

theorem majority_eq : bitXor (bitXor (bitAnd (unsigned x) (unsigned y))
    (bitAnd (unsigned x) (unsigned z))) (bitAnd (unsigned y) (unsigned z)) =
      signed (maj x y z) := by
  simp only [bitXor, bitAnd, word_signed, word_unsigned]
  rfl

end Functions

section Rounds

variable {words : List Int} {index : Nat}

theorem clientRound_eq {constant word : Word} (hconstant : sha256K.getD index 0 = unsigned constant)
    (hword : words.getD index 0 = unsigned word) (s : Registers Word) :
    clientRound words (s.map unsigned) index = some ((round constant word s).map unsigned) := by
  simp only [clientRound, Registers.map, bigSigma0_eq, bigSigma1_eq, choice_eq, majority_eq, hconstant,
    hword, bitOr_zero, unsignedShift_zero, add_unsigned_signed, add_signed, add_signed_unsigned,
    add_add_unsigned, add_unsigned, Option.bind_eq_bind, Option.bind_some, word_add, word_signed,
    word_unsigned]
  rfl

theorem addHash_eq (hash s : Registers Word) :
    addHash (hash.map unsigned) (s.map unsigned) = some ((⟨hash.a + s.a, hash.b + s.b, hash.c + s.c,
      hash.d + s.d, hash.e + s.e, hash.f + s.f, hash.g + s.g, hash.h + s.h⟩ :
        Registers Word).map unsigned) := by
  simp only [addHash, Registers.map, add_unsigned, unsignedShift_zero, word_add, word_unsigned,
    Option.bind_eq_bind, Option.bind_some]

theorem sha256K_eq : sha256K = roundConstants.map unsigned := by
  decide

theorem sha256InitialState_eq : sha256InitialState = initialHash.map unsigned := by
  decide

theorem foldlM_eq_some {α β ι : Type} {φ : α → β} {f : β → ι → Option β} {g : α → ι → α}
    {items : List ι} (hstep : ∀ a, ∀ i ∈ items, f (φ a) i = some (φ (g a i))) (a : α) :
    items.foldlM f (φ a) = some (φ (items.foldl g a)) := by
  induction items generalizing a with
  | nil => rfl
  | cons i items ih =>
      rw [List.foldlM_cons, hstep a i List.mem_cons_self]
      exact ih (fun a j hj => hstep a j (List.mem_cons_of_mem i hj)) (g a i)

theorem getD_unsigned (words : List Word) (index : Nat) :
    (words.map unsigned).getD index 0 = unsigned (words.getD index 0) :=
  List.getD_map words 0 unsigned

theorem clientRounds_eq (words : List Word) (s : Registers Word) :
    (List.range 64).foldlM (clientRound (words.map unsigned)) (s.map unsigned) =
      some ((rounds words s).map unsigned) := by
  apply foldlM_eq_some
  intro s index _
  apply clientRound_eq
  · rw [sha256K_eq, getD_unsigned]
  · exact getD_unsigned words index

end Rounds

section Blocks

variable {bytes : List UInt8} {offset : Nat}

theorem element_eq (bytes : List UInt8) {place : Nat} (hplace : place ≤ 2 ^ 53) :
    element (numbers bytes) place = some ((bytes.getD place 0).toNat : Int) := by
  rw [element, checked_eq_some (by omega) (by omega)]
  exact congrArg some (List.getD_map bytes 0 fun byte : UInt8 => (byte.toNat : Int))

theorem word_byte (byte : UInt8) : word (byte.toNat : Int) = byte.toBitVec.setWidth 32 := by
  rw [word_natCast, ← UInt8.toNat_toBitVec, BitVec.ofNat_toNat]

theorem bytes_eq (b0 b1 b2 b3 : UInt8) :
    bitOr (bitOr (bitOr (shiftLeft b0.toNat 24) (shiftLeft b1.toNat 16)) (shiftLeft b2.toNat 8))
      b3.toNat = signed (wordOfBytes b0 b1 b2 b3) := by
  simp only [bitOr, shiftLeft, word_signed, word_byte]
  rfl

theorem element_add (bytes : List UInt8) {base : Nat} (next : Nat) (hplace : base + next ≤ 2 ^ 53) :
    element (numbers bytes) ((base : Int) + (next : Int)) =
      some ((bytes.getD (base + next) 0).toNat : Int) := by
  have hcast : (base : Int) + (next : Int) = ((base + next : Nat) : Int) := by omega
  rw [hcast]
  exact element_eq bytes hplace

theorem readWord_eq {index : Nat} (hplace : offset + index * 4 + 3 ≤ 2 ^ 53) :
    readWord (numbers bytes) offset index = some (signed (wordAt bytes (offset + index * 4))) := by
  have hcast : (offset + index * 4 : Int) = ((offset + index * 4 : Nat) : Int) := by omega
  unfold readWord
  rw [hcast]
  generalize offset + index * 4 = base at hplace
  have h0 : element (numbers bytes) base = _ := element_eq bytes (by omega)
  have h1 : element (numbers bytes) ((base : Int) + 1) = _ := element_add bytes 1 (by omega)
  have h2 : element (numbers bytes) ((base : Int) + 2) = _ := element_add bytes 2 (by omega)
  have h3 : element (numbers bytes) ((base : Int) + 3) = _ := element_add bytes 3 hplace
  rw [checked_eq_some (by omega) (by omega), Option.bind_eq_bind, Option.bind_some, h0, h1, h2, h3]
  exact congrArg some (bytes_eq ..)

theorem setWord_next (written : List Int) (left : Nat) (value : Int) :
    setWord (written ++ List.replicate (left + 1) 0) written.length value =
      (written ++ [unsigned (word value)]) ++ List.replicate left 0 := by
  rw [setWord, List.set_append_right _ _ (Nat.le_refl _), Nat.sub_self, List.replicate_succ,
    List.set_cons_zero, List.append_assoc]
  rfl

theorem foldlM_readWord (hplace : offset + 64 ≤ 2 ^ 53) (count : Nat) (hcount : count ≤ 16) :
    (List.range count).foldlM
      (fun words index => (readWord (numbers bytes) offset index).map (setWord words index))
      (List.replicate 64 0) =
        some (((List.range count).map fun t => unsigned (wordAt bytes (offset + t * 4))) ++
          List.replicate (64 - count) 0) := by
  induction count with
  | zero => rfl
  | succ count ih =>
      have hleft : 64 - count = 64 - (count + 1) + 1 := by omega
      rw [List.range_succ, List.foldlM_append, ih (by omega), List.map_append, hleft]
      have hread : readWord (numbers bytes) offset count = _ := readWord_eq (by omega)
      have hnext := setWord_next ((List.range count).map fun t =>
        unsigned (wordAt bytes (offset + t * 4))) (64 - (count + 1))
      rw [List.length_map, List.length_range] at hnext
      simp only [Option.bind_eq_bind, Option.bind_some, List.foldlM_cons, List.foldlM_nil, hread,
        Option.map_some, hnext, word_signed, Option.pure_def]
      rfl

theorem length_schedule (block : List Word) (count : Nat) :
    (schedule block count).length = block.length + count := by
  induction count with
  | zero => rfl
  | succ count ih =>
      rw [schedule, List.length_append, ih]
      rfl

theorem getD_written (written : List Word) (left : Nat) {index : Nat} (hindex : index < written.length) :
    (written.map unsigned ++ List.replicate left 0).getD index 0 =
      unsigned (written.getD index 0) := by
  rw [List.getD_append _ _ _ _ (by rwa [List.length_map]), getD_unsigned]

theorem expandWord_eq (w : List Word) (left count : Nat) (hlength : w.length = 16 + count) :
    expandWord (w.map unsigned ++ List.replicate left 0) (16 + count) =
      some (unsigned (smallSigma1 (w.getD (16 + count - 2) 0) + w.getD (16 + count - 7) 0 +
        smallSigma0 (w.getD (16 + count - 15) 0) + w.getD (16 + count - 16) 0)) := by
  unfold expandWord
  rw [getD_written w left (by omega), getD_written w left (by omega), getD_written w left (by omega),
    getD_written w left (by omega)]
  generalize w.getD (16 + count - 2) 0 = w2
  generalize w.getD (16 + count - 7) 0 = w7
  generalize w.getD (16 + count - 15) 0 = w15
  generalize w.getD (16 + count - 16) 0 = w16
  simp only [smallSigma0_eq, smallSigma1_eq, add_unsigned_signed, bitOr_zero, add_signed,
    unsignedShift_zero, Option.bind_eq_bind, Option.bind_some, word_add, word_signed, word_unsigned]
  apply congrArg (fun word => some (unsigned word))
  ac_rfl

theorem foldlM_expandWord {block : List Word} (hblock : block.length = 16) (count : Nat)
    (hcount : count ≤ 48) :
    (List.range' 16 count).foldlM
      (fun words index => (expandWord words index).map (setWord words index))
      (block.map unsigned ++ List.replicate 48 0) =
        some ((schedule block count).map unsigned ++ List.replicate (48 - count) 0) := by
  induction count with
  | zero => rfl
  | succ count ih =>
      have hleft : 48 - count = 48 - (count + 1) + 1 := by omega
      have hlength : (schedule block count).length = 16 + count := by rw [length_schedule, hblock]
      have hexpand := expandWord_eq (schedule block count) (48 - (count + 1) + 1) count hlength
      have hnext := setWord_next ((schedule block count).map unsigned) (48 - (count + 1))
      rw [List.length_map, hlength] at hnext
      rw [List.range'_1_concat, List.foldlM_append, ih (by omega), hleft]
      simp only [Option.bind_eq_bind, Option.bind_some, List.foldlM_cons, List.foldlM_nil, hexpand,
        Option.map_some, hnext, word_unsigned, Option.pure_def, schedule, List.map_append,
        List.map_cons, List.map_nil]

theorem blockWords_eq (hplace : offset + 64 ≤ 2 ^ 53) :
    blockWords (numbers bytes) offset =
      some ((schedule (blockAt bytes offset) 48).map unsigned) := by
  have hread := @foldlM_readWord bytes offset hplace 16 (by decide)
  have hblock : (blockAt bytes offset).length = 16 := by
    rw [blockAt, List.length_map, List.length_range]
  have hexpand := foldlM_expandWord hblock 48 (by decide)
  rw [blockAt, List.map_map] at hexpand
  rw [blockWords, hread, Option.bind_eq_bind, Option.bind_some]
  rw [Nat.sub_self, List.replicate_zero, List.append_nil] at hexpand
  exact hexpand

theorem clientBlock_eq (hplace : offset + 64 ≤ 2 ^ 53) (hash : Registers Word) :
    clientBlock (numbers bytes) (hash.map unsigned) offset =
      some ((compress hash (blockAt bytes offset)).map unsigned) := by
  rw [clientBlock, blockWords_eq hplace, Option.bind_eq_bind, Option.bind_some, clientRounds_eq,
    Option.bind_eq_bind, Option.bind_some, addHash_eq, compress]

end Blocks

section Digits

theorem padStart_append (count : Nat) (digits : List Char) (last : Char) :
    padStart (count + 1) (digits ++ [last]) = padStart count digits ++ [last] := by
  rw [padStart, List.length_append, List.length_singleton, Nat.add_sub_add_right, padStart,
    List.append_assoc]

theorem hexDigits_zero (count : Nat) : hexDigits count 0 = List.replicate count '0' := by
  induction count with
  | zero => rfl
  | succ count ih =>
      rw [hexDigits, Nat.zero_div, ih, List.replicate_succ']
      rfl

theorem padStart_toDigits (count n : Nat) (hn : n < 16 ^ (count + 1)) :
    padStart (count + 1) (Nat.toDigits 16 n) = hexDigits (count + 1) n := by
  induction count generalizing n with
  | zero =>
      rw [Nat.toDigits_of_lt_base (by simpa using hn), hexDigits, Nat.mod_eq_of_lt (by simpa using hn)]
      rfl
  | succ count ih =>
      by_cases hsmall : n < 16
      · rw [Nat.toDigits_of_lt_base hsmall, hexDigits, Nat.div_eq_of_lt hsmall, hexDigits_zero,
          Nat.mod_eq_of_lt hsmall]
        rfl
      · have hdiv : n / 16 < 16 ^ (count + 1) := by
          rw [Nat.div_lt_iff_lt_mul (by decide), ← Nat.pow_succ]
          exact hn
        rw [Nat.toDigits_of_base_le (by decide) (by omega), padStart_append, ih (n / 16) hdiv]
        rfl

theorem hexWord_unsigned (w : Word) : hexWord (unsigned w) = hexDigits 8 w.toNat :=
  padStart_toDigits 7 w.toNat w.isLt

end Digits

section Verification

theorem sha256HexOfBytes_eq (bytes : List UInt8) (hlength : bytes.length < 2 ^ 50) :
    sha256HexOfBytes bytes = some (hexDigest bytes) := by
  have hpadded : (pad bytes).length ≤ bytes.length + 72 := by
    simp only [pad, lengthBytes, zeroBytes, List.length_append, List.length_replicate,
      List.length_map, List.length_cons, List.length_nil]
    omega
  have hwhole := length_pad bytes
  have hblocks : ((numbers (pad bytes)).length + 63) / 64 = (pad bytes).length / 64 := by
    rw [numbers, List.length_map]
    omega
  have hloop : (blockOffsets (numbers (pad bytes)).length).foldlM (clientBlock (numbers (pad bytes)))
      (initialHash.map unsigned) = some ((digest bytes).map unsigned) := by
    rw [blockOffsets, hblocks, List.foldlM_map]
    apply foldlM_eq_some
    intro hash i hi
    have hi := List.mem_range.mp hi
    exact clientBlock_eq (by omega) hash
  rw [sha256HexOfBytes, padBytes_eq bytes hlength, sha256InitialState_eq, Option.bind_eq_bind,
    Option.bind_some, hloop, Option.bind_eq_bind, Option.bind_some, Registers.toList_map,
    List.flatMap_map]
  simp only [hexWord_unsigned]
  rfl

/-- **The client's check.** The client's SHA-256 is the digest in lowercase hexadecimal digits,
without a sum that is inexact, so it accepts a seed exactly as the server does. -/
theorem verifyFairnessReveal_eq :
    (∀ bytes : List UInt8, bytes.length < 2 ^ 50 →
      sha256HexOfBytes bytes = some (hexDigest bytes)) ∧
    ∀ seed commitHash : String, (encodeUtf8 seed).length < 2 ^ 50 →
      verifyFairnessReveal seed commitHash = some (verifyFairnessSeed seed commitHash) ∧
        ((verifyFairnessSeed seed commitHash).isMatch = true ↔ hashSeed seed = commitHash) := by
  refine ⟨sha256HexOfBytes_eq, ?_⟩
  intro seed commitHash hlength
  constructor
  · rw [verifyFairnessReveal, sha256Hex, sha256HexOfBytes_eq _ hlength]
    rfl
  · exact decide_eq_true_iff

/-- Two blocks: the length does not fit behind the 56 bytes of the message. -/
theorem verifyFairnessReveal_eq_sample :
    sha256HexOfBytes (List.replicate 56 0x61) = some (hexDigest (List.replicate 56 0x61)) ∧
      verifyFairnessReveal "abc" "" = some (verifyFairnessSeed "abc" "") ∧
        ((verifyFairnessSeed "abc" "").isMatch = true ↔ hashSeed "abc" = "") :=
  ⟨verifyFairnessReveal_eq.1 _ (by decide), verifyFairnessReveal_eq.2 "abc" "" (by decide +kernel)⟩

end Verification

end RewardSystem.Fairness
