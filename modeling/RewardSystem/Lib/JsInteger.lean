import Mathlib.Algebra.Order.Ring.Int
import Mathlib.Tactic.Common

/-!
# Integers in JavaScript

A number is exact up to 2^53. The bitwise operators read the last 32 bits of a number and give a
signed number, the unsigned shift gives an unsigned one.
-/

namespace JsInteger

/-- A result is kept where all integers are exact. -/
def checked (x : Int) : Option Int :=
  if -2 ^ 53 ≤ x ∧ x ≤ 2 ^ 53 then some x else none

def add (x y : Int) : Option Int :=
  checked (x + y)

/-- The last 32 bits. -/
def word (x : Int) : BitVec 32 :=
  BitVec.ofInt 32 x

def signed (w : BitVec 32) : Int :=
  w.toInt

def unsigned (w : BitVec 32) : Int :=
  w.toNat

def bitAnd (x y : Int) : Int :=
  signed (word x &&& word y)

def bitOr (x y : Int) : Int :=
  signed (word x ||| word y)

def bitXor (x y : Int) : Int :=
  signed (word x ^^^ word y)

def bitNot (x : Int) : Int :=
  signed (~~~word x)

/-- `<<`; the shift is taken modulo 32. -/
def shiftLeft (x : Int) (shift : Nat) : Int :=
  signed (word x <<< (shift % 32))

/-- `>>>`. -/
def unsignedShift (x : Int) (shift : Nat) : Int :=
  unsigned (word x >>> (shift % 32))

section Words

@[simp]
theorem word_signed (w : BitVec 32) : word (signed w) = w :=
  BitVec.ofInt_toInt

@[simp]
theorem word_unsigned (w : BitVec 32) : word (unsigned w) = w := by
  rw [word, unsigned, BitVec.ofInt_natCast, BitVec.ofNat_toNat, BitVec.setWidth_eq]

@[simp]
theorem word_add (x y : Int) : word (x + y) = word x + word y :=
  BitVec.ofInt_add x y

@[simp]
theorem word_natCast (n : Nat) : word (n : Int) = BitVec.ofNat 32 n :=
  BitVec.ofInt_natCast 32 n

@[simp]
theorem word_zero : word 0 = 0 :=
  rfl

@[simp]
theorem unsignedShift_zero (x : Int) : unsignedShift x 0 = unsigned (word x) := by
  simp [unsignedShift]

@[simp]
theorem bitOr_zero (x : Int) : bitOr x 0 = signed (word x) := by
  simp [bitOr]

end Words

section Range

theorem signed_range (w : BitVec 32) : -2 ^ 31 ≤ signed w ∧ signed w < 2 ^ 31 :=
  ⟨BitVec.le_toInt w, BitVec.toInt_lt⟩

theorem unsigned_range (w : BitVec 32) : 0 ≤ unsigned w ∧ unsigned w < 2 ^ 32 := by
  have hlt := w.isLt
  unfold unsigned
  omega

theorem checked_eq_some {x : Int} (hlow : -2 ^ 53 ≤ x) (hhigh : x ≤ 2 ^ 53) : checked x = some x :=
  if_pos ⟨hlow, hhigh⟩

theorem add_unsigned (v w : BitVec 32) : add (unsigned v) (unsigned w) =
    some (unsigned v + unsigned w) := by
  have hv := unsigned_range v
  have hw := unsigned_range w
  exact checked_eq_some (by omega) (by omega)

theorem add_unsigned_signed (v w : BitVec 32) : add (unsigned v) (signed w) =
    some (unsigned v + signed w) := by
  have hv := unsigned_range v
  have hw := signed_range w
  exact checked_eq_some (by omega) (by omega)

theorem add_signed_unsigned (v w : BitVec 32) : add (signed v) (unsigned w) =
    some (signed v + unsigned w) := by
  have hv := signed_range v
  have hw := unsigned_range w
  exact checked_eq_some (by omega) (by omega)

theorem add_signed (v w : BitVec 32) : add (signed v) (signed w) = some (signed v + signed w) := by
  have hv := signed_range v
  have hw := signed_range w
  exact checked_eq_some (by omega) (by omega)

/-- A third number still fits. -/
theorem add_add_unsigned (u v w : BitVec 32) : add (signed u + unsigned v) (unsigned w) =
    some (signed u + unsigned v + unsigned w) := by
  have hu := signed_range u
  have hv := unsigned_range v
  have hw := unsigned_range w
  exact checked_eq_some (by omega) (by omega)

end Range

section Bytes

/-- One byte of a number. -/
theorem bitAnd_unsignedShift (n shift : Nat) (hshift : shift < 32) :
    bitAnd (unsignedShift n shift) 0xff = ((n % 2 ^ 32 / 2 ^ shift % 256 : Nat) : Int) := by
  have hlow : (BitVec.ofNat 32 n >>> shift &&& 255).toNat = n % 2 ^ 32 / 2 ^ shift % 256 := by
    rw [BitVec.toNat_and, BitVec.toNat_ushiftRight, BitVec.toNat_ofNat, Nat.shiftRight_eq_div_pow]
    exact Nat.and_two_pow_sub_one_eq_mod _ 8
  have hword : word 0xff = 255 := rfl
  rw [unsignedShift, bitAnd, word_unsigned, word_natCast, hword, Nat.mod_eq_of_lt hshift, signed,
    BitVec.toInt_eq_toNat_of_lt, hlow]
  rw [hlow]
  have := Nat.mod_lt (n % 2 ^ 32 / 2 ^ shift) (show 256 > 0 by decide)
  omega

end Bytes

end JsInteger
