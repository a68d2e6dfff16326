import Mathlib.Algebra.Order.Field.Rat
import Mathlib.Data.List.TakeWhile
import Mathlib.Tactic.FieldSimp
import Mathlib.Tactic.Linarith

/-!
# Decimal texts

A decimal text is a sign, digits, and after a point the digits of a fraction. A text of a fixed
number of fraction digits is printed from an integer that counts the units of the last digit.
-/

namespace DecimalText

open Nat (toDigits ofDigitChars)

/-! ## Reading -/

/-- The number of a text of digits. -/
def readDigits (text : List Char) : Option Nat :=
  if text ≠ [] ∧ text.all Char.isDigit then some (ofDigitChars 10 text 0) else none

def readUnsigned (text : List Char) : Option ℚ :=
  match text.span (· ≠ '.') with
  | (whole, []) => (readDigits whole).map Nat.cast
  | (whole, _ :: fraction) =>
      match readDigits whole, readDigits fraction with
      | some units, some parts => some (units + parts / 10 ^ fraction.length)
      | _, _ => none

def read : List Char → Option ℚ
  | '-' :: text => (readUnsigned text).map Neg.neg
  | text => readUnsigned text

/-! ## Printing -/

/-- The digits of a number, with zeros in front of them up to a length. -/
def padded (length n : Nat) : List Char :=
  (toDigits 10 n).leftpad length '0'

def printUnsigned (decimals n : Nat) : List Char :=
  toDigits 10 (n / 10 ^ decimals) ++
    if decimals = 0 then [] else '.' :: padded decimals (n % 10 ^ decimals)

def print (decimals : Nat) (n : Int) : List Char :=
  if n < 0 then '-' :: printUnsigned decimals n.natAbs else printUnsigned decimals n.natAbs

section Digits

variable {length n decimals : Nat} {c : Char}

theorem isDigit_of_mem_padded (h : c ∈ padded length n) : c.isDigit := by
  rw [padded, List.leftpad, List.mem_append] at h
  rcases h with hzero | hdigit
  · rw [List.eq_of_mem_replicate hzero]
    rfl
  · exact Nat.isDigit_of_mem_toDigits (by decide) (by decide) hdigit

theorem length_padded (hlength : 0 < length) (hn : n < 10 ^ length) :
    (padded length n).length = length := by
  rw [padded, List.length_leftpad]
  exact max_eq_left ((Nat.length_toDigits_le_iff (by decide) hlength).mpr hn)

theorem readDigits_toDigits : readDigits (toDigits 10 n) = some n := by
  rw [readDigits, if_pos ⟨Nat.toDigits_ne_nil, List.all_eq_true.mpr fun c hc =>
    Nat.isDigit_of_mem_toDigits (by decide) (by decide) hc⟩, Nat.ofDigitChars_ten_toDigits]

/-- Zeros in front of the digits do not change the number. -/
theorem readDigits_padded : readDigits (padded length n) = some n := by
  have hne : padded length n ≠ [] := by
    rw [padded, List.leftpad]
    exact List.append_ne_nil_of_right_ne_nil _ Nat.toDigits_ne_nil
  rw [readDigits, if_pos ⟨hne, List.all_eq_true.mpr fun c hc => isDigit_of_mem_padded hc⟩, padded,
    List.leftpad, Nat.ofDigitChars_append, Nat.ofDigitChars_replicate_zero, Nat.mul_zero,
    Nat.ofDigitChars_ten_toDigits]

/-- The point is not among the digits. -/
theorem ne_point_of_mem_toDigits (h : c ∈ toDigits 10 n) : decide (c ≠ '.') = true := by
  refine decide_eq_true fun hpoint => ?_
  have hdigit := Nat.isDigit_of_mem_toDigits (by decide) (by decide) h
  rw [hpoint] at hdigit
  exact absurd hdigit (by decide)

theorem span_toDigits : (toDigits 10 n).span (· ≠ '.') = (toDigits 10 n, []) := by
  rw [List.span_eq_takeWhile_dropWhile,
    List.takeWhile_eq_self_iff.mpr fun _ => ne_point_of_mem_toDigits,
    List.dropWhile_eq_nil_iff.mpr fun _ => ne_point_of_mem_toDigits]

theorem span_toDigits_append (rest : List Char) :
    (toDigits 10 n ++ '.' :: rest).span (· ≠ '.') = (toDigits 10 n, '.' :: rest) := by
  rw [List.span_eq_takeWhile_dropWhile,
    List.takeWhile_append_of_pos fun _ => ne_point_of_mem_toDigits,
    List.dropWhile_append_of_pos fun _ => ne_point_of_mem_toDigits]
  simp

/-- The printed text is read as the number of units of the last digit. -/
theorem readUnsigned_printUnsigned :
    readUnsigned (printUnsigned decimals n) = some ((n : ℚ) / 10 ^ decimals) := by
  rw [readUnsigned, printUnsigned]
  by_cases hdecimals : decimals = 0
  · subst hdecimals
    rw [if_pos rfl, List.append_nil, span_toDigits]
    simp [readDigits_toDigits]
  · have hpos : (10 : Nat) ^ decimals ≠ 0 := by positivity
    have hfraction := Nat.mod_lt n (Nat.pos_of_ne_zero hpos)
    rw [if_neg hdecimals, span_toDigits_append]
    simp only [readDigits_toDigits, readDigits_padded,
      length_padded (Nat.pos_of_ne_zero hdecimals) hfraction]
    have hdivision : (n : ℚ) =
        (10 : ℚ) ^ decimals * (n / 10 ^ decimals : Nat) + (n % 10 ^ decimals : Nat) := by
      exact_mod_cast (Nat.div_add_mod n (10 ^ decimals)).symm
    rw [Option.some_inj, hdivision]
    field_simp

theorem printUnsigned_ne_minus (text : List Char) : printUnsigned decimals n ≠ '-' :: text := by
  intro h
  have hhead : '-' ∈ toDigits 10 (n / 10 ^ decimals) := by
    have hne := @Nat.toDigits_ne_nil (n / 10 ^ decimals) 10
    obtain ⟨first, digits, hdigits⟩ := List.exists_cons_of_ne_nil hne
    rw [printUnsigned, hdigits, List.cons_append, List.cons.injEq] at h
    rw [hdigits, h.1]
    exact List.mem_cons_self
  exact absurd (Nat.isDigit_of_mem_toDigits (by decide) (by decide) hhead) (by decide)

end Digits

/-- A printed text denotes the number of units that it is printed from. -/
theorem read_print (decimals : Nat) (n : Int) :
    read (print decimals n) = some ((n : ℚ) / 10 ^ decimals) := by
  have habs : ((n.natAbs : Nat) : ℚ) = |(n : ℚ)| := by
    rw [← Int.cast_abs, Int.abs_eq_natAbs]
    rfl
  rw [print]
  split
  case isTrue hneg =>
    have hneg' : (n : ℚ) < 0 := by exact_mod_cast hneg
    rw [read, readUnsigned_printUnsigned, habs, abs_of_neg hneg', Option.map_some, neg_div, neg_neg]
  case isFalse hneg =>
    have hnonneg : (0 : ℚ) ≤ n := by exact_mod_cast not_lt.mp hneg
    have hread : read (printUnsigned decimals n.natAbs) =
        readUnsigned (printUnsigned decimals n.natAbs) := by
      rw [read]
      exact fun text h => absurd h (printUnsigned_ne_minus text)
    rw [hread, readUnsigned_printUnsigned, habs, abs_of_nonneg hnonneg]

theorem print_injective (decimals : Nat) : Function.Injective (print decimals) := by
  intro m n h
  have hread := congrArg read h
  rw [read_print, read_print, Option.some_inj] at hread
  have hpow : (10 : ℚ) ^ decimals ≠ 0 := by positivity
  exact_mod_cast (div_left_inj' hpow).mp hread

end DecimalText
