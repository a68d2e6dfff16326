import Mathlib.Tactic.Common

/-!
# Hexadecimal text
-/

namespace HexText

/-- The value of a digit, in either case. -/
def digitValue (c : Char) : Option Nat :=
  if '0' ≤ c ∧ c ≤ '9' then some (c.toNat - 48)
  else if 'a' ≤ c ∧ c ≤ 'f' then some (c.toNat - 87)
  else if 'A' ≤ c ∧ c ≤ 'F' then some (c.toNat - 55)
  else none

theorem digitValue_eq_some {c : Char} {value : Nat} (h : digitValue c = some value) :
    value < 16 ∧ 48 ≤ c.toNat ∧ c.toNat ≤ 102 := by
  have hle : ∀ low high : Char, low ≤ c ∧ c ≤ high ↔ low.toNat ≤ c.toNat ∧ c.toNat ≤ high.toNat :=
    fun _ _ => Iff.rfl
  simp only [digitValue, hle] at h
  change (if 48 ≤ c.toNat ∧ c.toNat ≤ 57 then some (c.toNat - 48)
    else if 97 ≤ c.toNat ∧ c.toNat ≤ 102 then some (c.toNat - 87)
    else if 65 ≤ c.toNat ∧ c.toNat ≤ 70 then some (c.toNat - 55) else none) = some value at h
  split_ifs at h with hdigit hlower hupper
  · have hvalue := Option.some.inj h
    omega
  · have hvalue := Option.some.inj h
    omega
  · have hvalue := Option.some.inj h
    omega

theorem digitValue_digitChar {n : Nat} (h : n < 16) : digitValue n.digitChar = some n := by
  revert n
  decide

/-! ## Bytes -/

/-- The text of bytes, two digits each. -/
def encode (bytes : List UInt8) : List Char :=
  bytes.flatMap fun byte => [(byte.toNat / 16).digitChar, (byte.toNat % 16).digitChar]

/-- The bytes of a text, up to the first pair that is not made of digits. -/
def decode : List Char → List UInt8
  | high :: low :: rest =>
      match digitValue high, digitValue low with
      | some upper, some lower => UInt8.ofNat (16 * upper + lower) :: decode rest
      | _, _ => []
  | _ => []

@[simp]
theorem decode_encode (bytes : List UInt8) : decode (encode bytes) = bytes := by
  induction bytes with
  | nil => rfl
  | cons byte bytes ih =>
      have hbyte := byte.toNat_lt
      have hcons : encode (byte :: bytes) =
          (byte.toNat / 16).digitChar :: (byte.toNat % 16).digitChar :: encode bytes := rfl
      rw [hcons, decode, digitValue_digitChar (by omega), digitValue_digitChar (by omega)]
      dsimp only
      rw [ih, Nat.div_add_mod, UInt8.ofNat_toNat]

end HexText
