import Mathlib.Data.Int.Log
import RewardSystem.Shared.Money

/-!
# Arithmetic of decimal amounts

The operations round to twenty significant digits, the default precision of `Decimal`. A `numeric`
column has the same special values and is exact.
-/

namespace RewardSystem

open Rounding

/-- Halves go away from zero. -/
def roundSignificant (digits : Nat) (x : ℚ) : ℚ :=
  if x = 0 then 0
  else
    let scale : ℚ := 10 ^ ((digits : Int) - 1 - Int.log 10 |x|)
    roundHalfUp (x * scale) / scale

/-- `toDecimalPlaces(2)`, and `ROUND(…, 2)` -/
def roundCents (x : ℚ) : ℚ :=
  (toCents x : ℚ) / 100

namespace Decimal

/-- Special values stay what they are. -/
def map (f : ℚ → ℚ) : Decimal ℚ → Decimal ℚ
  | .finite value => .finite (f value)
  | .infinity => .infinity
  | .negInfinity => .negInfinity
  | .nan => .nan

def sub : Decimal ℚ → Decimal ℚ → Decimal ℚ
  | .finite x, .finite y => .finite (x - y)
  | .nan, _ | _, .nan | .infinity, .infinity | .negInfinity, .negInfinity => .nan
  | .infinity, _ | _, .negInfinity => .infinity
  | .negInfinity, _ | _, .infinity => .negInfinity

def neg : Decimal ℚ → Decimal ℚ
  | .finite x => .finite (-x)
  | .infinity => .negInfinity
  | .negInfinity => .infinity
  | .nan => .nan

/-- The product with a finite amount. -/
def scale (amount : ℚ) : Decimal ℚ → Decimal ℚ
  | .finite x => .finite (amount * x)
  | .nan => .nan
  | .infinity => if amount = 0 then .nan else if 0 < amount then .infinity else .negInfinity
  | .negInfinity => if amount = 0 then .nan else if 0 < amount then .negInfinity else .infinity

end Decimal

theorem roundHalfUp_neg (x : ℚ) : roundHalfUp (-x) = -roundHalfUp x := by
  unfold roundHalfUp
  rcases lt_trichotomy x 0 with hneg | rfl | hpos
  · rw [if_pos (by linarith), if_neg (by linarith), neg_neg]
  · norm_num
  · rw [if_neg (by linarith), if_pos hpos.le, neg_neg]

theorem roundCents_neg (x : ℚ) : roundCents (-x) = -roundCents x := by
  rw [roundCents, roundCents, toCents, toCents, mul_neg, roundHalfUp_neg]
  push_cast
  ring

namespace Decimal

variable (f : ℚ → ℚ) (x : Decimal ℚ) (amount : ℚ)

theorem scale_neg : scale (-amount) x = neg (scale amount x) := by
  cases x with
  | finite value => simp [scale, neg]
  | nan => rfl
  | infinity | negInfinity =>
      simp only [scale, neg_eq_zero, Left.neg_pos_iff]
      rcases lt_trichotomy amount 0 with hneg | rfl | hpos
      · simp [hneg, hneg.ne, hneg.le.not_gt, neg]
      · simp [neg]
      · simp [hpos, hpos.ne', hpos.le.not_gt, neg]

theorem map_neg (hf : ∀ value, f (-value) = -f value) : map f (neg x) = neg (map f x) := by
  cases x <;> simp [map, neg, hf]

theorem neg_injective : Function.Injective neg := by
  intro x y h
  cases x <;> cases y <;> simp_all [neg]

end Decimal

end RewardSystem
