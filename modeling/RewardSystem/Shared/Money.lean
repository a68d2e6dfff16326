import RewardSystem.Lib.Rounding
import RewardSystem.Shared.Errors

/-!
# Decimal amounts
-/

namespace RewardSystem

open Rounding

/-- A `Decimal`: finite, or one of the three special values. -/
inductive Decimal (α : Type) where
  | finite (value : α)
  | infinity
  | negInfinity
  | nan
  deriving DecidableEq, Repr

/-- A finite amount in cents, halves away from zero. -/
def toCents (amount : ℚ) : Int :=
  roundHalfUp (100 * amount)

/-- `toDecimalPlaces(2, ROUND_HALF_UP)`, and `toFixed(2)`: the finite result is counted in cents. -/
def toDecimalPlaces : Decimal ℚ → Decimal Int
  | .finite value => .finite (toCents value)
  | .infinity => .infinity
  | .negInfinity => .negInfinity
  | .nan => .nan

def Decimal.isPositive : Decimal Int → Bool
  | .finite value => 0 < value
  | .infinity => true
  | _ => false

end RewardSystem
