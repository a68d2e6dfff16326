import Mathlib.Algebra.BigOperators.Group.List.Basic
import Mathlib.Algebra.Order.Ring.Int
import Mathlib.Tactic.Common

/-!
# A counter over the current window

A counter belongs to one window and starts again at zero for a charge to another window. If the
windows of the charges never go back, it holds what the history charged to its window, and a limit
on the counter is a limit on every window.
-/

namespace Windows

variable {ω : Type*} [LinearOrder ω]

structure Counter (ω : Type*) where
  window : ω
  consumed : ℤ

/-- The counter as it stands for a window. -/
def Counter.at (counter : Counter ω) (window : ω) : ℤ :=
  if counter.window = window then counter.consumed else 0

def Counter.charge (counter : Counter ω) (window : ω) (amount : ℤ) : Counter ω where
  window := window
  consumed := counter.at window + amount

/-- What the history charged to a window. -/
def spent (window : ω) (history : List (ω × ℤ)) : ℤ :=
  ((history.filter fun charge => charge.1 = window).map Prod.snd).sum

/-- The counter holds what was charged to its window, no charge is to a later one, and no window is
charged above the limit. -/
structure Accounted (limit : ℤ) (counter : Counter ω) (history : List (ω × ℤ)) : Prop where
  current : spent counter.window history = counter.consumed
  past : ∀ charge ∈ history, charge.1 ≤ counter.window
  capped : ∀ window, spent window history ≤ limit

variable {limit amount : ℤ} {counter : Counter ω} {history : List (ω × ℤ)} {window : ω}

theorem spent_append (other : ω) :
    spent other (history ++ [(window, amount)]) =
      spent other history + if window = other then amount else 0 := by
  unfold spent
  rw [List.filter_append, List.map_append, List.sum_append]
  by_cases hsame : window = other
  · simp [hsame]
  · simp [hsame]

theorem spent_eq_zero (hother : ∀ charge ∈ history, charge.1 ≠ window) :
    spent window history = 0 := by
  have hnone : (history.filter fun charge => charge.1 = window) = [] :=
    List.filter_eq_nil_iff.mpr fun charge hcharge => by simpa using hother charge hcharge
  rw [spent, hnone]
  rfl

theorem accounted_nil (hlimit : 0 ≤ limit) (hzero : counter.consumed = 0) :
    Accounted limit counter [] where
  current := hzero.symm
  past := by simp
  capped := fun _ => hlimit

/-- The counter stands for what was charged to any window that is not over. -/
theorem Accounted.spent_eq (haccounted : Accounted limit counter history)
    (horder : counter.window ≤ window) : spent window history = counter.at window := by
  unfold Counter.at
  split_ifs with hsame
  · rw [← hsame]
    exact haccounted.current
  · apply spent_eq_zero
    rintro charge hcharge rfl
    exact hsame (le_antisymm horder (haccounted.past charge hcharge))

theorem Accounted.charge (haccounted : Accounted limit counter history)
    (horder : counter.window ≤ window) (hlimit : (counter.charge window amount).consumed ≤ limit) :
    Accounted limit (counter.charge window amount) (history ++ [(window, amount)]) where
  current := by
    rw [spent_append, Counter.charge, if_pos rfl, haccounted.spent_eq horder]
  past := by
    intro charge hcharge
    rcases List.mem_append.mp hcharge with hcharge | hcharge
    · exact (haccounted.past charge hcharge).trans horder
    · rw [List.mem_singleton.mp hcharge]
      exact le_rfl
  capped := by
    intro other
    rw [spent_append]
    split_ifs with hsame
    · rw [← hsame, haccounted.spent_eq horder]
      exact hlimit
    · rw [add_zero]
      exact haccounted.capped other

theorem Accounted.consumed_le (haccounted : Accounted limit counter history) :
    counter.consumed ≤ limit :=
  haccounted.current ▸ haccounted.capped counter.window

theorem Accounted.at_le (haccounted : Accounted limit counter history) (hlimit : 0 ≤ limit)
    (window : ω) : counter.at window ≤ limit := by
  unfold Counter.at
  split_ifs
  · exact haccounted.consumed_le
  · exact hlimit

end Windows
