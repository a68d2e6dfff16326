import Mathlib.Algebra.BigOperators.Group.List.Basic
import Mathlib.Algebra.Order.Field.Basic
import Mathlib.Tactic.Linarith
import Mathlib.Tactic.Ring

/-!
# Weighted means

The mean of a list's values beside a mass that is worth nothing. Dropping the largest values lowers
the mean.
-/

namespace WeightedMeans

variable {ι 𝕜 : Type*} [Field 𝕜] [LinearOrder 𝕜] [IsStrictOrderedRing 𝕜]

def mean (mass : 𝕜) (weight value : ι → 𝕜) (items : List ι) : 𝕜 :=
  (items.map fun i => value i * weight i).sum / (mass + (items.map weight).sum)

section

variable {mass : 𝕜} {weight value : ι → 𝕜} {items kept dropped : List ι} {p : ι → Bool}

omit [LinearOrder 𝕜] [IsStrictOrderedRing 𝕜] in
theorem sum_filter_add (f : ι → 𝕜) (items : List ι) (p : ι → Bool) :
    ((items.filter p).map f).sum + ((items.filter fun i => !p i).map f).sum =
      (items.map f).sum := by
  induction items with
  | nil => simp
  | cons i rest ih =>
      cases hp : p i <;> simp [hp, ← ih] <;> ring

theorem sum_weight_nonneg (hweight : ∀ i ∈ items, 0 ≤ weight i) : 0 ≤ (items.map weight).sum := by
  induction items with
  | nil => simp
  | cons i rest ih =>
      rw [List.map_cons, List.sum_cons]
      exact add_nonneg (hweight i (by simp)) (ih fun j hj => hweight j (by simp [hj]))

theorem sum_value_nonneg (hweight : ∀ i ∈ items, 0 ≤ weight i) (hvalue : ∀ i ∈ items, 0 ≤ value i) :
    0 ≤ (items.map fun i => value i * weight i).sum :=
  sum_weight_nonneg fun i hi => mul_nonneg (hvalue i hi) (hweight i hi)

theorem mean_nonneg (hmass : 0 ≤ mass) (hweight : ∀ i ∈ items, 0 ≤ weight i)
    (hvalue : ∀ i ∈ items, 0 ≤ value i) : 0 ≤ mean mass weight value items :=
  div_nonneg (sum_value_nonneg hweight hvalue) (add_nonneg hmass (sum_weight_nonneg hweight))

/-- A lower bound of the values, times the weights. -/
theorem mul_sum_weight_le {bound : 𝕜} (hweight : ∀ i ∈ items, 0 ≤ weight i)
    (hbound : ∀ i ∈ items, bound ≤ value i) :
    bound * (items.map weight).sum ≤ (items.map fun i => value i * weight i).sum := by
  induction items with
  | nil => simp
  | cons i rest ih =>
      have hrest := ih (fun j hj => hweight j (by simp [hj])) fun j hj => hbound j (by simp [hj])
      have hhead := mul_le_mul_of_nonneg_right (hbound i (by simp)) (hweight i (by simp))
      simp only [List.map_cons, List.sum_cons, mul_add]
      exact add_le_add hhead hrest

/-- If nothing kept is worth more than what is dropped, neither is its mean. -/
theorem sum_value_mul_sum_weight_le (hkept : ∀ i ∈ kept, 0 ≤ weight i)
    (hdropped : ∀ j ∈ dropped, 0 ≤ weight j)
    (hvalue : ∀ i ∈ kept, ∀ j ∈ dropped, value i ≤ value j) :
    (kept.map fun i => value i * weight i).sum * (dropped.map weight).sum ≤
      (kept.map weight).sum * (dropped.map fun j => value j * weight j).sum := by
  induction kept with
  | nil => simp
  | cons i rest ih =>
      have hrest := ih (fun j hj => hkept j (by simp [hj])) fun j hj => hvalue j (by simp [hj])
      have hhead := mul_le_mul_of_nonneg_left (mul_sum_weight_le hdropped (hvalue i (by simp)))
        (hkept i (by simp))
      simp only [List.map_cons, List.sum_cons, add_mul]
      calc value i * weight i * (dropped.map weight).sum +
            (rest.map fun i => value i * weight i).sum * (dropped.map weight).sum
          = weight i * (value i * (dropped.map weight).sum) +
            (rest.map fun i => value i * weight i).sum * (dropped.map weight).sum := by ring
        _ ≤ weight i * (dropped.map fun j => value j * weight j).sum +
            (rest.map weight).sum * (dropped.map fun j => value j * weight j).sum :=
          add_le_add hhead hrest

/-- Dropping the largest values does not raise the mean. -/
theorem mean_filter_le (hmass : 0 ≤ mass) (hweight : ∀ i ∈ items, 0 ≤ weight i)
    (hvalue : ∀ i ∈ items, 0 ≤ value i)
    (hp : ∀ i ∈ items, ∀ j ∈ items, value i ≤ value j → p j = true → p i = true) :
    mean mass weight value (items.filter p) ≤ mean mass weight value items := by
  have hkept : ∀ i ∈ items.filter p, 0 ≤ weight i := fun i hi => hweight i (List.mem_of_mem_filter hi)
  have hdropped : ∀ i ∈ items.filter fun i => !p i, 0 ≤ weight i :=
    fun i hi => hweight i (List.mem_of_mem_filter hi)
  have hordered : ∀ i ∈ items.filter p, ∀ j ∈ items.filter fun i => !p i, value i ≤ value j := by
    intro i hi j hj
    rw [List.mem_filter] at hi hj
    by_contra hless
    have hkeeps := hp j hj.1 i hi.1 (le_of_lt (not_le.mp hless)) hi.2
    rw [hkeeps] at hj
    exact absurd hj.2 (by decide)
  have hcross := sum_value_mul_sum_weight_le hkept hdropped hordered
  have hworth : 0 ≤ ((items.filter fun i => !p i).map fun i => value i * weight i).sum :=
    sum_value_nonneg hdropped fun i hi => hvalue i (List.mem_of_mem_filter hi)
  have hlost := sum_weight_nonneg hdropped
  unfold mean
  rw [← sum_filter_add (fun i => value i * weight i) items p, ← sum_filter_add weight items p]
  rcases (add_nonneg hmass (sum_weight_nonneg hkept)).eq_or_lt with hzero | hpos
  · rw [← hzero, div_zero, ← add_assoc, ← hzero, zero_add]
    exact div_nonneg (add_nonneg (sum_value_nonneg hkept fun i hi =>
      hvalue i (List.mem_of_mem_filter hi)) hworth) hlost
  · rw [div_le_div_iff₀ hpos (by linarith)]
    linarith [mul_nonneg hmass hworth]

end

end WeightedMeans
