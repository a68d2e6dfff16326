import Mathlib.Algebra.BigOperators.Group.List.Basic
import Mathlib.Algebra.Order.Group.Int
import Mathlib.Tactic.Common
import Mathlib.Tactic.Ring

/-!
# Cutting heights into layers

Columns of different heights are cut at every height that occurs. A layer counts its thickness once
for each column that reaches it, so the layers together count the heights.
-/

namespace Layers

variable {ι : Type*} (height : ι → Int)

/-- The layers of the columns above `low`, cut at `levels`. -/
def layers (columns : List ι) : Int → List Int → List Int
  | _, [] => []
  | low, level :: levels =>
      (level - low) * (columns.filter fun c => level ≤ height c).length ::
        layers columns level levels

theorem sum_filter_le (columns : List ι) (low level : Int) (hlt : low < level)
    (hgap : ∀ c ∈ columns, height c ≤ low ∨ level ≤ height c) :
    (level - low) * (columns.filter fun c => level ≤ height c).length +
        (columns.map fun c => max (height c - level) 0).sum =
      (columns.map fun c => max (height c - low) 0).sum := by
  induction columns with
  | nil => simp
  | cons c rest ih =>
      have hrest := ih fun c' hc' => hgap c' (by simp [hc'])
      rcases hgap c (by simp) with hlow | hhigh
      · have hnot : ¬level ≤ height c := by omega
        simp only [List.filter_cons, hnot, decide_false, Bool.false_eq_true, if_false,
          List.map_cons, List.sum_cons, ← hrest]
        rw [max_eq_right (by omega : height c - level ≤ 0),
          max_eq_right (by omega : height c - low ≤ 0)]
        ring
      · simp only [List.filter_cons, hhigh, decide_true, if_true, List.length_cons,
          List.map_cons, List.sum_cons, ← hrest]
        rw [max_eq_left (by omega : 0 ≤ height c - level),
          max_eq_left (by omega : 0 ≤ height c - low)]
        push_cast
        ring

/-- The layers add up to what stands above `low`, when every such height is one of the levels. -/
theorem sum_layers (columns : List ι) (low : Int) (levels : List Int)
    (hsorted : (low :: levels).Pairwise (· < ·))
    (hcover : ∀ c ∈ columns, height c ≤ low ∨ height c ∈ levels) :
    (layers height columns low levels).sum = (columns.map fun c => max (height c - low) 0).sum := by
  induction levels generalizing low with
  | nil =>
      simp only [layers, List.sum_nil]
      refine (List.sum_eq_zero ?_).symm
      simp only [List.mem_map, forall_exists_index, and_imp]
      rintro _ c hc rfl
      have hle : height c ≤ low := by simpa using hcover c hc
      omega
  | cons level levels ih =>
      obtain ⟨hlow, hlevels⟩ := List.pairwise_cons.mp hsorted
      obtain ⟨hlevel, -⟩ := List.pairwise_cons.mp hlevels
      have hrest := ih level hlevels fun c hc => by
        rcases hcover c hc with h | h
        · exact .inl (by have := hlow level (by simp); omega)
        · rcases List.mem_cons.mp h with h | h
          · exact .inl h.le
          · exact .inr h
      simp only [layers, List.sum_cons, hrest]
      refine sum_filter_le height columns low level (hlow level (by simp)) fun c hc => ?_
      rcases hcover c hc with h | h
      · exact .inl h
      · rcases List.mem_cons.mp h with h | h
        · exact .inr h.ge
        · exact .inr (hlevel _ h).le

end Layers
