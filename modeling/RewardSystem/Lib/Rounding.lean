import Mathlib.Algebra.Order.Floor.Ring
import Mathlib.Data.Rat.Floor
import Mathlib.Tactic.Linarith

/-!
# Rounding to an integer, halves away from zero
-/

namespace Rounding

/-- The nearest integer; halves go away from zero. -/
def roundHalfUp (x : ℚ) : ℤ :=
  if 0 ≤ x then ⌊x + 1 / 2⌋ else -⌊-x + 1 / 2⌋

@[simp]
theorem roundHalfUp_intCast (n : ℤ) : roundHalfUp (n : ℚ) = n := by
  have hfloor : ∀ m : ℤ, ⌊(m : ℚ) + 1 / 2⌋ = m := by
    intro m
    rw [Int.floor_eq_iff]
    constructor <;> linarith
  unfold roundHalfUp
  split
  · exact hfloor n
  · have h := hfloor (-n)
    push_cast at h
    omega

theorem roundHalfUp_nonneg {x : ℚ} (hx : 0 ≤ x) : 0 ≤ roundHalfUp x := by
  rw [roundHalfUp, if_pos hx, Int.le_floor]
  push_cast
  linarith

/-- Above zero the numbers that round to `n` are those from half below it to half above it. -/
theorem roundHalfUp_eq_iff_of_pos {n : ℤ} (hn : 0 < n) {x : ℚ} :
    roundHalfUp x = n ↔ (n : ℚ) - 1 / 2 ≤ x ∧ x < n + 1 / 2 := by
  have hcast : (1 : ℚ) ≤ n := by exact_mod_cast hn
  unfold roundHalfUp
  split_ifs with hx
  · rw [Int.floor_eq_iff]
    constructor <;> rintro ⟨hlow, hhigh⟩ <;> constructor <;> linarith
  · have hfloor : (0 : ℤ) ≤ ⌊-x + 1 / 2⌋ := Int.floor_nonneg.mpr (by linarith)
    constructor
    · intro h
      omega
    · rintro ⟨hlow, _⟩
      linarith

theorem roundHalfUp_nonneg_iff {x : ℚ} : 0 ≤ roundHalfUp x ↔ -1 / 2 < x := by
  unfold roundHalfUp
  split_ifs with hx
  · refine iff_of_true (Int.floor_nonneg.mpr (by linarith)) (by linarith)
  · rw [neg_nonneg, ← Int.lt_add_one_iff, zero_add, Int.floor_lt]
    push_cast
    constructor <;> intro h <;> linarith

theorem roundHalfUp_mono {x y : ℚ} (hxy : x ≤ y) : roundHalfUp x ≤ roundHalfUp y := by
  unfold roundHalfUp
  split_ifs with hx hy hy
  · exact Int.floor_le_floor (by linarith)
  · exact absurd (hx.trans hxy) hy
  · have hneg : (0 : ℤ) ≤ ⌊-x + 1 / 2⌋ := by
      rw [Int.le_floor]
      push_cast
      linarith
    have hpos : (0 : ℤ) ≤ ⌊y + 1 / 2⌋ := by
      rw [Int.le_floor]
      push_cast
      linarith
    omega
  · have hfloor : ⌊-y + 1 / 2⌋ ≤ ⌊-x + 1 / 2⌋ := Int.floor_le_floor (by linarith)
    omega

/-- Taking `x` from an integer and rounding takes at most the rounded `x`. -/
theorem sub_roundHalfUp_le (n : ℤ) {x : ℚ} (hx : 0 ≤ x) :
    n - roundHalfUp x ≤ roundHalfUp (n - x) := by
  have hround : roundHalfUp x = ⌊x + 1 / 2⌋ := if_pos hx
  have hle : ((⌊x + 1 / 2⌋ : ℤ) : ℚ) ≤ x + 1 / 2 := Int.floor_le _
  have hlt : x + 1 / 2 < (⌊x + 1 / 2⌋ : ℤ) + 1 := Int.lt_floor_add_one _
  rw [hround]
  by_cases hsub : 0 ≤ (n : ℚ) - x
  · rw [roundHalfUp, if_pos hsub, Int.le_floor]
    push_cast
    linarith
  · rw [roundHalfUp, if_neg hsub]
    have hfloor : ⌊-((n : ℚ) - x) + 1 / 2⌋ = ⌊x + 1 / 2⌋ - n := by
      rw [Int.floor_eq_iff]
      push_cast
      constructor <;> linarith
    omega

/-- Exactly between two integers. -/
def IsHalf (x : ℚ) : Prop := Int.fract x = 1 / 2

instance (x : ℚ) : Decidable (IsHalf x) := inferInstanceAs (Decidable (_ = _))

/-- Away from the halves rounding is rounding down after a half is added, whatever the sign. -/
theorem roundHalfUp_of_not_isHalf {x : ℚ} (hx : ¬IsHalf x) : roundHalfUp x = ⌊x + 1 / 2⌋ := by
  unfold roundHalfUp
  split_ifs with hsign
  · rfl
  · have hlo : (⌊x + 1 / 2⌋ : ℚ) ≤ x + 1 / 2 := Int.floor_le _
    have hhi : x + 1 / 2 < (⌊x + 1 / 2⌋ : ℚ) + 1 := Int.lt_floor_add_one _
    have hne : (⌊x + 1 / 2⌋ : ℚ) ≠ x + 1 / 2 := by
      intro heq
      refine hx ?_
      rw [IsHalf, Int.fract_eq_iff]
      exact ⟨by norm_num, by norm_num, ⌊x + 1 / 2⌋ - 1, by push_cast; linarith⟩
    have hlt : (⌊x + 1 / 2⌋ : ℚ) < x + 1 / 2 := lt_of_le_of_ne hlo hne
    have hfloor : ⌊-x + 1 / 2⌋ = -⌊x + 1 / 2⌋ := by
      rw [Int.floor_eq_iff]
      push_cast
      constructor <;> linarith
    omega

/-- A half goes away from zero. -/
theorem roundHalfUp_half (m : ℤ) :
    roundHalfUp (m + 1 / 2) = if 0 ≤ (m : ℚ) + 1 / 2 then m + 1 else m := by
  unfold roundHalfUp
  split_ifs with hsign
  · rw [Int.floor_eq_iff]
    push_cast
    constructor <;> linarith
  · have hfloor : ⌊-((m : ℚ) + 1 / 2) + 1 / 2⌋ = -m := by
      rw [Int.floor_eq_iff]
      push_cast
      constructor <;> linarith
    omega

theorem isHalf_iff {x : ℚ} : IsHalf x ↔ ∃ m : ℤ, x = m + 1 / 2 := by
  constructor
  · intro hx
    exact ⟨⌊x⌋, by rw [← hx, Int.floor_add_fract]⟩
  · rintro ⟨m, rfl⟩
    rw [IsHalf, Int.fract_intCast_add]
    rw [Int.fract_eq_self]
    norm_num

theorem isHalf_intCast_add {n : ℤ} {x : ℚ} : IsHalf (n + x) ↔ IsHalf x := by
  rw [IsHalf, Int.fract_intCast_add, IsHalf]

theorem isHalf_neg {x : ℚ} : IsHalf (-x) ↔ IsHalf x := by
  have hflip : ∀ y : ℚ, IsHalf y → IsHalf (-y) := by
    intro y hy
    obtain ⟨m, rfl⟩ := isHalf_iff.mp hy
    exact isHalf_iff.mpr ⟨-m - 1, by push_cast; ring⟩
  exact ⟨fun h => by simpa using hflip _ h, hflip x⟩

theorem roundHalfUp_neg (x : ℚ) : roundHalfUp (-x) = -roundHalfUp x := by
  unfold roundHalfUp
  rcases lt_trichotomy x 0 with hx | rfl | hx
  · rw [if_pos (by linarith), if_neg (not_le.mpr hx)]
    simp
  · norm_num
  · rw [if_neg (by linarith), if_pos hx.le]
    simp

/-- Rounding a sum with an integer agrees with rounding the summand alone, except where a half
lies on the other side of zero than the sum. -/
theorem roundHalfUp_intCast_add {n : ℤ} {x : ℚ} :
    roundHalfUp (n + x) = n + roundHalfUp x ↔ (IsHalf x → (0 ≤ x ↔ 0 ≤ n + x)) := by
  by_cases hhalf : IsHalf x
  · obtain ⟨m, rfl⟩ := isHalf_iff.mp hhalf
    have hsum : (n : ℚ) + (m + 1 / 2) = ((n + m : ℤ) : ℚ) + 1 / 2 := by push_cast; ring
    rw [hsum, roundHalfUp_half, roundHalfUp_half]
    simp only [hhalf, forall_const]
    split_ifs with hsign hsign' hsign'
    · exact iff_of_true (by omega) (iff_of_true hsign' hsign)
    · exact iff_of_false (by omega) fun h => hsign' (h.mpr hsign)
    · exact iff_of_false (by omega) fun h => hsign (h.mp hsign')
    · exact iff_of_true (by omega) (iff_of_false hsign' hsign)
  · have hhalf' : ¬IsHalf (n + x) := fun h => hhalf (isHalf_intCast_add.mp h)
    rw [roundHalfUp_of_not_isHalf hhalf, roundHalfUp_of_not_isHalf hhalf', add_assoc,
      Int.floor_intCast_add]
    simp [hhalf]

end Rounding
