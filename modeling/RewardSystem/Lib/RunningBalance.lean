import Mathlib.Data.List.MinMax

/-!
# Rows with a running balance

Rows of several owners lie in one table. Each of them carries the balance of its owner before and
after it, and the rows of an owner follow one another by their ids.
-/

namespace RunningBalance

variable {ρ κ : Type*} [DecidableEq κ] (owner : ρ → κ) (id : ρ → ℕ) (before after : ρ → ℤ)

/-- The row of an owner with the highest id. -/
def latest (rows : List ρ) (k : κ) : Option ρ :=
  (rows.filter fun row => owner row = k).argmax id

/-- The balance after a row, and that of an owner without rows. -/
def balanceOf (row : Option ρ) : ℤ :=
  (row.map after).getD 0

/-- The row of the same owner with the highest id below that of `row`. -/
def previous (rows : List ρ) (row : ρ) : Option ρ :=
  latest owner id (rows.filter fun other => id other < id row) (owner row)

/-- Each row begins with the balance that the previous one of its owner ends with. -/
def Chained (rows : List ρ) : Prop :=
  ∀ row ∈ rows, before row = balanceOf after (previous owner id rows row)

section Append

variable {owner id before after} {rows : List ρ} {row last : ρ} {k : κ}

theorem latest_mem (h : latest owner id rows k = some last) : last ∈ rows :=
  (List.mem_filter.mp (List.argmax_mem h)).1

theorem le_latest (h : latest owner id rows k = some last) (hrow : row ∈ rows)
    (howner : owner row = k) : id row ≤ id last :=
  List.le_of_mem_argmax (List.mem_filter.mpr ⟨hrow, decide_eq_true howner⟩) h

theorem latest_eq_none (h : latest owner id rows k = none) (hrow : row ∈ rows) :
    owner row ≠ k := by
  intro howner
  have hempty := List.argmax_eq_none.mp h
  exact List.not_mem_nil (hempty ▸ List.mem_filter.mpr ⟨hrow, decide_eq_true howner⟩)

/-- What comes later, or is of another owner, is not before a row. -/
theorem previous_append {new : ρ} (hlater : owner new = owner row → id row ≤ id new) :
    previous owner id (rows ++ [new]) row = previous owner id rows row := by
  unfold previous latest
  simp only [List.filter_append, List.filter_filter]
  by_cases howner : owner new = owner row
  · have hle := hlater howner
    simp [Nat.not_lt.mpr hle]
  · simp [howner]

/-- The rows of an owner that are all earlier than a row end with the previous one. -/
theorem previous_eq_latest (hearlier : ∀ other ∈ rows, owner other = owner row → id other < id row) :
    previous owner id rows row = latest owner id rows (owner row) := by
  unfold previous latest
  rw [List.filter_filter]
  congr 1
  refine List.filter_congr fun other hother => ?_
  by_cases howner : owner other = owner row
  · simp [howner, hearlier other hother howner]
  · simp [howner]

/-- A row that continues the latest one of its owner keeps the chain. -/
theorem Chained.append (hchained : Chained owner id before after rows)
    (hbefore : before row = balanceOf after (latest owner id rows (owner row)))
    (hlater : ∀ other ∈ rows, owner other = owner row → id other < id row) :
    Chained owner id before after (rows ++ [row]) := by
  intro other hother
  rcases List.mem_append.mp hother with hmem | hnew
  · rw [previous_append fun howner => (hlater other hmem howner.symm).le]
    exact hchained other hmem
  · obtain rfl := List.mem_singleton.mp hnew
    rw [previous_append fun _ => le_rfl, previous_eq_latest hlater]
    exact hbefore

end Append

end RunningBalance
