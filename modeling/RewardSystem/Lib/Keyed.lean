import Mathlib.Algebra.BigOperators.Group.List.Basic
import Mathlib.Algebra.Order.BigOperators.Group.List
import Mathlib.Algebra.Order.Group.Int
import Mathlib.Tactic.Abel

/-!
# Tables of rows with a key

A table is a list of rows, read and updated by key. `HasKeys` is the primary-key constraint.
-/

namespace Keyed

variable {ρ κ : Type*} [DecidableEq κ] (key : ρ → κ)

/-- The row stored under `k`. -/
def lookup (k : κ) (rows : List ρ) : Option ρ :=
  rows.find? fun row => key row = k

/-- Apply `f` to the row stored under `k`. -/
def modify (k : κ) (f : ρ → ρ) (rows : List ρ) : List ρ :=
  rows.map fun row => if key row = k then f row else row

/-- Apply `f` to the row stored under `k`, or to the `fresh` row of a key that has none. -/
def upsert (k : κ) (fresh : ρ) (f : ρ → ρ) (rows : List ρ) : List ρ :=
  match lookup key k rows with
  | some _ => modify key k f rows
  | none => rows ++ [f fresh]

def HasKeys (rows : List ρ) : Prop :=
  (rows.map key).Nodup

section Lookup

variable {key} {k : κ} {rows : List ρ} {row : ρ}

theorem mem_of_lookup (h : lookup key k rows = some row) : row ∈ rows :=
  List.mem_of_find?_eq_some h

theorem key_of_lookup (h : lookup key k rows = some row) : key row = k := by
  simpa using List.find?_some h

theorem lookup_of_mem (hkeys : HasKeys key rows) (hmem : row ∈ rows) :
    lookup key (key row) rows = some row := by
  induction rows with
  | nil => simp at hmem
  | cons head rest ih =>
      simp only [HasKeys, List.map_cons, List.nodup_cons, List.mem_map, not_exists,
        not_and] at hkeys
      rcases List.mem_cons.mp hmem with rfl | hmem
      · simp [lookup]
      · have hne : key head ≠ key row := fun h => hkeys.1 row hmem h.symm
        simpa [lookup, hne] using ih hkeys.2 hmem

theorem lookup_eq_none : lookup key k rows = none ↔ ∀ row ∈ rows, key row ≠ k := by
  simp [lookup]

theorem hasKeys_append (hkeys : HasKeys key rows) (hnew : lookup key (key row) rows = none) :
    HasKeys key (rows ++ [row]) := by
  rw [lookup_eq_none] at hnew
  simp only [HasKeys, List.map_append, List.map_cons, List.map_nil, List.nodup_append]
  refine ⟨hkeys, by simp, ?_⟩
  simpa using hnew

theorem lookup_append_of_ne {k' : κ} (hne : key row ≠ k') :
    lookup key k' (rows ++ [row]) = lookup key k' rows := by
  simp [lookup, List.find?_append, hne]

theorem lookup_append_self (hnew : lookup key (key row) rows = none) :
    lookup key (key row) (rows ++ [row]) = some row := by
  unfold lookup at hnew ⊢
  simp [List.find?_append, hnew]

end Lookup

section Modify

variable {key} {k : κ} {f : ρ → ρ} {rows : List ρ} {row : ρ}

theorem map_key_modify (hf : ∀ row, key row = k → key (f row) = k) :
    (modify key k f rows).map key = rows.map key := by
  simp only [modify, List.map_map]
  refine List.map_congr_left fun row _ => ?_
  by_cases h : key row = k
  · simp [h, hf row h]
  · simp [h]

@[simp]
theorem length_modify : (modify key k f rows).length = rows.length :=
  List.length_map _

theorem hasKeys_modify (hf : ∀ row, key row = k → key (f row) = k) (hkeys : HasKeys key rows) :
    HasKeys key (modify key k f rows) := by
  unfold HasKeys
  rwa [map_key_modify hf]

theorem modify_of_forall_ne (h : ∀ row ∈ rows, key row ≠ k) : modify key k f rows = rows := by
  simp only [modify]
  conv_rhs => rw [← List.map_id rows]
  exact List.map_congr_left fun row hrow => by simp [h row hrow]

theorem mem_modify {row' : ρ} :
    row' ∈ modify key k f rows ↔
      (row' ∈ rows ∧ key row' ≠ k) ∨ ∃ row ∈ rows, key row = k ∧ f row = row' := by
  simp only [modify, List.mem_map]
  constructor
  · rintro ⟨row, hrow, rfl⟩
    by_cases h : key row = k
    · exact .inr ⟨row, hrow, h, by simp [h]⟩
    · exact .inl (by simp [h, hrow])
  · rintro (⟨hrow, h⟩ | ⟨row, hrow, h, rfl⟩)
    · exact ⟨row', hrow, by simp [h]⟩
    · exact ⟨row, hrow, by simp [h]⟩

theorem lookup_modify_ne {k' : κ} (hf : ∀ row, key row = k → key (f row) = k) (hne : k' ≠ k) :
    lookup key k' (modify key k f rows) = lookup key k' rows := by
  induction rows with
  | nil => rfl
  | cons head rest ih =>
      by_cases h : key head = k
      · have hhead : key (f head) ≠ k' := by rw [hf head h]; exact fun h => hne h.symm
        have hold : key head ≠ k' := by rw [h]; exact fun h => hne h.symm
        simpa [lookup, modify, h, hhead, hold, hne.symm, Ne.symm hne] using ih
      · by_cases h' : key head = k'
        · simp [lookup, modify, h', hne]
        · simpa [lookup, modify, h, h'] using ih

theorem lookup_modify_self (hf : ∀ row, key row = k → key (f row) = k)
    (h : lookup key k rows = some row) :
    lookup key k (modify key k f rows) = some (f row) := by
  induction rows with
  | nil => simp [lookup] at h
  | cons head rest ih =>
      by_cases hhead : key head = k
      · have hrow : head = row := by simpa [lookup, hhead] using h
        subst hrow
        simp [lookup, modify, hhead, hf head hhead]
      · have hrest : lookup key k rest = some row := by simpa [lookup, hhead] using h
        simpa [lookup, modify, hhead] using ih hrest

/-- A property of all rows survives an update of one row that keeps it. -/
theorem forall_modify {P : ρ → Prop} (hkeys : HasKeys key rows) (hrow : lookup key k rows = some row)
    (hnew : P (f row)) (hall : ∀ other ∈ rows, P other) :
    ∀ other ∈ modify key k f rows, P other := by
  intro other hother
  obtain ⟨hother, _⟩ | ⟨old, hold, hkey, rfl⟩ := mem_modify.mp hother
  · exact hall other hother
  · have hlookup : lookup key k rows = some old := hkey ▸ lookup_of_mem hkeys hold
    obtain rfl : row = old := by simpa [hrow] using hlookup
    exact hnew

/-- Updating one row moves a sum over the table by the change in that row's summand. -/
theorem sum_modify {M : Type*} [AddCommGroup M] (w : ρ → M) (hkeys : HasKeys key rows)
    (h : lookup key k rows = some row) :
    ((modify key k f rows).map w).sum = (rows.map w).sum - w row + w (f row) := by
  induction rows with
  | nil => simp [lookup] at h
  | cons head rest ih =>
      simp only [HasKeys, List.map_cons, List.nodup_cons, List.mem_map, not_exists,
        not_and] at hkeys
      by_cases hhead : key head = k
      · have hrow : head = row := by simpa [lookup, hhead] using h
        subst hrow
        have hrest : modify key k f rest = rest :=
          modify_of_forall_ne fun r hr hk => hkeys.1 r hr (hk.trans hhead.symm)
        have hcons : modify key k f (head :: rest) = f head :: modify key k f rest := by
          simp [modify, hhead]
        rw [hcons, hrest]
        simp only [List.map_cons, List.sum_cons]
        abel
      · have hrest : lookup key k rest = some row := by simpa [lookup, hhead] using h
        have hcons : modify key k f (head :: rest) = head :: modify key k f rest := by
          simp [modify, hhead]
        rw [hcons]
        simp only [List.map_cons, List.sum_cons, ih hkeys.2 hrest]
        abel

omit [DecidableEq κ] in
theorem sum_filter {M : Type*} [AddCommMonoid M] (p : ρ → Bool) (w : ρ → M) (rows : List ρ) :
    ((rows.filter p).map w).sum = (rows.map fun row => if p row then w row else 0).sum := by
  induction rows with
  | nil => rfl
  | cons head rest ih =>
      rw [List.filter_cons, List.map_cons, List.sum_cons, ← ih]
      split_ifs <;> simp

/-- A sum over the other rows is the sum over the table without the row's summand. -/
theorem sum_others {M : Type*} [AddCommGroup M] (w : ρ → M) (hkeys : HasKeys key rows)
    (h : lookup key k rows = some row) :
    (rows.map fun other => if key other = k then 0 else w other).sum = (rows.map w).sum - w row := by
  induction rows with
  | nil => simp [lookup] at h
  | cons head rest ih =>
      simp only [HasKeys, List.map_cons, List.nodup_cons, List.mem_map, not_exists,
        not_and] at hkeys
      by_cases hhead : key head = k
      · have hrow : head = row := by simpa [lookup, hhead] using h
        subst hrow
        have hrest : rest.map (fun other => if key other = k then 0 else w other) = rest.map w :=
          List.map_congr_left fun other hother =>
            if_neg fun hk => hkeys.1 other hother (hk.trans hhead.symm)
        simp only [List.map_cons, List.sum_cons, hrest, if_pos hhead]
        abel
      · have hrest : lookup key k rest = some row := by simpa [lookup, hhead] using h
        simp only [List.map_cons, List.sum_cons, ih hkeys.2 hrest, if_neg hhead]
        abel

theorem hasKeys_upsert {fresh : ρ} (hf : ∀ row, key row = k → key (f row) = k)
    (hfresh : key fresh = k) (hkeys : HasKeys key rows) :
    HasKeys key (upsert key k fresh f rows) := by
  unfold upsert
  cases h : lookup key k rows with
  | some row => exact hasKeys_modify hf hkeys
  | none => exact hasKeys_append hkeys (by rwa [hf fresh hfresh])

theorem sum_upsert {M : Type*} [AddCommGroup M] (w : ρ → M) {fresh : ρ} {gain : M}
    (hkeys : HasKeys key rows) (hfresh : w (f fresh) = gain)
    (hf : ∀ row ∈ rows, key row = k → w (f row) = w row + gain) :
    ((upsert key k fresh f rows).map w).sum = (rows.map w).sum + gain := by
  unfold upsert
  cases h : lookup key k rows with
  | none => simp [hfresh]
  | some row =>
      have hrow := hf row (mem_of_lookup h) (key_of_lookup h)
      change ((modify key k f rows).map w).sum = (rows.map w).sum + gain
      rw [sum_modify w hkeys h, hrow]
      abel

/-- What one row gains is gained by the table. -/
theorem flatMap_modify_perm {β : Type*} {w : ρ → List β} {extra : List β}
    (hkeys : HasKeys key rows) (h : lookup key k rows = some row) (hw : w (f row) = w row ++ extra) :
    ((modify key k f rows).flatMap w).Perm (rows.flatMap w ++ extra) := by
  induction rows with
  | nil => simp [lookup] at h
  | cons head rest ih =>
      simp only [HasKeys, List.map_cons, List.nodup_cons, List.mem_map, not_exists,
        not_and] at hkeys
      by_cases hhead : key head = k
      · have hrow : head = row := by simpa [lookup, hhead] using h
        subst hrow
        have hrest : modify key k f rest = rest :=
          modify_of_forall_ne fun r hr hk => hkeys.1 r hr (hk.trans hhead.symm)
        have hcons : modify key k f (head :: rest) = f head :: modify key k f rest := by
          simp [modify, hhead]
        rw [hcons, hrest, List.flatMap_cons, List.flatMap_cons, hw, List.append_assoc,
          List.append_assoc]
        exact List.perm_append_comm.append_left (w head)
      · have hrest : lookup key k rest = some row := by simpa [lookup, hhead] using h
        have hcons : modify key k f (head :: rest) = head :: modify key k f rest := by
          simp [modify, hhead]
        rw [hcons, List.flatMap_cons, List.flatMap_cons, List.append_assoc]
        exact (ih hkeys.2 hrest).append_left (w head)

theorem le_sum_of_mem (w : ρ → ℤ) (hw : ∀ row ∈ rows, 0 ≤ w row) (hmem : row ∈ rows) :
    w row ≤ (rows.map w).sum :=
  List.single_le_sum (by simpa using hw) _ (List.mem_map_of_mem hmem)

end Modify

end Keyed
