import Mathlib.Algebra.BigOperators.Group.List.Basic
import Mathlib.Data.List.Nodup
import Mathlib.Algebra.Order.BigOperators.Group.List
import Mathlib.Algebra.Order.Group.Int
import Mathlib.Tactic.Common
import Mathlib.Tactic.Ring

/-!
# Splitting an amount evenly

An amount that does not divide evenly is split by giving one more to the first `extra` of those who
share it.
-/

namespace Shares

variable {ι : Type*}

def handOut (share : Int) : Int → List ι → List (ι × Int)
  | _, [] => []
  | extra, i :: rest =>
      (i, share + if 0 < extra then 1 else 0) ::
        handOut share (if 0 < extra then extra - 1 else extra) rest

/-- An even split of `total`. -/
def split (total : Int) (members : List ι) : List (ι × Int) :=
  handOut (total / members.length) (total % members.length) members

@[simp]
theorem handOut_fst (share extra : Int) (members : List ι) :
    (handOut share extra members).map Prod.fst = members := by
  induction members generalizing extra with
  | nil => rfl
  | cons i rest ih => simp [handOut, ih]

theorem handOut_sum (share extra : Int) (members : List ι) (hpos : 0 ≤ extra)
    (hle : extra ≤ members.length) :
    ((handOut share extra members).map Prod.snd).sum = share * members.length + extra := by
  induction members generalizing extra with
  | nil =>
      have hzero : extra = 0 := by simpa using le_antisymm hle hpos
      simp [handOut, hzero]
  | cons i rest ih =>
      simp only [List.length_cons] at hle
      push_cast at hle
      by_cases hextra : 0 < extra
      · have hrest := ih (extra - 1) (by omega) (by omega)
        simp only [handOut, hextra, if_true, List.map_cons, List.sum_cons, hrest, List.length_cons]
        push_cast
        ring
      · have hzero : extra = 0 := by omega
        have hrest := ih 0 le_rfl (by omega)
        subst hzero
        simp only [handOut, lt_irrefl, if_false, List.map_cons, List.sum_cons, hrest,
          List.length_cons]
        push_cast
        ring

theorem handOut_nonneg {share extra : Int} {members : List ι} (hshare : 0 ≤ share) :
    ∀ part ∈ handOut share extra members, 0 ≤ part.2 := by
  induction members generalizing extra with
  | nil => simp [handOut]
  | cons i rest ih =>
      simp only [handOut, List.forall_mem_cons]
      refine ⟨?_, ih⟩
      split <;> omega

/-- The parts differ by one at most. -/
theorem handOut_even (share extra : Int) (members : List ι) :
    ∀ part ∈ handOut share extra members, share ≤ part.2 ∧ part.2 ≤ share + 1 := by
  induction members generalizing extra with
  | nil => exact fun _ h => absurd h List.not_mem_nil
  | cons i rest ih =>
      refine List.forall_mem_cons.mpr ⟨?_, ih _⟩
      dsimp only
      split <;> omega

theorem split_even {total : Int} {members : List ι} {left right : ι × Int}
    (hleft : left ∈ split total members) (hright : right ∈ split total members) :
    left.2 ≤ right.2 + 1 :=
  calc left.2
      ≤ total / members.length + 1 := (handOut_even _ _ _ left hleft).2
    _ ≤ right.2 + 1 := Int.add_le_add_right (handOut_even _ _ _ right hright).1 1

@[simp]
theorem split_fst (total : Int) (members : List ι) :
    (split total members).map Prod.fst = members :=
  handOut_fst _ _ _

/-- Nothing of the amount is lost. -/
theorem split_sum (total : Int) (members : List ι) (hne : members ≠ []) :
    ((split total members).map Prod.snd).sum = total := by
  have hlen : (0 : Int) < members.length := by
    have := List.length_pos_iff.mpr hne
    omega
  rw [split, handOut_sum _ _ _ (Int.emod_nonneg _ hlen.ne') (Int.emod_lt_of_pos _ hlen).le]
  exact Int.ediv_mul_add_emod total members.length

theorem split_nonneg {total : Int} {members : List ι} (htotal : 0 ≤ total) :
    ∀ part ∈ split total members, 0 ≤ part.2 :=
  handOut_nonneg (Int.ediv_nonneg htotal (Int.natCast_nonneg _))

/-! ## What a member gets -/

variable [DecidableEq ι] {i : ι} {members : List ι}

def amountOf (parts : List (ι × Int)) (i : ι) : Int :=
  ((parts.filter fun part => part.1 = i).map Prod.snd).sum

@[simp]
theorem amountOf_nil (i : ι) : amountOf [] i = 0 := rfl

theorem amountOf_cons (part : ι × Int) (parts : List (ι × Int)) (i : ι) :
    amountOf (part :: parts) i = (if part.1 = i then part.2 else 0) + amountOf parts i := by
  by_cases h : part.1 = i <;> simp [amountOf, h]

theorem amountOf_eq_zero {parts : List (ι × Int)} (h : i ∉ parts.map Prod.fst) :
    amountOf parts i = 0 := by
  have hnone : (parts.filter fun part => part.1 = i) = [] := by
    refine List.filter_eq_nil_iff.mpr fun part hpart heq => h ?_
    exact List.mem_map.mpr ⟨part, hpart, by simpa using heq⟩
  rw [amountOf, hnone]
  rfl

theorem amountOf_append (left right : List (ι × Int)) (i : ι) :
    amountOf (left ++ right) i = amountOf left i + amountOf right i := by
  simp [amountOf]

theorem amountOf_le_sum {parts : List (ι × Int)} (h : ∀ part ∈ parts, 0 ≤ part.2) :
    amountOf parts i ≤ (parts.map Prod.snd).sum := by
  refine (List.filter_sublist.map _).sum_le_sum fun amount hamount => ?_
  obtain ⟨part, hpart, rfl⟩ := List.mem_map.mp hamount
  exact h part hpart

theorem amountOf_nonneg {parts : List (ι × Int)} (h : ∀ part ∈ parts, 0 ≤ part.2) :
    0 ≤ amountOf parts i := by
  refine List.sum_nonneg fun amount hamount => ?_
  obtain ⟨part, hpart, rfl⟩ := List.mem_map.mp hamount
  exact h part (List.mem_of_mem_filter hpart)

/-- What the members get is what is given out. -/
theorem sum_amountOf (hnodup : members.Nodup) {parts : List (ι × Int)}
    (h : ∀ part ∈ parts, part.1 ∈ members) :
    (members.map fun i => amountOf parts i).sum = (parts.map Prod.snd).sum := by
  induction parts with
  | nil => exact List.sum_eq_zero (by simp)
  | cons part parts ih =>
      obtain ⟨hpart, hrest⟩ := List.forall_mem_cons.mp h
      have hone : (members.map fun i => if part.1 = i then part.2 else 0).sum = part.2 := by
        simp only [@eq_comm _ part.1]
        rw [List.sum_map_ite_eq, List.count_eq_one_of_mem hnodup hpart]
        simp
      simp only [amountOf_cons, List.sum_map_add, hone, ih hrest, List.map_cons, List.sum_cons]

theorem amountOf_handOut (share extra : Int) (hnodup : members.Nodup) (hi : i ∈ members) :
    amountOf (handOut share extra members) i =
      share + if (members.idxOf i : Int) < extra then 1 else 0 := by
  induction members generalizing extra with
  | nil => cases hi
  | cons head rest ih =>
      obtain ⟨hfresh, hrest⟩ := List.nodup_cons.mp hnodup
      rw [handOut, amountOf_cons]
      by_cases heq : head = i
      · subst heq
        have hzero : amountOf (handOut share (if 0 < extra then extra - 1 else extra) rest) head = 0 :=
          amountOf_eq_zero (by rwa [handOut_fst])
        simp [hzero]
      · have hmem : i ∈ rest := (List.mem_cons.mp hi).resolve_left (Ne.symm heq)
        rw [if_neg heq, zero_add, ih _ hrest hmem, List.idxOf_cons_ne _ heq]
        push_cast
        congr 1
        split <;> split <;> split <;> omega

/-- A member gets its even share, and one more if it is among the first to be served. -/
theorem amountOf_split (total : Int) (hnodup : members.Nodup) (hi : i ∈ members) :
    amountOf (split total members) i = total / members.length +
      if (members.idxOf i : Int) < total % members.length then 1 else 0 :=
  amountOf_handOut _ _ hnodup hi

theorem amountOf_split_of_notMem (total : Int) (hi : i ∉ members) :
    amountOf (split total members) i = 0 :=
  amountOf_eq_zero (by rwa [split_fst])

/-- Out of a smaller amount nobody gets more. -/
theorem amountOf_split_mono {less total : Int} (hnodup : members.Nodup) (hle : less ≤ total)
    (i : ι) : amountOf (split less members) i ≤ amountOf (split total members) i := by
  by_cases hi : i ∈ members
  · have hlen : (0 : Int) < members.length := by exact_mod_cast List.length_pos_of_mem hi
    rw [amountOf_split less hnodup hi, amountOf_split total hnodup hi]
    have hquot := Int.ediv_le_ediv hlen hle
    rcases hquot.lt_or_eq with hlt | heq
    · split <;> split <;> omega
    · have hless := Int.mul_ediv_add_emod less members.length
      have htotal := Int.mul_ediv_add_emod total members.length
      rw [heq] at hless ⊢
      split <;> split <;> omega
  · rw [amountOf_split_of_notMem _ hi, amountOf_split_of_notMem _ hi]

end Shares
