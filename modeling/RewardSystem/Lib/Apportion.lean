import Mathlib.Algebra.BigOperators.Group.List.Basic
import Mathlib.Algebra.Order.BigOperators.Group.List
import Mathlib.Algebra.Order.Group.Int
import Mathlib.Logic.Function.Basic
import Mathlib.Tactic.Linarith
import Mathlib.Tactic.Ring

/-!
# Apportionment

An amount is divided in proportion to weights. Everybody gets the whole part of the exact share, and
the units that are left over go round one at a time.
-/

namespace Apportion

variable {ι : Type*} [DecidableEq ι]

/-- One unit more for `i`. -/
def addUnit (i : ι) (units : ι → Nat) : ι → Nat :=
  Function.update units i (units i + 1)

/-- The units that everybody gets when `units` of them go round, first among those who are still
`waiting` in this turn and then among all `members` again. -/
def goRound (members : List ι) : List ι → Nat → ι → Nat
  | _, 0 => fun _ => 0
  | i :: waiting, units + 1 => addUnit i (goRound members waiting units)
  | [], units + 1 =>
      match members with
      | [] => fun _ => 0
      | i :: rest => addUnit i (goRound members rest units)

variable {ids members waiting : List ι} {i : ι}

theorem sum_addUnit (units : ι → Nat) (hnodup : ids.Nodup) (hi : i ∈ ids) :
    (ids.map (addUnit i units)).sum = (ids.map units).sum + 1 := by
  induction ids with
  | nil => simp at hi
  | cons head rest ih =>
      obtain ⟨hfresh, hrest⟩ := List.nodup_cons.mp hnodup
      simp only [List.map_cons, List.sum_cons]
      rcases List.mem_cons.mp hi with rfl | hi
      · have hothers : rest.map (addUnit i units) = rest.map units := by
          refine List.map_congr_left fun j hj => ?_
          have hne : j ≠ i := fun h => hfresh (h ▸ hj)
          simp [addUnit, hne]
        rw [hothers]
        simp only [addUnit, Function.update_self]
        omega
      · have hne : head ≠ i := fun h => hfresh (h ▸ hi)
        rw [ih hrest hi]
        simp only [addUnit, Function.update_of_ne hne]
        omega

/-- All units are handed out. -/
theorem sum_goRound (units : Nat) (hnodup : ids.Nodup) (hne : members ≠ [])
    (hmembers : members ⊆ ids) (hwaiting : waiting ⊆ ids) :
    (ids.map (goRound members waiting units)).sum = units := by
  induction units generalizing waiting with
  | zero => cases waiting <;> simp [goRound]
  | succ units ih =>
      cases waiting with
      | cons i waiting =>
          obtain ⟨hi, hwaiting⟩ := List.cons_subset.mp hwaiting
          rw [goRound, sum_addUnit _ hnodup hi, ih hwaiting]
      | nil =>
          cases members with
          | nil => exact absurd rfl hne
          | cons i rest =>
              obtain ⟨hi, hrest⟩ := List.cons_subset.mp hmembers
              rw [goRound, sum_addUnit _ hnodup hi, ih hrest]

/-- As long as there are no more units than members waiting, nobody gets a second one. -/
theorem goRound_of_le {units : Nat} (hnodup : waiting.Nodup) (hle : units ≤ waiting.length) :
    goRound members waiting units i = if i ∈ waiting.take units then 1 else 0 := by
  induction units generalizing waiting with
  | zero => cases waiting <;> simp [goRound]
  | succ units ih =>
      cases waiting with
      | nil => simp at hle
      | cons head rest =>
          obtain ⟨hfresh, hrest⟩ := List.nodup_cons.mp hnodup
          have hle' : units ≤ rest.length := by simpa using hle
          rw [goRound, List.take_succ_cons]
          by_cases heq : i = head
          · subst heq
            have htake : i ∉ rest.take units := fun h => hfresh (List.mem_of_mem_take h)
            simp [addUnit, ih hrest hle', htake]
          · simp [addUnit, heq, ih hrest hle']

omit [DecidableEq ι] in
/-- The whole parts of the shares do not exceed the amount. -/
theorem sum_share_le {members : List ι} (weight : ι → ℤ) (amount : ℤ)
    (htotal : 0 < (members.map weight).sum) :
    (members.map fun i => weight i * amount / (members.map weight).sum).sum ≤ amount := by
  set total := (members.map weight).sum with htotal_eq
  have hscaled : ∀ group : List ι,
      (group.map fun i => weight i * amount / total).sum * total
        ≤ (group.map weight).sum * amount := by
    intro group
    induction group with
    | nil => simp
    | cons i rest ih =>
        have hi : weight i * amount / total * total ≤ weight i * amount :=
          Int.ediv_mul_le _ htotal.ne'
        simp only [List.map_cons, List.sum_cons, add_mul]
        exact add_le_add hi ih
  have hall := hscaled members
  rw [← htotal_eq, mul_comm total amount] at hall
  exact le_of_mul_le_mul_right hall htotal

omit [DecidableEq ι] in
/-- Fewer units are left over than there are members. -/
theorem lt_sum_share_add {members : List ι} (weight : ι → ℤ) (amount : ℤ)
    (htotal : 0 < (members.map weight).sum) :
    amount < (members.map fun i => weight i * amount / (members.map weight).sum).sum
      + members.length := by
  set total := (members.map weight).sum with htotal_eq
  have hscaled : ∀ group : List ι, (group.map weight).sum * amount + group.length
      ≤ ((group.map fun i => weight i * amount / total).sum + group.length) * total := by
    intro group
    induction group with
    | nil => simp
    | cons i rest ih =>
        have hi : weight i * amount + 1 ≤ (weight i * amount / total + 1) * total :=
          Int.lt_ediv_add_one_mul_self _ htotal
        simp only [List.map_cons, List.sum_cons, List.length_cons]
        push_cast
        linarith
  have hall := hscaled members
  have hlength : (0 : ℤ) < members.length := by
    have hne : members ≠ [] := fun h => by simp [htotal_eq, h] at htotal
    exact_mod_cast List.length_pos_iff.mpr hne
  rw [← htotal_eq] at hall
  refine lt_of_mul_lt_mul_right ?_ htotal.le
  linarith [mul_comm total amount]

end Apportion
