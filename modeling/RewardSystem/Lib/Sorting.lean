import Mathlib.Data.List.Sort

/-!
# Sorting by a key

A list that is sorted by a total order which tells its elements apart comes out the same in
whatever order it was given.
-/

namespace Sorting

variable {α : Type*} {r : α → α → Prop} [DecidableRel r] {l l' : List α}

theorem pairwise_insertionSort (htotal : ∀ a b, r a b ∨ r b a)
    (htrans : ∀ a b c, r a b → r b c → r a c) (l : List α) : (l.insertionSort r).Pairwise r :=
  haveI : Std.Total r := ⟨htotal⟩
  haveI : IsTrans α r := ⟨htrans⟩
  List.pairwise_insertionSort r l

/-- The order of the given list does not matter. -/
theorem insertionSort_eq_of_perm (htotal : ∀ a b, r a b ∨ r b a)
    (htrans : ∀ a b c, r a b → r b c → r a c)
    (hanti : ∀ a ∈ l, ∀ b ∈ l, r a b → r b a → a = b) (hperm : l.Perm l') :
    l.insertionSort r = l'.insertionSort r := by
  refine List.Perm.eq_of_pairwise (fun a b ha hb => hanti a ?_ b ?_)
    (pairwise_insertionSort htotal htrans l) (pairwise_insertionSort htotal htrans l') ?_
  · exact (List.mem_insertionSort r).mp ha
  · exact hperm.mem_iff.mpr ((List.mem_insertionSort r).mp hb)
  · exact (List.perm_insertionSort r l).trans (hperm.trans (List.perm_insertionSort r l').symm)

omit [DecidableRel r] in
/-- What comes out among the first `n` goes before what does not. -/
theorem rel_of_mem_take_of_notMem (hsorted : l.Pairwise r) {n : Nat} {a b : α}
    (ha : a ∈ l.take n) (hb : b ∈ l) (hnot : b ∉ l.take n) : r a b := by
  have hdrop : b ∈ l.drop n := by
    rw [← List.take_append_drop n l, List.mem_append] at hb
    exact hb.resolve_left hnot
  rw [← List.take_append_drop n l, List.pairwise_append] at hsorted
  exact hsorted.2.2 a ha b hdrop

/-- In a list that rises strictly in a key, an element has as many before it as have a smaller
key. -/
theorem idxOf_eq_countP [DecidableEq α] {key : α → Int} (hsorted : l.Pairwise (key · < key ·))
    {a : α} (ha : a ∈ l) : l.idxOf a = l.countP fun b => key b < key a := by
  induction l with
  | nil => cases ha
  | cons head rest ih =>
      obtain ⟨hhead, hrest⟩ := List.pairwise_cons.mp hsorted
      by_cases heq : head = a
      · subst heq
        have hnone : rest.countP (fun b => key b < key head) = 0 :=
          List.countP_eq_zero.mpr fun b hb => by
            have := hhead b hb
            simp only [decide_eq_true_eq]
            omega
        rw [List.idxOf_cons_self, List.countP_cons, hnone]
        simp
      · have hmem : a ∈ rest := (List.mem_cons.mp ha).resolve_left (Ne.symm heq)
        have hlt := hhead a hmem
        rw [List.idxOf_cons_ne _ heq, ih hrest hmem, List.countP_cons, if_pos (by simpa using hlt)]

end Sorting
