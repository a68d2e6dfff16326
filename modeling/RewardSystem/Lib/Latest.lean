import RewardSystem.Lib.Sorting
import Mathlib.Data.List.Perm.Subperm

/-!
# The latest of what has been seen

A list of bounded length that keeps the greatest elements, however often and in whatever order they
come. An element that was pushed out is never needed again.
-/

namespace Sorting

variable {α κ : Type*} [LinearOrder κ] {key : α → κ} {n : Nat} {seen seen' l l' sorted : List α}
  {new : α}

/-- `l` holds the `n` greatest elements of `seen` in order, or all of them if there are no more. -/
structure Latest (key : α → κ) (n : Nat) (seen l : List α) : Prop where
  sorted : l.Pairwise fun a b => key a < key b
  subset : ∀ a ∈ l, a ∈ seen
  newer : ∀ a ∈ seen, a ∉ l → ∀ b ∈ l, key a < key b
  length_le : l.length ≤ n
  full : ∀ a ∈ seen, a ∉ l → l.length = n

theorem latest_nil (key : α → κ) (n : Nat) : Latest key n [] [] :=
  ⟨.nil, nofun, nofun, Nat.zero_le n, nofun⟩

/-- The elements determine the list. -/
theorem Latest.unique (h : Latest key n seen l) (h' : Latest key n seen' l')
    (hseen : ∀ a, a ∈ seen ↔ a ∈ seen') : l = l' := by
  have hnodup : ∀ {l : List α}, l.Pairwise (fun a b => key a < key b) → l.Nodup :=
    fun hsorted => hsorted.imp fun hlt heq => (heq ▸ hlt).false
  -- one list lacks an element of the other only if it is full of greater ones
  have hsub : ∀ {seen seen' l l' : List α}, Latest key n seen l → Latest key n seen' l' →
      (∀ a, a ∈ seen ↔ a ∈ seen') → ∀ a ∈ l, a ∈ l' := by
    intro seen seen' l l' h h' hseen a ha
    by_contra hnot
    have haseen := (hseen a).mp (h.subset a ha)
    have hfull := h'.full a haseen hnot
    have hinto : ∀ b ∈ l', b ∈ l := by
      intro b hb
      by_contra hb'
      have hlt := h'.newer a haseen hnot b hb
      exact (hlt.trans (h.newer b ((hseen b).mpr (h'.subset b hb)) hb' a ha)).false
    have hsubperm := List.subperm_of_subset (hnodup h'.sorted) hinto
    have hlength : l'.length < l.length := by
      refine hsubperm.length_le.lt_of_ne fun heq => hnot ?_
      exact (hsubperm.perm_of_length_le heq.ge).mem_iff.mpr ha
    exact absurd h.length_le (by omega)
  have hmem : ∀ a, a ∈ l ↔ a ∈ l' := fun a =>
    ⟨hsub h h' hseen a, hsub h' h (fun b => (hseen b).symm) a⟩
  have hperm := (List.perm_ext_iff_of_nodup (hnodup h.sorted) (hnodup h'.sorted)).mpr hmem
  exact hperm.eq_of_pairwise (fun a b _ _ hab hba => ((hab.trans hba).false).elim) h.sorted h'.sorted

theorem latest_of_forall_mem (hsorted : sorted.Pairwise fun a b => key a < key b)
    (hsubset : ∀ a ∈ sorted, a ∈ seen)
    (hnewer : ∀ a ∈ seen, a ∉ sorted → n ≤ sorted.length ∧
      ∀ b ∈ sorted.drop (sorted.length - n), key a < key b) :
    Latest key n seen (sorted.drop (sorted.length - n)) := by
  have hsplit := List.take_append_drop (sorted.length - n) sorted
  have hbetween := hsorted
  rw [← hsplit, List.pairwise_append] at hbetween
  have htaken : ∀ a ∈ sorted, a ∉ sorted.drop (sorted.length - n) →
      a ∈ sorted.take (sorted.length - n) := fun a ha hnot => by
    rw [← hsplit, List.mem_append] at ha
    exact ha.resolve_right hnot
  refine ⟨hbetween.2.1, fun a ha => hsubset a (List.mem_of_mem_drop ha), ?_, ?_, ?_⟩
  · intro a ha hnot b hb
    by_cases hmem : a ∈ sorted
    · exact hbetween.2.2 a (htaken a hmem hnot) b hb
    · exact (hnewer a ha hmem).2 b hb
  · rw [List.length_drop]
    omega
  · intro a ha hnot
    have hle : n ≤ sorted.length := by
      by_cases hmem : a ∈ sorted
      · have hpos := List.length_pos_of_mem (htaken a hmem hnot)
        rw [List.length_take] at hpos
        omega
      · exact (hnewer a ha hmem).1
    rw [List.length_drop]
    omega

/-- One more element comes, and what does not fit any more is pushed out. -/
theorem Latest.insert (h : Latest key n seen l) (hsorted : sorted.Pairwise fun a b => key a < key b)
    (hmem : ∀ a, a ∈ sorted ↔ a ∈ l ∨ a = new) :
    Latest key n (seen ++ [new]) (sorted.drop (sorted.length - n)) := by
  have hnodup : l.Nodup := h.sorted.imp fun hlt heq => (heq ▸ hlt).false
  refine latest_of_forall_mem hsorted (fun a ha => ?_) fun a ha hnot => ?_
  · rw [List.mem_append, List.mem_singleton]
    exact ((hmem a).mp ha).imp_left (h.subset a)
  · obtain ⟨hout, hne⟩ := not_or.mp (mt (hmem a).mpr hnot)
    have hseen : a ∈ seen := by
      rw [List.mem_append, List.mem_singleton] at ha
      exact ha.resolve_right hne
    have hfull := h.full a hseen hout
    have hle : l.length ≤ sorted.length :=
      (List.subperm_of_subset hnodup fun b hb => (hmem b).mpr (.inl hb)).length_le
    refine ⟨hfull ▸ hle, fun b hb => ?_⟩
    rcases (hmem b).mp (List.mem_of_mem_drop hb) with hold | rfl
    · exact h.newer a hseen hout b hold
    by_cases hagain : b ∈ l
    · exact h.newer a hseen hout b hagain
    -- the new element has pushed out the least of the others, so it is greater than that one
    have hlonger : l.length < sorted.length := by
      have hcons : (b :: l).Nodup := List.nodup_cons.mpr ⟨hagain, hnodup⟩
      refine (List.subperm_of_subset hcons fun c hc => (hmem c).mpr ?_).length_le
      rcases List.mem_cons.mp hc with rfl | hc
      · exact .inr rfl
      · exact .inl hc
    cases hcase : sorted with
    | nil => rw [hcase] at hlonger; simp at hlonger
    | cons least rest =>
        have hrest : b ∈ rest := by
          have hdrop : sorted.length - n = (sorted.length - n - 1) + 1 := by omega
          rw [hdrop, hcase, List.drop_succ_cons] at hb
          exact List.mem_of_mem_drop hb
        have hlt : key least < key b := by
          rw [hcase] at hsorted
          exact (List.pairwise_cons.mp hsorted).1 b hrest
        have hleast : least ∈ l := by
          refine ((hmem least).mp (by rw [hcase]; exact List.mem_cons_self)).resolve_right ?_
          exact fun heq => (heq ▸ hlt).false
        exact (h.newer a hseen hout least hleast).trans hlt

end Sorting
