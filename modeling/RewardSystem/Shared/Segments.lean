import Mathlib.Data.List.Basic

/-!
# Texts of segments with colons between them

Keys and hash inputs are texts such as `a:12:b`. A segment without a colon can be read off again.
-/

namespace RewardSystem

theorem colon_notMem_toDigits (n : Nat) : ':' ∉ Nat.toDigits 10 n := by
  intro h
  simpa using Nat.isDigit_of_mem_toDigits (by decide) (by decide) h

theorem toDigits_injective : Function.Injective (Nat.toDigits 10) := by
  intro m n h
  rw [← Nat.ofDigitChars_ten_toDigits (n := m), h, Nat.ofDigitChars_ten_toDigits]

theorem append_colon_inj {xs ys rest rest' : List Char} (hxs : ':' ∉ xs) (hys : ':' ∉ ys)
    (h : xs ++ ':' :: rest = ys ++ ':' :: rest') : xs = ys ∧ rest = rest' := by
  induction xs generalizing ys with
  | nil =>
      cases ys with
      | nil => exact ⟨rfl, (List.cons.inj h).2⟩
      | cons y ys =>
          obtain ⟨rfl, -⟩ := List.cons.inj h
          exact absurd (List.mem_cons_self) hys
  | cons x xs ih =>
      cases ys with
      | nil =>
          obtain ⟨rfl, -⟩ := List.cons.inj h
          exact absurd (List.mem_cons_self) hxs
      | cons y ys =>
          obtain ⟨rfl, htail⟩ := List.cons.inj h
          obtain ⟨rfl, hrest⟩ := ih (fun hx => hxs (List.mem_cons_of_mem x hx))
            (fun hy => hys (List.mem_cons_of_mem x hy)) htail
          exact ⟨rfl, hrest⟩

theorem append_colon_inj_right {xs ys last last' : List Char} (hlast : ':' ∉ last)
    (hlast' : ':' ∉ last') (h : xs ++ ':' :: last = ys ++ ':' :: last') : xs = ys ∧ last = last' := by
  have hreverse : last.reverse ++ ':' :: xs.reverse = last'.reverse ++ ':' :: ys.reverse := by
    simpa using congrArg List.reverse h
  obtain ⟨hlasts, hrest⟩ := append_colon_inj (by simpa using hlast) (by simpa using hlast') hreverse
  exact ⟨List.reverse_injective hrest, List.reverse_injective hlasts⟩

end RewardSystem
