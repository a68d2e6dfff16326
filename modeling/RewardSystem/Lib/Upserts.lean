import RewardSystem.Lib.Keyed
import Mathlib.Data.List.Nodup
import Mathlib.Data.List.Perm.Basic

/-!
# Rows put in by their keys

A row that is put into a table takes the place of the row with its key. Up to the order, a table
that rows were put into consists of these and of the old rows with other keys.
-/

namespace Keyed

variable {ρ κ : Type*} [DecidableEq κ] {key : ρ → κ} {rows news : List ρ} {row new : ρ}

/-- `new` takes the place of the row with its key, or is added at the end. -/
def put (key : ρ → κ) (rows : List ρ) (new : ρ) : List ρ :=
  upsert key (key new) new (fun _ => new) rows

theorem hasKeys_put (hkeys : HasKeys key rows) : HasKeys key (put key rows new) :=
  hasKeys_upsert (fun _ _ => rfl) rfl hkeys

omit [DecidableEq κ] in
theorem hasKeys_filter (keep : ρ → Bool) (hkeys : HasKeys key rows) :
    HasKeys key (rows.filter keep) :=
  hkeys.sublist (List.filter_sublist.map key)

theorem eq_of_key_eq {row' : ρ} (hkeys : HasKeys key rows) (hrow : row ∈ rows) (hrow' : row' ∈ rows)
    (heq : key row = key row') : row = row' := by
  have hfound := lookup_of_mem hkeys hrow
  rw [heq, lookup_of_mem hkeys hrow'] at hfound
  exact (Option.some.inj hfound).symm

/-- A table consists of some of its rows and of the rows with other keys. -/
theorem perm_append_filter (hkeys : HasKeys key rows) (hnews : HasKeys key news)
    (hsub : ∀ row ∈ news, row ∈ rows) :
    rows.Perm (news ++ rows.filter fun row => key row ∉ news.map key) := by
  have hchosen : (rows.filter fun row => key row ∈ news.map key).Perm news := by
    refine (List.perm_ext_iff_of_nodup ((List.Nodup.of_map key hkeys).filter _)
      (List.Nodup.of_map key hnews)).mpr fun row => ?_
    rw [List.mem_filter, decide_eq_true_eq]
    refine ⟨fun ⟨hrow, hkey⟩ => ?_, fun hrow => ⟨hsub row hrow, List.mem_map_of_mem hrow⟩⟩
    obtain ⟨new, hnew, heq⟩ := List.mem_map.mp hkey
    exact eq_of_key_eq hkeys (hsub new hnew) hrow heq ▸ hnew
  have hsplit := List.filter_append_perm (fun row => decide (key row ∈ news.map key)) rows
  refine hsplit.symm.trans (List.Perm.append hchosen (List.Perm.of_eq ?_))
  exact List.filter_congr fun row _ => decide_not.symm

theorem modify_perm (hkeys : HasKeys key rows) (hmem : row ∈ rows) (f : ρ → ρ) :
    (modify key (key row) f rows).Perm (f row :: rows.filter fun other => key other ≠ key row) := by
  induction rows with
  | nil => cases hmem
  | cons head rest ih =>
      simp only [HasKeys, List.map_cons, List.nodup_cons, List.mem_map, not_exists,
        not_and] at hkeys
      rcases List.mem_cons.mp hmem with rfl | hrest
      · have hothers : ∀ other ∈ rest, key other ≠ key row := hkeys.1
        have hsame : modify key (key row) f rest = rest := modify_of_forall_ne hothers
        have hfilter : rest.filter (fun other => key other ≠ key row) = rest :=
          List.filter_eq_self.mpr fun other hother => by simpa using hothers other hother
        simp only [modify, List.map_cons, if_true] at hsame ⊢
        rw [hsame, List.filter_cons_of_neg (by simp), hfilter]
      · have hne : key head ≠ key row := fun heq => hkeys.1 row hrest heq.symm
        have hcons : modify key (key row) f (head :: rest) = head :: modify key (key row) f rest := by
          simp [modify, hne]
        rw [hcons, List.filter_cons_of_pos (by simpa using hne)]
        exact ((ih hkeys.2 hrest).cons head).trans (List.Perm.swap _ _ _)

theorem put_perm (hkeys : HasKeys key rows) :
    (put key rows new).Perm (new :: rows.filter fun other => key other ≠ key new) := by
  unfold put upsert
  cases hfound : lookup key (key new) rows with
  | none =>
      have hall : rows.filter (fun other => key other ≠ key new) = rows :=
        List.filter_eq_self.mpr fun other hother => by
          simpa using lookup_eq_none.mp hfound other hother
      rw [hall]
      exact List.perm_append_singleton new rows
  | some old =>
      have hperm := modify_perm hkeys (mem_of_lookup hfound) fun _ => new
      rwa [key_of_lookup hfound] at hperm

/-- Rows with different keys are put in one after another. -/
theorem foldl_put_perm (hkeys : HasKeys key rows) (hnews : HasKeys key news) :
    (news.foldl (put key) rows).Perm
      (news ++ rows.filter fun row => key row ∉ news.map key) := by
  induction news generalizing rows with
  | nil => simp
  | cons new news ih =>
      simp only [HasKeys, List.map_cons, List.nodup_cons, List.mem_map, not_exists,
        not_and] at hnews
      obtain ⟨hfirst, hnews⟩ := hnews
      have hnew : key new ∉ news.map key := fun hmem => by
        obtain ⟨other, hother, heq⟩ := List.mem_map.mp hmem
        exact hfirst other hother heq
      calc (news.foldl (put key) (put key rows new)).Perm
            (news ++ (put key rows new).filter fun row => key row ∉ news.map key) :=
          ih (hasKeys_put hkeys) hnews
        _ |>.Perm (news ++ (new :: rows.filter fun other => key other ≠ key new).filter
            fun row => key row ∉ news.map key) :=
          ((put_perm hkeys).filter _).append_left news
        _ |>.Perm (news ++ new :: rows.filter fun row => key row ∉ (new :: news).map key) := by
          rw [List.filter_cons_of_pos (by simpa using hnew), List.filter_filter]
          refine ((List.Perm.of_eq ?_).cons new).append_left news
          refine List.filter_congr fun row _ => ?_
          simp [Bool.and_comm]
        _ |>.Perm (new :: news ++ rows.filter fun row => key row ∉ (new :: news).map key) :=
          List.perm_middle

theorem hasKeys_foldl_put (hkeys : HasKeys key rows) : HasKeys key (news.foldl (put key) rows) := by
  induction news generalizing rows with
  | nil => exact hkeys
  | cons new news ih => exact ih (hasKeys_put hkeys)

end Keyed
