import RewardSystem.Lib.Keyed

/-!
# Tables from keys to sets

Every key is stored with the elements of its set. A key whose set is empty is not stored.
-/

/-- The sets are lists without duplicates. -/
abbrev Multimap (κ α : Type*) := List (κ × List α)

namespace Multimap

variable {κ α : Type*} [DecidableEq κ] [DecidableEq α]

/-- The set stored under a key. -/
def get (key : κ) (table : Multimap κ α) : List α :=
  ((Keyed.lookup Prod.fst key table).map Prod.snd).getD []

def add (key : κ) (element : α) (table : Multimap κ α) : Multimap κ α :=
  match Keyed.lookup Prod.fst key table with
  | some (_, bucket) =>
      if element ∈ bucket then table
      else Keyed.modify Prod.fst key (fun _ => (key, bucket ++ [element])) table
  | none => table ++ [(key, [element])]

def delete (key : κ) (element : α) (table : Multimap κ α) : Multimap κ α :=
  match Keyed.lookup Prod.fst key table with
  | some (_, bucket) =>
      let left := bucket.filter (· ≠ element)
      if left = [] then table.filter fun entry => entry.1 ≠ key
      else Keyed.modify Prod.fst key (fun _ => (key, left)) table
  | none => table

variable {key key' : κ} {element element' : α} {table : Multimap κ α}

omit [DecidableEq α] in
@[simp]
theorem get_nil : get key ([] : Multimap κ α) = [] := rfl

omit [DecidableEq α] in
theorem get_of_lookup {bucket : List α} (h : Keyed.lookup Prod.fst key table = some (key', bucket)) :
    get key table = bucket := by
  simp [get, h]

omit [DecidableEq α] in
theorem get_modify {bucket : List α} {entry : κ × List α}
    (h : Keyed.lookup Prod.fst key table = some entry) :
    get key' (Keyed.modify Prod.fst key (fun _ => (key, bucket)) table) =
      if key' = key then bucket else get key' table := by
  have hkey : ∀ entry : κ × List α, entry.1 = key → (key, bucket).1 = key := fun _ _ => rfl
  by_cases hsame : key' = key
  · subst hsame
    simp [get, Keyed.lookup_modify_self hkey h]
  · simp [get, hsame, Keyed.lookup_modify_ne hkey hsame]

theorem get_add :
    get key' (add key element table) =
      if key' = key ∧ element ∉ get key table then get key table ++ [element]
      else get key' table := by
  unfold add
  cases hlookup : Keyed.lookup Prod.fst key table with
  | none =>
      have hempty : get key table = [] := by simp [get, hlookup]
      by_cases hsame : key' = key
      · subst hsame
        have hnew : Keyed.lookup Prod.fst (Prod.fst (key', [element])) table = none := hlookup
        have hself := Keyed.lookup_append_self hnew
        dsimp only at hself
        simp [get, hself, hlookup]
      · have hother : Keyed.lookup Prod.fst key' (table ++ [(key, [element])]) =
            Keyed.lookup Prod.fst key' table :=
          Keyed.lookup_append_of_ne fun h => hsame h.symm
        simp [get, hother, hsame]
  | some entry =>
      obtain ⟨stored, bucket⟩ := entry
      have hbucket := get_of_lookup hlookup
      by_cases hmem : element ∈ bucket
      · simp [hmem, hbucket]
      · rw [hbucket]
        simp only [hmem, if_false, get_modify hlookup, not_false_eq_true, and_true]

omit [DecidableEq α] in
theorem get_filter :
    get key' (table.filter fun entry => entry.1 ≠ key) =
      if key' = key then [] else get key' table := by
  unfold get
  by_cases hsame : key' = key
  · subst hsame
    have hgone : Keyed.lookup Prod.fst key' (table.filter fun entry => entry.1 ≠ key') = none := by
      rw [Keyed.lookup_eq_none]
      simp
    rw [hgone, if_pos rfl]
    rfl
  · have hother : Keyed.lookup Prod.fst key' (table.filter fun entry => entry.1 ≠ key) =
        Keyed.lookup Prod.fst key' table := by
      unfold Keyed.lookup
      rw [List.find?_filter]
      congr 1
      funext entry
      by_cases h : entry.1 = key'
      · simp [h, hsame]
      · simp [h]
    rw [hother, if_neg hsame]

theorem get_delete :
    get key' (delete key element table) =
      if key' = key then (get key table).filter (· ≠ element) else get key' table := by
  unfold delete
  cases hlookup : Keyed.lookup Prod.fst key table with
  | none =>
      have hempty : get key table = [] := by simp [get, hlookup]
      by_cases hsame : key' = key
      · simp [hsame, hempty]
      · simp [hsame]
  | some entry =>
      obtain ⟨stored, bucket⟩ := entry
      rw [get_of_lookup hlookup]
      by_cases hleft : bucket.filter (· ≠ element) = []
      · simp only [hleft, if_true, get_filter]
      · simp only [hleft, if_false, get_modify hlookup]

theorem mem_get_add :
    element' ∈ get key' (add key element table) ↔
      element' ∈ get key' table ∨ (key' = key ∧ element' = element) := by
  rw [get_add]
  by_cases hsame : key' = key
  · subst hsame
    by_cases hmem : element ∈ get key' table
    · simp only [hmem, not_true_eq_false, and_false, if_false, true_and]
      constructor
      · exact .inl
      · rintro (h | rfl)
        · exact h
        · exact hmem
    · simp [hmem]
  · simp [hsame]

theorem mem_get_delete :
    element' ∈ get key' (delete key element table) ↔
      element' ∈ get key' table ∧ ¬(key' = key ∧ element' = element) := by
  rw [get_delete]
  by_cases hsame : key' = key
  · subst hsame
    simp
  · simp [hsame]

theorem nodup_get_add (h : (get key' table).Nodup) : (get key' (add key element table)).Nodup := by
  rw [get_add]
  by_cases hnew : key' = key ∧ element ∉ get key table
  · obtain ⟨rfl, hmem⟩ := hnew
    rw [if_pos ⟨rfl, hmem⟩, List.nodup_append]
    refine ⟨h, by simp, ?_⟩
    intro a ha b hb
    obtain rfl := List.mem_singleton.mp hb
    rintro rfl
    exact hmem ha
  · rwa [if_neg hnew]

theorem nodup_get_delete (h : ∀ key, (get key table).Nodup) :
    (get key' (delete key element table)).Nodup := by
  rw [get_delete]
  by_cases hsame : key' = key
  · rw [if_pos hsame]
    exact (h key).filter _
  · rw [if_neg hsame]
    exact h key'

end Multimap
