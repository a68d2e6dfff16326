import Mathlib.Data.List.Basic
import Mathlib.Data.List.Infix
import Mathlib.Tactic.Common

/-!
# Histories of a keyed store

The committed updates of a store, in order. A value read under a key is current for a reader that
started after some of the updates if it is not older than the last of those.
-/

namespace History

variable {κ ν : Type*} [DecidableEq κ] {key : κ} {log started more : List (κ × ν)}
  {value : Option ν}

/-- The value that the last update of `key` wrote. -/
def latest (key : κ) (log : List (κ × ν)) : Option ν :=
  log.reverse.lookup key

/-- For every update of `key` among those that had `started`, `value` is what it or a later update
wrote. -/
def NotBefore (key : κ) (started log : List (κ × ν)) (value : Option ν) : Prop :=
  ∀ (i : Nat) (v : ν), started[i]? = some (key, v) →
    ∃ (j : Nat) (v' : ν), i ≤ j ∧ log[j]? = some (key, v') ∧ value = some v'

theorem latest_append : latest key (log ++ more) = (latest key more).or (latest key log) := by
  rw [latest, List.reverse_append, List.lookup_append]
  rfl

/-- The latest value was written by an update with no other update of the key after it. -/
theorem exists_last_of_latest {v : ν} (hlatest : latest key log = some v) :
    ∃ i : Nat, log[i]? = some (key, v) ∧
      ∀ (j : Nat) (v' : ν), log[j]? = some (key, v') → j ≤ i := by
  obtain ⟨later, earlier, hreverse, hlater⟩ := List.lookup_eq_some_iff.mp hlatest
  have hlog : log = earlier.reverse ++ (key, v) :: later.reverse := by
    rw [← List.reverse_reverse log, hreverse]
    simp
  refine ⟨earlier.length, by simp [hlog], ?_⟩
  intro j v' hj
  by_contra hlt
  rw [hlog, List.getElem?_append_right (by simp; omega), List.length_reverse,
    List.getElem?_cons, if_neg (by omega)] at hj
  have hmem : (key, v') ∈ later := List.mem_reverse.mp (List.mem_of_getElem? hj)
  simpa using hlater _ hmem

theorem exists_latest_of_getElem? {i : Nat} {v : ν} (hi : log[i]? = some (key, v)) :
    ∃ v', latest key log = some v' := by
  rw [← Option.isSome_iff_exists, latest, List.lookup_isSome_iff]
  exact ⟨(key, v), by simpa using List.mem_of_getElem? hi, by simp⟩

namespace NotBefore

/-- What is current at some moment since the reader started is not too old. -/
theorem of_latest (hstarted : started <+: log) : NotBefore key started log (latest key log) := by
  intro i v hi
  have hlog : log[i]? = some (key, v) := by
    obtain ⟨later, rfl⟩ := hstarted
    rw [List.getElem?_append_left (List.getElem?_eq_some_iff.mp hi).1, hi]
  obtain ⟨v', hlatest⟩ := exists_latest_of_getElem? hlog
  obtain ⟨j, hj, hlast⟩ := exists_last_of_latest hlatest
  exact ⟨j, v', hlast i v hlog, hj, hlatest⟩

omit [DecidableEq κ] in
theorem append (hvalue : NotBefore key started log value) (more : List (κ × ν)) :
    NotBefore key started (log ++ more) value := by
  intro i v hi
  obtain ⟨j, v', hij, hj, hv'⟩ := hvalue i v hi
  have hlt : j < log.length := (List.getElem?_eq_some_iff.mp hj).1
  exact ⟨j, v', hij, by rw [List.getElem?_append_left hlt, hj], hv'⟩

/-- A reader that starts now has to find the last update. -/
theorem eq_latest (hvalue : NotBefore key log log value) {v : ν}
    (hlatest : latest key log = some v) : value = some v := by
  obtain ⟨i, hi, hlast⟩ := exists_last_of_latest hlatest
  obtain ⟨j, v', hij, hj, rfl⟩ := hvalue i v hi
  obtain rfl : j = i := le_antisymm (hlast j v' hj) hij
  rw [hi] at hj
  exact (congrArg (Option.map Prod.snd) hj).symm

end NotBefore

end History
