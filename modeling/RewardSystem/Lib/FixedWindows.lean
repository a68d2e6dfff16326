import Mathlib.Data.List.Basic
import Mathlib.Data.List.Nodup
import Mathlib.Data.List.Perm.Subperm
import Mathlib.Logic.Function.Basic
import Mathlib.Tactic.Common

/-!
# Counting in fixed windows

The first hit of a key opens a window of a given length, and the hits that follow are counted until
it is over; the next hit opens another one. The windows of a key are numbered.
-/

namespace FixedWindows

variable {κ : Type*}

/-- A window, with the hits that it has counted. -/
structure Window where
  number : Nat
  openedAt : Int
  used : Nat
  used_pos : 0 < used

/-- The window of each key that was opened last. -/
abbrev Windows (κ : Type*) := κ → Option Window

/-- The window of the key that is not over. -/
def running (length : Int) (windows : Windows κ) (now : Int) (key : κ) : Option Window :=
  (windows key).filter fun window => now < window.openedAt + length

def hitWindow (length : Int) (windows : Windows κ) (now : Int) (key : κ) : Window :=
  match running length windows now key with
  | some window => { window with used := window.used + 1, used_pos := Nat.succ_pos _ }
  | none =>
      { number := (windows key).elim 0 fun window => window.number + 1
        openedAt := now
        used := 1
        used_pos := Nat.one_pos }

def hit [DecidableEq κ] (length : Int) (windows : Windows κ) (now : Int) (key : κ) : Windows κ :=
  Function.update windows key (some (hitWindow length windows now key))

/-- The windows that a sequence of hits is counted in. -/
def marks [DecidableEq κ] (length : Int) : Windows κ → List (Int × κ) → List (κ × Window)
  | _, [] => []
  | windows, (now, key) :: hits =>
      (key, hitWindow length windows now key) :: marks length (hit length windows now key) hits

section Running

variable {length now : Int} {windows : Windows κ} {key other : κ} {window : Window}

theorem running_eq_some : running length windows now key = some window ↔
    windows key = some window ∧ now < window.openedAt + length := by
  rw [running, Option.filter_eq_some_iff, decide_eq_true_eq]

theorem running_eq_none : running length windows now key = none ↔
    ∀ window, windows key = some window → window.openedAt + length ≤ now := by
  rw [running, Option.filter_eq_none_iff]
  simp only [decide_eq_true_eq, Int.not_lt]

theorem hitWindow_of_running (h : running length windows now key = some window) :
    hitWindow length windows now key =
      { window with used := window.used + 1, used_pos := Nat.succ_pos _ } := by
  rw [hitWindow, h]

theorem hitWindow_of_not_running (h : running length windows now key = none) :
    (hitWindow length windows now key).used = 1 ∧
      (hitWindow length windows now key).openedAt = now := by
  rw [hitWindow, h]
  exact ⟨rfl, rfl⟩

theorem hitWindow_used_eq_one : (hitWindow length windows now key).used = 1 ↔
    running length windows now key = none := by
  cases h : running length windows now key with
  | none => simp [(hitWindow_of_not_running h).1]
  | some window =>
      have hpos := window.used_pos
      simp [hitWindow_of_running h]
      omega

theorem hitWindow_number (h : windows key = some window) :
    (hitWindow length windows now key).number = window.number ∧
        (hitWindow length windows now key).used = window.used + 1 ∨
      (hitWindow length windows now key).number = window.number + 1 ∧
        (hitWindow length windows now key).used = 1 := by
  cases hrunning : running length windows now key with
  | none =>
      refine .inr ?_
      rw [hitWindow, hrunning, h]
      exact ⟨rfl, rfl⟩
  | some current =>
      obtain rfl := Option.some.inj (h.symm.trans (running_eq_some.mp hrunning).1)
      rw [hitWindow_of_running hrunning]
      exact .inl ⟨rfl, rfl⟩

variable [DecidableEq κ]

theorem hit_self : hit length windows now key key = some (hitWindow length windows now key) :=
  Function.update_self ..

theorem hit_of_ne (h : other ≠ key) : hit length windows now key other = windows other :=
  Function.update_of_ne h ..

end Running

section Marks

variable [DecidableEq κ] {length : Int} {windows : Windows κ} {hits : List (Int × κ)} {key : κ}
  {number : Nat}

/-- The hits of a key that are counted in one of its windows. -/
def countedIn (key : κ) (number : Nat) (marked : List (κ × Window)) : List (κ × Window) :=
  marked.filter fun mark => mark.1 = key ∧ mark.2.number = number

/-- No hit is counted in a window that is over. -/
theorem countedIn_eq_nil {window : Window} (h : windows key = some window)
    (hnumber : number < window.number) : countedIn key number (marks length windows hits) = [] := by
  induction hits generalizing windows window with
  | nil => rfl
  | cons first hits ih =>
      obtain ⟨now, hitKey⟩ := first
      rw [marks, countedIn, List.filter_cons]
      by_cases hkey : hitKey = key
      · subst hkey
        have hcases := @hitWindow_number _ length now windows hitKey window h
        rw [if_neg (by simp; omega)]
        exact ih hit_self (by omega)
      · rw [if_neg (by simp [hkey])]
        exact ih (by rw [hit_of_ne (Ne.symm hkey)]; exact h) hnumber

/-- The count of the next hit in the window. -/
def nextUse (windows : Windows κ) (key : κ) (number : Nat) : Nat :=
  match windows key with
  | some window => if window.number = number then window.used + 1 else 1
  | none => 1

/-- The hits of a window are counted one after another. -/
theorem exists_range_countedIn : ∃ count,
    (countedIn key number (marks length windows hits)).map (fun mark => mark.2.used) =
      List.range' (nextUse windows key number) count := by
  induction hits generalizing windows with
  | nil => exact ⟨0, rfl⟩
  | cons first hits ih =>
      obtain ⟨now, hitKey⟩ := first
      obtain ⟨count, hcount⟩ := @ih (hit length windows now hitKey)
      rw [marks, countedIn, List.filter_cons]
      by_cases hkey : hitKey = key
      · subst hkey
        by_cases hnumber : (hitWindow length windows now hitKey).number = number
        · refine ⟨count + 1, ?_⟩
          have hnext : nextUse (hit length windows now hitKey) hitKey number =
              (hitWindow length windows now hitKey).used + 1 := by
            rw [nextUse, hit_self]
            exact if_pos hnumber
          have hfirst : nextUse windows hitKey number =
              (hitWindow length windows now hitKey).used := by
            unfold nextUse
            cases hwindow : windows hitKey with
            | none =>
                have hnone : running length windows now hitKey = none := by
                  rw [running, hwindow]
                  rfl
                exact (hitWindow_of_not_running hnone).1.symm
            | some window =>
                dsimp only
                rcases @hitWindow_number _ length now windows hitKey window hwindow with
                  ⟨hsame, hused⟩ | ⟨hmore, hused⟩
                · rw [if_pos (hsame.symm.trans hnumber), hused]
                · rw [if_neg (by omega), hused]
          rw [if_pos (by simp [hnumber]), List.map_cons, List.range'_succ, hfirst, ← hnext,
            ← hcount]
          rfl
        · rw [if_neg (by simp [hnumber])]
          have hrest : (countedIn hitKey number
              (marks length (hit length windows now hitKey) hits)).map
                (fun mark => mark.2.used) = List.range' (nextUse windows hitKey number) count ∨
              countedIn hitKey number (marks length (hit length windows now hitKey) hits) = [] := by
            cases hwindow : windows hitKey with
            | none =>
                left
                rw [hcount, nextUse, hit_self, nextUse, hwindow]
                dsimp only
                rw [if_neg hnumber]
            | some window =>
                rcases @hitWindow_number _ length now windows hitKey window hwindow with
                  ⟨hsame, -⟩ | ⟨hmore, -⟩
                · left
                  rw [hcount, nextUse, hit_self, nextUse, hwindow]
                  dsimp only
                  rw [if_neg hnumber, if_neg (by omega)]
                · by_cases hold : window.number = number
                  · exact .inr (countedIn_eq_nil hit_self (by omega))
                  · left
                    rw [hcount, nextUse, hit_self, nextUse, hwindow]
                    dsimp only
                    rw [if_neg hnumber, if_neg hold]
          rcases hrest with hrest | hrest
          · exact ⟨count, hrest⟩
          · exact ⟨0, by rw [countedIn] at hrest; rw [hrest]; rfl⟩
      · rw [if_neg (by simp [hkey])]
        refine ⟨count, ?_⟩
        have hnext : nextUse (hit length windows now hitKey) key number =
            nextUse windows key number := by
          rw [nextUse, nextUse, hit_of_ne (Ne.symm hkey)]
        rw [← hnext]
        exact hcount

/-- At most `limit` hits of a window are counted up to `limit`. -/
theorem countP_le (limit : Nat) :
    (countedIn key number (marks length (fun _ => none) hits)).countP
      (fun mark => mark.2.used ≤ limit) ≤ limit := by
  obtain ⟨count, hcount⟩ := @exists_range_countedIn κ _ length (fun _ => none) hits key number
  have hmap : (countedIn key number (marks length (fun _ => none) hits)).countP
      (fun mark => mark.2.used ≤ limit) = (List.range' 1 count).countP (· ≤ limit) := by
    rw [show List.range' 1 count = _ from hcount.symm, List.countP_map]
    rfl
  rw [hmap]
  have hsub : ((List.range' 1 count).filter (· ≤ limit)).Subperm (List.range' 1 limit) := by
    refine List.subperm_of_subset (List.Nodup.filter _ List.nodup_range') fun use huse => ?_
    obtain ⟨hmem, hle⟩ := List.mem_filter.mp huse
    rw [List.mem_range'_1] at hmem ⊢
    have hle := of_decide_eq_true hle
    omega
  have hlength := hsub.length_le
  rwa [List.length_range', ← List.countP_eq_length_filter] at hlength

end Marks

end FixedWindows
