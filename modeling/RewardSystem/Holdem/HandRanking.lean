import RewardSystem.Holdem.Strength
import RewardSystem.Lib.Sorting
import Mathlib.Algebra.BigOperators.Group.List.Lemmas
import Mathlib.Algebra.Order.Ring.Int
import Mathlib.Data.List.Perm.Subperm

/-!
# The ranking of poker hands

Hands are ranked by their category first and by the heights of their ranks second, where the ranks
that occur more often come first. The ace is low in the straight from the five.
-/

namespace RewardSystem.Holdem

/-! ## The standard ranking -/

structure FiveCards (hand : List Card) : Prop where
  length : hand.length = 5
  nodup : hand.Nodup

def heights (hand : List Card) : List Nat :=
  hand.map fun card => rankValueMap card.rank

/-- `left` comes before `right` if it occurs more often, or as often and is higher. -/
def Outranks (values : List Nat) (left right : Nat) : Prop :=
  values.count right < values.count left ∨
    values.count left = values.count right ∧ right ≤ left

instance (values : List Nat) : DecidableRel (Outranks values) :=
  fun _ _ => inferInstanceAs (Decidable (_ ∨ _))

/-- The different heights of a hand by how often they occur, then by height. -/
def rankedHeights (hand : List Card) : List Nat :=
  (heights hand).dedup.insertionSort (Outranks (heights hand))

/-- The heights that occur `count` times. -/
def ofAKind (count : Nat) (hand : List Card) : List Nat :=
  (rankedHeights hand).filter fun height => (heights hand).count height = count

def SameSuit (hand : List Card) : Prop :=
  ∀ left ∈ hand, ∀ right ∈ hand, left.suit = right.suit

instance (hand : List Card) : Decidable (SameSuit hand) :=
  inferInstanceAs (Decidable (∀ _ ∈ _, ∀ _ ∈ _, _))

/-- Five heights in a row, from `high` down. -/
def run (high : Nat) : List Nat :=
  [high, high - 1, high - 2, high - 3, high - 4]

def wheel : List Nat := [14, 5, 4, 3, 2]

/-- The cards are a run from `high` down; the wheel is a run from the five. -/
def StraightTo (hand : List Card) (high : Nat) : Prop :=
  (heights hand).Perm (run high) ∨ (high = 5 ∧ (heights hand).Perm wheel)

instance (hand : List Card) : DecidablePred (StraightTo hand) :=
  fun _ => inferInstanceAs (Decidable (_ ∨ _))

def straightHigh (hand : List Card) : Option Nat :=
  (List.range 15).find? fun high => StraightTo hand high

def standardCategory (hand : List Card) : HandCategory :=
  if SameSuit hand ∧ (straightHigh hand).isSome then .straightFlush
  else if ofAKind 4 hand ≠ [] then .fourOfAKind
  else if ofAKind 3 hand ≠ [] ∧ ofAKind 2 hand ≠ [] then .fullHouse
  else if SameSuit hand then .flush
  else if (straightHigh hand).isSome then .straight
  else if ofAKind 3 hand ≠ [] then .threeOfAKind
  else if (ofAKind 2 hand).length = 2 then .twoPair
  else if ofAKind 2 hand ≠ [] then .onePair
  else .highCard

/-- The categories from the lowest to the highest. -/
def standardOrder : List HandCategory :=
  [.highCard, .onePair, .twoPair, .threeOfAKind, .straight, .flush, .fullHouse, .fourOfAKind,
    .straightFlush]

def standardHeights (hand : List Card) : List Nat :=
  match straightHigh hand with
  | some high => run high
  | none => rankedHeights hand

/-- The place of a hand in the standard ranking, to be compared lexicographically. -/
def standardRank (hand : List Card) : List Nat :=
  standardOrder.idxOf (standardCategory hand) :: standardHeights hand

/-! ## The heights of a hand -/

variable {hand : List Card}

theorem outranks_total (values : List Nat) (left right : Nat) :
    Outranks values left right ∨ Outranks values right left := by
  unfold Outranks
  omega

theorem outranks_trans (values : List Nat) (a b c : Nat) (h : Outranks values a b)
    (h' : Outranks values b c) : Outranks values a c := by
  unfold Outranks at *
  omega

theorem outranks_antisymm {values : List Nat} {left right : Nat} (h : Outranks values left right)
    (h' : Outranks values right left) : left = right := by
  unfold Outranks at *
  omega

theorem rankedHeights_pairwise (hand : List Card) :
    (rankedHeights hand).Pairwise (Outranks (heights hand)) :=
  Sorting.pairwise_insertionSort (outranks_total _) (outranks_trans _) _

theorem rankedHeights_perm (hand : List Card) : (rankedHeights hand).Perm (heights hand).dedup :=
  List.perm_insertionSort _ _

theorem mem_rankedHeights {height : Nat} : height ∈ rankedHeights hand ↔ height ∈ heights hand :=
  (rankedHeights_perm hand).mem_iff.trans List.mem_dedup

theorem heights_bounds {height : Nat} (h : height ∈ heights hand) : 2 ≤ height ∧ height ≤ 14 := by
  obtain ⟨card, -, rfl⟩ := List.mem_map.mp h
  cases card.rank <;> exact ⟨by decide, by decide⟩

theorem rankValueMap_injective : Function.Injective rankValueMap := by
  intro left right h
  cases left <;> cases right <;> first | rfl | cases h

theorem FiveCards.count_le (h : FiveCards hand) (height : Nat) : (heights hand).count height ≤ 4 := by
  have hfilter : (heights hand).count height =
      (hand.filter fun card => rankValueMap card.rank = height).length := by
    rw [heights, List.count, List.countP_map, List.countP_eq_length_filter]
    congr 1
  have hsuits : ((hand.filter fun card => rankValueMap card.rank = height).map Card.suit).Nodup := by
    refine (h.nodup.filter _).map_on fun left hleft right hright hsuit => ?_
    have hleft := (List.mem_filter.mp hleft).2
    have hright := (List.mem_filter.mp hright).2
    simp only [decide_eq_true_eq] at hleft hright
    have hrank := rankValueMap_injective (hleft.trans hright.symm)
    cases left
    cases right
    simp_all
  have hsub : (hand.filter fun card => rankValueMap card.rank = height).map Card.suit ⊆
      [.spades, .hearts, .diamonds, .clubs] := fun suit _ => by cases suit <;> simp
  have hfour := (List.subperm_of_subset hsuits hsub).length_le
  rw [hfilter]
  simpa using hfour

theorem FiveCards.sum_counts (h : FiveCards hand) :
    ((rankedHeights hand).map fun height => (heights hand).count height).sum = 5 := by
  rw [((rankedHeights_perm hand).map _).sum_eq, List.sum_map_count_dedup_eq_length, heights,
    List.length_map, h.length]

/-! ## What the evaluation reads -/

/-- The groups of the values read so far, under how often each was read. -/
def groupsOf (values : List Nat) (keys : List Nat) : List (Nat × Nat) :=
  keys.map fun value => (value, values.count value)

theorem countRank_groupsOf {seen keys : List Nat} {value : Nat} (hnodup : keys.Nodup)
    (hfresh : value ∉ keys → value ∉ seen) :
    countRank (groupsOf seen keys) value =
      groupsOf (seen ++ [value]) (if value ∈ keys then keys else keys ++ [value]) := by
  induction keys with
  | nil => simp [countRank, groupsOf, List.count_eq_zero.mpr (hfresh List.not_mem_nil)]
  | cons key keys ih =>
      obtain ⟨hkey, hrest⟩ := List.nodup_cons.mp hnodup
      by_cases heq : key = value
      · subst heq
        have htail : groupsOf seen keys = groupsOf (seen ++ [key]) keys := by
          refine List.map_congr_left fun other hother => ?_
          have hne : key ≠ other := fun h => hkey (h ▸ hother)
          simp [hne]
        have hhead : countRank (groupsOf seen (key :: keys)) key =
            (key, seen.count key + 1) :: groupsOf seen keys := by simp [groupsOf, countRank]
        rw [hhead, htail, if_pos List.mem_cons_self]
        simp [groupsOf]
      · have hne : value ≠ key := fun h => heq h.symm
        have hih := ih hrest fun hnot => hfresh (by simp [hne, hnot])
        have hhead : countRank (groupsOf seen (key :: keys)) value =
            (key, seen.count key) :: countRank (groupsOf seen keys) value := by
          simp [groupsOf, countRank, heq]
        have hcount : [value].count key = 0 := List.count_eq_zero.mpr (by simpa using heq)
        rw [hhead, hih]
        by_cases hmem : value ∈ keys
        · rw [if_pos hmem, if_pos (List.mem_cons_of_mem _ hmem)]
          simp [groupsOf, hcount]
        · rw [if_neg hmem, if_neg (by simp [hne, hmem])]
          simp [groupsOf, hcount]

theorem foldl_countRank (values seen : List Nat) {keys : List Nat} (hnodup : keys.Nodup)
    (hmem : ∀ value, value ∈ keys ↔ value ∈ seen) :
    ∃ all : List Nat, all.Nodup ∧ (∀ value, value ∈ all ↔ value ∈ seen ++ values) ∧
      values.foldl countRank (groupsOf seen keys) = groupsOf (seen ++ values) all := by
  induction values generalizing seen keys with
  | nil => exact ⟨keys, hnodup, by simpa using hmem, by simp⟩
  | cons value values ih =>
      have hstep := countRank_groupsOf hnodup fun h => mt (hmem value).mpr h
      have happend : seen ++ [value] ++ values = seen ++ value :: values := by simp
      rw [List.foldl_cons, hstep, ← happend]
      by_cases hkey : value ∈ keys
      · rw [if_pos hkey]
        refine ih (seen ++ [value]) hnodup fun other => ?_
        have hseen := (hmem value).mp hkey
        rw [hmem other, List.mem_append, List.mem_singleton]
        exact ⟨.inl, fun h => h.elim id fun heq => heq ▸ hseen⟩
      · rw [if_neg hkey]
        refine ih (seen ++ [value]) ?_ fun other => by simp [hmem]
        exact List.nodup_append.mpr ⟨hnodup, List.nodup_singleton value, by
          rintro a ha b hb rfl
          exact hkey (List.mem_singleton.mp hb ▸ ha)⟩

theorem groupRanks_eq (hand : List Card) :
    groupRanks (heights hand) = groupsOf (heights hand) (rankedHeights hand) := by
  obtain ⟨keys, hnodup, hmem, hfold⟩ := foldl_countRank (heights hand) [] List.nodup_nil
    fun value => Iff.rfl
  have hperm : keys.Perm (heights hand).dedup :=
    (List.perm_ext_iff_of_nodup hnodup (List.nodup_dedup _)).mpr fun value => by
      rw [hmem, List.nil_append, List.mem_dedup]
  have hsorted : rankedHeights hand = keys.insertionSort (Outranks (heights hand)) :=
    Sorting.insertionSort_eq_of_perm (outranks_total _) (outranks_trans _)
      (fun _ _ _ _ => outranks_antisymm) hperm.symm
  calc groupRanks (heights hand)
      = (groupsOf (heights hand) keys).insertionSort fun left right =>
          right.2 < left.2 ∨ (left.2 = right.2 ∧ right.1 ≤ left.1) := by
        rw [groupRanks, ← List.nil_append (heights hand), ← hfold]
        rfl
    _ = groupsOf (heights hand) (keys.insertionSort (Outranks (heights hand))) := by
        refine (List.map_insertionSort (Outranks (heights hand)) (fun left right : Nat × Nat =>
          right.2 < left.2 ∨ (left.2 = right.2 ∧ right.1 ≤ left.1)) _ _ fun left _ right _ => ?_).symm
        exact Iff.rfl
    _ = groupsOf (heights hand) (rankedHeights hand) := by rw [hsorted]

/-- How often the heights of five cards can occur. -/
inductive Shape (hand : List Card) : Prop
  | quads (a b : Nat) (ranked : rankedHeights hand = [a, b])
      (count_a : (heights hand).count a = 4) (count_b : (heights hand).count b = 1)
  | full (a b : Nat) (ranked : rankedHeights hand = [a, b])
      (count_a : (heights hand).count a = 3) (count_b : (heights hand).count b = 2)
  | trips (a b c : Nat) (ranked : rankedHeights hand = [a, b, c])
      (count_a : (heights hand).count a = 3) (count_b : (heights hand).count b = 1)
      (count_c : (heights hand).count c = 1) (descends : c ≤ b)
  | pairs (a b c : Nat) (ranked : rankedHeights hand = [a, b, c])
      (count_a : (heights hand).count a = 2) (count_b : (heights hand).count b = 2)
      (count_c : (heights hand).count c = 1) (descends : b ≤ a)
  | pair (a b c d : Nat) (ranked : rankedHeights hand = [a, b, c, d])
      (count_a : (heights hand).count a = 2) (count_b : (heights hand).count b = 1)
      (count_c : (heights hand).count c = 1) (count_d : (heights hand).count d = 1)
      (descends : [b, c, d].Pairwise (· ≥ ·))
  | distinct (nodup : (heights hand).Nodup)

theorem FiveCards.shape (h : FiveCards hand) : Shape hand := by
  have hsum := h.sum_counts
  have hsorted := rankedHeights_pairwise hand
  have hpos : ∀ height ∈ rankedHeights hand, 1 ≤ (heights hand).count height :=
    fun height hheight => List.count_pos_iff.mpr (mem_rankedHeights.mp hheight)
  have hmem : ∀ height, height ∈ heights hand → height ∈ rankedHeights hand :=
    fun height => mem_rankedHeights.mpr
  generalize hranked : rankedHeights hand = ranked at hsum hsorted hpos hmem
  unfold Outranks at hsorted
  match ranked with
  | [] => cases hsum
  | [a] =>
      have := h.count_le a
      simp only [List.map_cons, List.map_nil, List.sum_cons, List.sum_nil] at hsum
      omega
  | [a, b] =>
      have := h.count_le a
      simp only [List.map_cons, List.map_nil, List.sum_cons, List.sum_nil, List.pairwise_cons,
        List.forall_mem_cons] at hsum hsorted hpos
      by_cases hfour : (heights hand).count a = 4
      · exact .quads a b hranked hfour (by omega)
      · exact .full a b hranked (by omega) (by omega)
  | [a, b, c] =>
      simp only [List.map_cons, List.map_nil, List.sum_cons, List.sum_nil, List.pairwise_cons,
        List.forall_mem_cons] at hsum hsorted hpos
      by_cases hthree : (heights hand).count a = 3
      · exact .trips a b c hranked hthree (by omega) (by omega) (by omega)
      · exact .pairs a b c hranked (by omega) (by omega) (by omega) (by omega)
  | [a, b, c, d] =>
      simp only [List.map_cons, List.map_nil, List.sum_cons, List.sum_nil, List.pairwise_cons,
        List.forall_mem_cons] at hsum hsorted hpos
      refine .pair a b c d hranked (by omega) (by omega) (by omega) (by omega) ?_
      simp only [List.pairwise_cons, List.forall_mem_cons, List.not_mem_nil, false_implies,
        implies_true, and_true, List.Pairwise.nil]
      omega
  | a :: b :: c :: d :: e :: rest =>
      have hfirst := (List.pairwise_cons.mp hsorted).1
      simp only [List.map_cons, List.sum_cons, List.forall_mem_cons] at hsum hpos
      have hone : (heights hand).count a ≤ 1 := by omega
      refine .distinct (List.nodup_iff_count_le_one.mpr fun height => ?_)
      by_cases hheight : height ∈ heights hand
      · rcases List.mem_cons.mp (hmem height hheight) with rfl | hlater
        · exact hone
        · have := hfirst height hlater
          omega
      · rw [List.count_eq_zero.mpr hheight]
        omega

/-! ## Straights -/

theorem sortDescending_perm (values : List Nat) : (sortDescending values).Perm values :=
  List.perm_insertionSort _ _

theorem sortDescending_pairwise (values : List Nat) :
    (sortDescending values).Pairwise (· ≥ ·) :=
  Sorting.pairwise_insertionSort (fun a b => le_total b a) (fun _ _ _ h h' => h'.trans h) _

theorem sortDescending_eq_self {values : List Nat} (h : values.Pairwise (· ≥ ·)) :
    sortDescending values = values :=
  h.insertionSort_eq

theorem sortDescending_eq_of_perm {left right : List Nat} (h : left.Perm right) :
    sortDescending left = sortDescending right :=
  Sorting.insertionSort_eq_of_perm (fun a b => le_total b a) (fun _ _ _ h h' => h'.trans h)
    (fun _ _ _ _ h h' => le_antisymm h' h) h

theorem perm_iff_sortDescending {values sorted : List Nat} (h : sorted.Pairwise (· ≥ ·)) :
    values.Perm sorted ↔ sortDescending values = sorted :=
  ⟨fun hperm => (sortDescending_eq_of_perm hperm).trans (sortDescending_eq_self h),
    fun heq => heq ▸ (sortDescending_perm values).symm⟩

theorem run_pairwise (high : Nat) : (run high).Pairwise (· ≥ ·) := by
  simp only [run, List.pairwise_cons, List.forall_mem_cons, List.not_mem_nil, false_implies,
    implies_true, and_true, List.Pairwise.nil]
  omega

theorem straightTo_iff {high : Nat} :
    StraightTo hand high ↔ sortDescending (heights hand) = run high ∨
      (high = 5 ∧ sortDescending (heights hand) = wheel) := by
  unfold StraightTo
  rw [perm_iff_sortDescending (run_pairwise high), perm_iff_sortDescending (by decide)]

theorem StraightTo.bounds {high : Nat} (h : StraightTo hand high) :
    5 ≤ high ∧ high ≤ 14 := by
  rcases h with hrun | ⟨rfl, -⟩
  · have htop := heights_bounds (hrun.mem_iff.mpr (List.mem_cons_self))
    have hlast : high - 4 ∈ heights hand := hrun.mem_iff.mpr (by simp [run])
    have := heights_bounds hlast
    omega
  · exact ⟨le_rfl, by decide⟩

theorem StraightTo.unique {high other : Nat} (h : StraightTo hand high)
    (h' : StraightTo hand other) : high = other := by
  have hbounds := h.bounds
  have hbounds' := h'.bounds
  rw [straightTo_iff] at h h'
  rcases h with hrun | ⟨rfl, hwheel⟩ <;> rcases h' with hrun' | ⟨rfl, hwheel'⟩
  · rw [hrun] at hrun'
    exact (List.cons.inj hrun').1
  · rw [hrun] at hwheel'
    simp only [run, wheel, List.cons.injEq] at hwheel'
    omega
  · rw [hwheel] at hrun'
    simp only [run, wheel, List.cons.injEq] at hrun'
    omega
  · rfl

theorem straightHigh_eq_some {high : Nat} : straightHigh hand = some high ↔ StraightTo hand high := by
  refine ⟨fun h => by simpa using List.find?_some h, fun h => ?_⟩
  have hmem : high ∈ List.range 15 := List.mem_range.mpr (Nat.lt_succ_iff.mpr h.bounds.2)
  cases hfound : straightHigh hand with
  | none =>
      have hnone := List.find?_eq_none.mp hfound high hmem
      exact absurd h (by simpa using hnone)
  | some other =>
      have hother : StraightTo hand other := by simpa using List.find?_some hfound
      rw [hother.unique h]

theorem StraightTo.nodup {high : Nat} (h : StraightTo hand high) : (heights hand).Nodup := by
  have hbounds := h.bounds
  rcases h with hrun | ⟨-, hwheel⟩
  · refine hrun.nodup_iff.mpr ?_
    simp only [run, List.nodup_cons, List.mem_cons, List.not_mem_nil, not_or, not_false_eq_true,
      List.nodup_nil, and_true, or_false]
    omega
  · exact hwheel.nodup_iff.mpr (by decide)

theorem isRunDownward_iff {a b c d e : Nat} :
    isRunDownward [a, b, c, d, e] = true ↔ [a, b, c, d, e] = run a ∧ 4 ≤ a := by
  simp only [isRunDownward, run, Bool.and_eq_true, beq_iff_eq, List.cons.injEq, and_true, true_and]
  omega

theorem exists_five {α : Type*} : ∀ {l : List α}, l.length = 5 → ∃ a b c d e, l = [a, b, c, d, e]
  | [a, b, c, d, e], _ => ⟨a, b, c, d, e, rfl⟩

theorem FiveCards.resolveStraightHighCard_eq (h : FiveCards hand) :
    resolveStraightHighCard (sortDescending (heights hand)) = straightHigh hand := by
  have hperm := sortDescending_perm (heights hand)
  have hlength : (sortDescending (heights hand)).length = 5 := by
    rw [hperm.length_eq, heights, List.length_map, h.length]
  unfold resolveStraightHighCard
  by_cases hnodup : (heights hand).Nodup
  · rw [(hperm.nodup_iff.mpr hnodup).dedup, sortDescending_eq_self (sortDescending_pairwise _)]
    simp only [hlength, ne_eq, not_true_eq_false, if_false]
    by_cases hwheel : sortDescending (heights hand) = [14, 5, 4, 3, 2]
    · rw [if_pos hwheel]
      exact (straightHigh_eq_some.mpr (straightTo_iff.mpr (.inr ⟨rfl, hwheel⟩))).symm
    · rw [if_neg hwheel]
      obtain ⟨a, b, c, d, e, hsorted⟩ := exists_five hlength
      rw [hsorted]
      by_cases hrun : isRunDownward [a, b, c, d, e] = true
      · rw [if_pos hrun]
        have hstraight : StraightTo hand a :=
          straightTo_iff.mpr (.inl (hsorted.trans (isRunDownward_iff.mp hrun).1))
        exact (straightHigh_eq_some.mpr hstraight).symm
      · rw [if_neg hrun]
        refine (Option.eq_none_iff_forall_ne_some.mpr fun high hhigh => ?_).symm
        have hstraight := straightHigh_eq_some.mp hhigh
        have hbounds := hstraight.bounds
        rcases straightTo_iff.mp hstraight with hto | ⟨-, hto⟩
        · have htop : a = high := (List.cons.inj (hsorted.symm.trans hto)).1
          refine hrun (isRunDownward_iff.mpr ⟨?_, by omega⟩)
          rw [htop, ← hto, hsorted, htop]
        · exact hwheel hto
  · have hshort : (sortDescending (sortDescending (heights hand)).dedup).length ≠ 5 := by
      rw [(sortDescending_perm _).length_eq]
      intro hfive
      have hdedup := (List.dedup_sublist _).eq_of_length (hfive.trans hlength.symm)
      exact hnodup (hperm.nodup_iff.mp (hdedup ▸ List.nodup_dedup _))
    rw [if_pos hshort]
    refine (Option.eq_none_iff_forall_ne_some.mpr fun high hhigh => ?_).symm
    exact hnodup (straightHigh_eq_some.mp hhigh).nodup

/-! ## The evaluation of five cards -/

theorem isFlush_eq (hand : List Card) :
    (hand.all fun card => some card.suit = hand.head?.map Card.suit) = decide (SameSuit hand) := by
  rw [Bool.eq_iff_iff, List.all_eq_true, decide_eq_true_iff]
  cases hand with
  | nil => simp [SameSuit]
  | cons first rest =>
      simp only [List.head?_cons, Option.map_some, Option.some.injEq, decide_eq_true_eq]
      refine ⟨fun h left hleft right hright => (h left hleft).trans (h right hright).symm,
        fun h card hcard => h card hcard first List.mem_cons_self⟩

theorem SameSuit.nodup (h : SameSuit hand) (hcards : FiveCards hand) : (heights hand).Nodup := by
  refine hcards.nodup.map_on fun left hleft right hright hheight => ?_
  have hsuit := h left hleft right hright
  have hrank := rankValueMap_injective hheight
  cases left
  cases right
  simp_all

theorem ranksOccurring_groups (count : Nat) (hand : List Card) :
    ranksOccurring count (groupsOf (heights hand) (rankedHeights hand)) = ofAKind count hand := by
  unfold ranksOccurring groupsOf ofAKind
  rw [List.filter_map, List.map_map]
  exact List.map_id' _

/-- The kickers of the evaluation: a straight has its highest card only. -/
def kickersOf (hand : List Card) : List Nat :=
  match straightHigh hand with
  | some high => [high]
  | none => rankedHeights hand

theorem FiveCards.repeated (h : FiveCards hand) (height : Nat)
    (hcount : 2 ≤ (heights hand).count height) : ¬SameSuit hand ∧ straightHigh hand = none := by
  have hdup : ¬(heights hand).Nodup := fun hnodup => by
    have := List.nodup_iff_count_le_one.mp hnodup height
    omega
  refine ⟨fun hsame => hdup (hsame.nodup h), ?_⟩
  exact Option.eq_none_iff_forall_ne_some.mpr fun high hhigh =>
    hdup (straightHigh_eq_some.mp hhigh).nodup

theorem rankedHeights_eq (hnodup : (heights hand).Nodup) :
    rankedHeights hand = sortDescending (heights hand) := by
  have hcount : ∀ height ∈ heights hand, (heights hand).count height = 1 :=
    fun height hheight => List.count_eq_one_of_mem hnodup hheight
  have hfalls : (rankedHeights hand).Pairwise (· ≥ ·) := by
    refine (rankedHeights_pairwise hand).imp_of_mem fun {left right} hleft hright h => ?_
    rw [Outranks, hcount left (mem_rankedHeights.mp hleft),
      hcount right (mem_rankedHeights.mp hright)] at h
    omega
  have hperm : (heights hand).Perm (rankedHeights hand) := by
    have := rankedHeights_perm hand
    rw [hnodup.dedup] at this
    exact this.symm
  exact ((perm_iff_sortDescending hfalls).mp hperm).symm

/-- The evaluation names the category of the ranking, and its strength lists the heights in the
order of the ranking. -/
theorem FiveCards.evaluateFiveCardHand_eq (h : FiveCards hand) :
    evaluateFiveCardHand hand = buildEvaluation (standardCategory hand) hand (kickersOf hand) := by
  unfold evaluateFiveCardHand
  rw [isFlush_eq]
  simp only [show (hand.map fun card => rankValueMap card.rank) = heights hand from rfl]
  rw [h.resolveStraightHighCard_eq, groupRanks_eq]
  simp only [ranksOccurring_groups]
  cases h.shape with
  | quads a b hranked ha hb =>
      obtain ⟨hsuit, hstraight⟩ := h.repeated a (by omega)
      simp [standardCategory, kickersOf, ofAKind, groupsOf, hranked, ha, hb, hsuit, hstraight]
  | full a b hranked ha hb =>
      obtain ⟨hsuit, hstraight⟩ := h.repeated a (by omega)
      simp [standardCategory, kickersOf, ofAKind, groupsOf, hranked, ha, hb, hsuit, hstraight]
  | trips a b c hranked ha hb hc hdescends =>
      obtain ⟨hsuit, hstraight⟩ := h.repeated a (by omega)
      have hkickers : sortDescending [b, c] = [b, c] :=
        sortDescending_eq_self (by simpa using hdescends)
      simp [standardCategory, kickersOf, ofAKind, groupsOf, hranked, ha, hb, hc, hsuit, hstraight,
        hkickers]
  | pairs a b c hranked ha hb hc hdescends =>
      obtain ⟨hsuit, hstraight⟩ := h.repeated a (by omega)
      have hpairs : sortDescending [a, b] = [a, b] :=
        sortDescending_eq_self (by simpa using hdescends)
      simp [standardCategory, kickersOf, ofAKind, groupsOf, hranked, ha, hb, hc, hsuit, hstraight,
        hpairs]
  | pair a b c d hranked ha hb hc hd hdescends =>
      obtain ⟨hsuit, hstraight⟩ := h.repeated a (by omega)
      have hkickers : sortDescending [b, c, d] = [b, c, d] := sortDescending_eq_self hdescends
      simp [standardCategory, kickersOf, ofAKind, groupsOf, hranked, ha, hb, hc, hd, hsuit,
        hstraight, hkickers]
  | distinct hnodup =>
      have hranked := rankedHeights_eq hnodup
      have hlength : (rankedHeights hand).length = 5 := by
        rw [hranked, (sortDescending_perm _).length_eq, heights, List.length_map, h.length]
      obtain ⟨a, b, c, d, e, hfive⟩ := exists_five hlength
      have hcount : ∀ height ∈ rankedHeights hand, (heights hand).count height = 1 :=
        fun height hheight => List.count_eq_one_of_mem hnodup (mem_rankedHeights.mp hheight)
      rw [hfive] at hcount hranked
      simp only [List.forall_mem_cons] at hcount
      obtain ⟨ha, hb, hc, hd, he, -⟩ := hcount
      rw [← hranked]
      by_cases hsuit : SameSuit hand <;> cases hstraight : straightHigh hand <;>
        simp [standardCategory, kickersOf, ofAKind, groupsOf, hfive, ha, hb, hc, hd, he, hsuit,
          hstraight]

end RewardSystem.Holdem
