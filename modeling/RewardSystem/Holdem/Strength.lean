import Mathlib.Order.Compare
import Mathlib.Order.PiLex
import RewardSystem.Holdem.Evaluator

/-!
# The order of the strengths

Two strengths are compared place by place, and a place that a strength does not have counts as zero.
So a strength stands for the sequence that goes on with zeros, and the comparison is the
lexicographic order of these sequences.
-/

namespace RewardSystem.Holdem

/-- A strength, continued with zeros. -/
def padded (strength : List Nat) : Lex (Nat → Nat) :=
  toLex fun index => strength[index]?.getD 0

theorem comparePlaces_compares (left right : List Nat) {count index : Nat}
    (hbefore : ∀ place < index, left[place]?.getD 0 = right[place]?.getD 0)
    (hleft : left.length ≤ index + count) (hright : right.length ≤ index + count) :
    (comparePlaces left right count index).Compares (padded left) (padded right) := by
  induction count generalizing index with
  | zero =>
      refine congrArg toLex (funext fun place => ?_)
      rcases lt_or_ge place index with hlt | hge
      · exact hbefore place hlt
      · rw [List.getElem?_eq_none (by omega), List.getElem?_eq_none (by omega)]
  | succ count ih =>
      rw [comparePlaces]
      rcases lt_trichotomy (left[index]?.getD 0) (right[index]?.getD 0) with hlt | heq | hgt
      · rw [if_neg hlt.ne, if_neg hlt.not_gt]
        exact ⟨index, hbefore, hlt⟩
      · rw [if_pos heq]
        refine ih (fun place hplace => ?_) (by omega) (by omega)
        rcases (Nat.lt_succ_iff.mp hplace).lt_or_eq with hlt | rfl
        · exact hbefore place hlt
        · exact heq
      · rw [if_neg hgt.ne', if_pos hgt]
        exact ⟨index, fun place hplace => (hbefore place hplace).symm, hgt⟩

theorem compareStrength_compares (left right : List Nat) :
    (compareStrength left right).Compares (padded left) (padded right) :=
  comparePlaces_compares left right (fun _ h => absurd h (Nat.not_lt_zero _))
    (by rw [Nat.zero_add]; exact le_max_left _ _) (by rw [Nat.zero_add]; exact le_max_right _ _)

theorem compareStrength_ne_gt {left right : List Nat} :
    compareStrength left right ≠ .gt ↔ padded left ≤ padded right :=
  (compareStrength_compares left right).ne_gt

/-! ## The best of several -/

theorem foldl_best (hands : List (List Card)) (first : List Card) :
    ∃ best ∈ first :: hands,
      hands.foldl (fun best combination =>
          let next := evaluateFiveCardHand combination
          if compareHoldemBestHands next best = .gt then next else best)
        (evaluateFiveCardHand first) = evaluateFiveCardHand best ∧
      ∀ hand ∈ first :: hands,
        padded (evaluateFiveCardHand hand).strength ≤ padded (evaluateFiveCardHand best).strength := by
  induction hands generalizing first with
  | nil => exact ⟨first, List.mem_singleton_self _, rfl, by simp⟩
  | cons hand hands ih =>
      have hcompares := compareStrength_compares (evaluateFiveCardHand hand).strength
        (evaluateFiveCardHand first).strength
      simp only [List.foldl_cons]
      by_cases hgt : compareHoldemBestHands (evaluateFiveCardHand hand)
          (evaluateFiveCardHand first) = .gt
      · obtain ⟨best, hbest, hfold, htop⟩ := ih hand
        have hless := (hcompares.eq_gt.mp hgt).le
        refine ⟨best, List.mem_cons_of_mem _ hbest, by rw [if_pos hgt]; exact hfold, ?_⟩
        rintro other (_ | ⟨_, hother⟩)
        · exact hless.trans (htop hand (List.mem_cons_self ..))
        · exact htop other hother
      · obtain ⟨best, hbest, hfold, htop⟩ := ih first
        have hless := hcompares.ne_gt.mp hgt
        refine ⟨best, ?_, by rw [if_neg hgt]; exact hfold, ?_⟩
        · rcases List.mem_cons.mp hbest with rfl | hbest
          · exact List.mem_cons_self ..
          · exact List.mem_cons_of_mem _ (List.mem_cons_of_mem _ hbest)
        · rintro other (_ | ⟨_, _ | ⟨_, hother⟩⟩)
          · exact htop first (List.mem_cons_self ..)
          · exact hless.trans (htop first (List.mem_cons_self ..))
          · exact htop other (List.mem_cons_of_mem _ hother)

theorem mem_enumerateCombos {n : Nat} {cards hand : List Card} :
    hand ∈ enumerateCombos n cards ↔ hand.Sublist cards ∧ hand.length = n := by
  induction cards generalizing n hand with
  | nil =>
      cases n with
      | zero => simp [enumerateCombos]
      | succ n =>
          refine ⟨nofun, fun ⟨hsub, hlength⟩ => ?_⟩
          rw [List.sublist_nil.mp hsub] at hlength
          cases hlength
  | cons card rest ih =>
      cases n with
      | zero => simp +contextual [enumerateCombos, List.length_eq_zero_iff]
      | succ n =>
          rw [enumerateCombos, List.mem_append, List.mem_map, ih]
          constructor
          · rintro (⟨tail, htail, rfl⟩ | ⟨hsub, hlength⟩)
            · obtain ⟨hsub, hlength⟩ := ih.mp htail
              exact ⟨hsub.cons_cons card, by rw [List.length_cons, hlength]⟩
            · exact ⟨hsub.cons card, hlength⟩
          · rintro ⟨hsub, hlength⟩
            cases hsub with
            | cons _ hsub => exact .inr ⟨hsub, hlength⟩
            | cons_cons _ hsub =>
                exact .inl ⟨_, ih.mpr ⟨hsub, by simpa using hlength⟩, rfl⟩

theorem evaluateBestHoldemHand_eq {cards : List Card} (hcards : 5 ≤ cards.length) :
    ∃ hand, hand.Sublist cards ∧ hand.length = 5 ∧
      evaluateBestHoldemHand cards = .ok (evaluateFiveCardHand hand) ∧
      ∀ other, other.Sublist cards → other.length = 5 →
        padded (evaluateFiveCardHand other).strength ≤
          padded (evaluateFiveCardHand hand).strength := by
  set combinations := if cards.length = 5 then [cards] else enumerateCombos 5 cards with hdef
  have hmem : ∀ hand, hand ∈ combinations ↔ hand.Sublist cards ∧ hand.length = 5 := by
    intro hand
    by_cases hlength : cards.length = 5
    · rw [hdef, if_pos hlength, List.mem_singleton]
      refine ⟨fun h => by simp [h, hlength], fun ⟨hsub, hfive⟩ => ?_⟩
      exact hsub.eq_of_length (hfive.trans hlength.symm)
    · rw [hdef, if_neg hlength]
      exact mem_enumerateCombos
  obtain ⟨first, rest, hcombinations⟩ : ∃ first rest, combinations = first :: rest :=
    List.exists_cons_of_ne_nil fun hnil => by
      have := (hmem (cards.take 5)).mpr ⟨List.take_sublist .., by simpa using hcards⟩
      rw [hnil] at this
      cases this
  obtain ⟨best, hbest, hfold, htop⟩ := foldl_best rest first
  rw [← hcombinations] at hbest htop
  obtain ⟨hsub, hfive⟩ := (hmem best).mp hbest
  refine ⟨best, hsub, hfive, ?_, fun other hother hlength => htop other ?_⟩
  · unfold evaluateBestHoldemHand
    rw [if_neg (by omega), ← hfold]
    simp only [← hdef, hcombinations, List.headD_cons, List.tail_cons]
  · exact (hmem other).mpr ⟨hother, hlength⟩

end RewardSystem.Holdem
