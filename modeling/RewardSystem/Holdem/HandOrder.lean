import RewardSystem.Holdem.HandRanking

/-!
# The evaluation follows the ranking of poker hands

Strengths compare as the places of the hands in the standard ranking do, and the evaluation of a
player's cards is that of the best five.
-/

namespace RewardSystem.Holdem

variable {hand left right : List Card}

/-! ## Comparing strengths -/

theorem comparePlaces_cons (a b : Nat) (left right : List Nat) (count index : Nat) :
    comparePlaces (a :: left) (b :: right) count (index + 1) =
      comparePlaces left right count index := by
  induction count generalizing index with
  | zero => rfl
  | succ count ih => simp only [comparePlaces, List.getElem?_cons_succ, ih]

theorem compareStrength_cons (a b : Nat) (left right : List Nat) :
    compareStrength (a :: left) (b :: right) =
      if a = b then compareStrength left right else if a > b then .gt else .lt := by
  have hlength : max (a :: left).length (b :: right).length =
      max left.length right.length + 1 := by
    rw [List.length_cons, List.length_cons, Nat.add_max_add_right]
  unfold compareStrength
  rw [hlength, comparePlaces, comparePlaces_cons]
  rfl

theorem compares_cons (a : Nat) {left right : List Nat} {o : Ordering}
    (h : o.Compares left right) : o.Compares (a :: left) (a :: right) := by
  cases o with
  | lt => exact List.Lex.cons h
  | eq => exact congrArg (a :: ·) h
  | gt => exact List.Lex.cons h

theorem compareStrength_compares_list {left right : List Nat} (hleft : ∀ value ∈ left, 0 < value)
    (hright : ∀ value ∈ right, 0 < value) : (compareStrength left right).Compares left right := by
  induction left generalizing right with
  | nil =>
      cases right with
      | nil => rfl
      | cons b right =>
          have hb := hright b List.mem_cons_self
          have hlt : compareStrength [] (b :: right) = .lt := by
            unfold compareStrength
            simp [comparePlaces, hb.ne, hb.not_gt]
          rw [hlt]
          exact List.nil_lt_cons b right
  | cons a left ih =>
      cases right with
      | nil =>
          have ha := hleft a List.mem_cons_self
          have hgt : compareStrength (a :: left) [] = .gt := by
            unfold compareStrength
            simp [comparePlaces, ha.ne', ha]
          rw [hgt]
          exact List.nil_lt_cons a left
      | cons b right =>
          rw [compareStrength_cons]
          rcases lt_trichotomy a b with hlt | rfl | hgt
          · rw [if_neg hlt.ne, if_neg hlt.not_gt]
            exact List.Lex.rel hlt
          · rw [if_pos rfl]
            have hrest := ih (fun value h => hleft value (List.mem_cons_of_mem _ h))
              (fun value h => hright value (List.mem_cons_of_mem _ h))
            exact compares_cons a hrest
          · rw [if_neg hgt.ne', if_pos hgt]
            exact List.Lex.rel hgt

/-! ## The strength of five cards -/

theorem categoryStrength_eq (category : HandCategory) :
    categoryStrength category = standardOrder.idxOf category := by
  cases category <;> rfl

theorem standardOrder_injective : Function.Injective fun category => standardOrder.idxOf category := by
  intro left right h
  have hmem : left ∈ standardOrder := by cases left <;> decide
  exact (List.idxOf_inj hmem).mp h

theorem straightHigh_isSome_iff (hand : List Card) :
    (straightHigh hand).isSome ↔
      standardCategory hand = .straightFlush ∨ standardCategory hand = .straight := by
  cases hstraight : straightHigh hand with
  | none =>
      simp only [standardCategory, hstraight, Option.isSome_none, Bool.false_eq_true, and_false,
        if_false]
      split_ifs <;> simp
  | some high =>
      have hnodup := (straightHigh_eq_some.mp hstraight).nodup
      have hnone : ∀ count, 2 ≤ count → ofAKind count hand = [] := fun count hcount =>
        List.filter_eq_nil_iff.mpr fun height hheight => by
          have := List.count_eq_one_of_mem hnodup (mem_rankedHeights.mp hheight)
          simp only [decide_eq_true_eq]
          omega
      by_cases hsuit : SameSuit hand <;>
        simp [standardCategory, hstraight, hsuit, hnone 4, hnone 3]

theorem kickers_compare
    (hcategory : standardCategory left = standardCategory right) :
    (compareStrength (kickersOf left) (kickersOf right)).Compares (standardHeights left)
      (standardHeights right) := by
  have hsame : (straightHigh left).isSome ↔ (straightHigh right).isSome := by
    rw [straightHigh_isSome_iff, straightHigh_isSome_iff, hcategory]
  have hpos : ∀ hand, ∀ height ∈ rankedHeights hand, 0 < height := fun hand height hheight => by
    have := heights_bounds (mem_rankedHeights.mp hheight)
    omega
  unfold kickersOf standardHeights
  cases hl : straightHigh left with
  | none =>
      cases hr : straightHigh right with
      | none => exact compareStrength_compares_list (hpos left) (hpos right)
      | some high => simp [hl, hr] at hsame
  | some high =>
      cases hr : straightHigh right with
      | none => simp [hl, hr] at hsame
      | some other =>
          simp only [compareStrength_cons]
          rcases lt_trichotomy high other with hlt | rfl | hgt
          · rw [if_neg hlt.ne, if_neg hlt.not_gt]
            exact List.Lex.rel hlt
          · rw [if_pos rfl]
            rfl
          · rw [if_neg hgt.ne', if_pos hgt]
            exact List.Lex.rel hgt

theorem strength_compares (hleft : FiveCards left) (hright : FiveCards right) :
    (compareStrength (evaluateFiveCardHand left).strength
      (evaluateFiveCardHand right).strength).Compares (standardRank left) (standardRank right) := by
  rw [hleft.evaluateFiveCardHand_eq, hright.evaluateFiveCardHand_eq]
  simp only [buildEvaluation, compareStrength_cons, categoryStrength_eq, standardRank]
  rcases lt_trichotomy (standardOrder.idxOf (standardCategory left))
    (standardOrder.idxOf (standardCategory right)) with hlt | heq | hgt
  · rw [if_neg hlt.ne, if_neg hlt.not_gt]
    exact List.Lex.rel hlt
  · rw [if_pos heq, heq]
    exact compares_cons _ (kickers_compare (standardOrder_injective heq))
  · rw [if_neg hgt.ne', if_pos hgt]
    exact List.Lex.rel hgt

theorem kickers_eq_of_standardRank_eq (heq : standardRank left = standardRank right) :
    standardCategory left = standardCategory right ∧ kickersOf left = kickersOf right := by
  obtain ⟨hindex, hheights⟩ := List.cons.inj heq
  have hcategory := standardOrder_injective hindex
  have hsame : (straightHigh left).isSome ↔ (straightHigh right).isSome := by
    rw [straightHigh_isSome_iff, straightHigh_isSome_iff, hcategory]
  refine ⟨hcategory, ?_⟩
  unfold kickersOf
  unfold standardHeights at hheights
  cases hl : straightHigh left with
  | none =>
      cases hr : straightHigh right with
      | none => simpa only [hl, hr] using hheights
      | some high => simp [hl, hr] at hsame
  | some high =>
      cases hr : straightHigh right with
      | none => simp [hl, hr] at hsame
      | some other =>
          simp only [hl, hr] at hheights
          rw [(List.cons.inj hheights).1]

/-! ## The order of the cards -/

theorem standardRank_eq_of_perm (hperm : left.Perm right) :
    standardRank left = standardRank right := by
  have hheights : (heights left).Perm (heights right) := hperm.map _
  have hcount : ∀ height, (heights left).count height = (heights right).count height :=
    fun height => hheights.count_eq height
  have hranked : rankedHeights left = rankedHeights right := by
    have houtranks : Outranks (heights left) = Outranks (heights right) := by
      funext a b
      simp only [Outranks, hcount]
    unfold rankedHeights
    simp only [houtranks]
    exact Sorting.insertionSort_eq_of_perm (outranks_total _) (outranks_trans _)
      (fun _ _ _ _ => outranks_antisymm) hheights.dedup
  have hsuit : SameSuit left ↔ SameSuit right := by
    unfold SameSuit
    simp only [hperm.mem_iff]
  have hstraight : straightHigh left = straightHigh right := by
    refine Option.ext fun high => ?_
    rw [straightHigh_eq_some, straightHigh_eq_some]
    unfold StraightTo
    rw [hheights.congr_left, hheights.congr_left]
  have hkind : ∀ count, ofAKind count left = ofAKind count right := fun count => by
    simp only [ofAKind, hranked, hcount]
  unfold standardRank standardCategory standardHeights
  simp only [hsuit, hstraight, hkind, hranked]

/-! ## The best hand -/

/-- `best` is the evaluation of a strongest choice of five of the cards. -/
structure Strongest (cards : List Card) (best : BestHandEvaluation) : Prop where
  attained : ∃ hand, hand.Sublist cards ∧ hand.length = 5 ∧ best = evaluateFiveCardHand hand
  maximal : ∀ hand, hand.Sublist cards → hand.length = 5 →
    compareStrength (evaluateFiveCardHand hand).strength best.strength ≠ .gt

/-- The two evaluations say the same, though perhaps of other cards. -/
structure SameVerdict (left right : BestHandEvaluation) : Prop where
  category : left.hand.category = right.hand.category
  label : left.hand.label = right.hand.label
  strength : left.strength = right.strength

/-- Up to the order of the cards, a choice from the cards in one order is one from them in
another. -/
theorem standardRank_le_of_strongest {cards shuffled : List Card} (hnodup : cards.Nodup)
    (hperm : shuffled.Perm cards) (hsub : left.Sublist cards) (hleft : left.length = 5)
    (hright : right.Sublist shuffled) (hlength : right.length = 5)
    (htop : ∀ hand, hand.Sublist cards → hand.length = 5 →
      padded (evaluateFiveCardHand hand).strength ≤ padded (evaluateFiveCardHand left).strength) :
    standardRank right ≤ standardRank left := by
  obtain ⟨hand, hhand, hand_sub⟩ : right.Subperm cards := hright.subperm.trans hperm.subperm
  have hfive : FiveCards hand :=
    ⟨hhand.length_eq.trans hlength, hand_sub.nodup hnodup⟩
  have hbest := htop hand hand_sub hfive.length
  have hcompares := strength_compares hfive ⟨hleft, hsub.nodup hnodup⟩
  rw [← standardRank_eq_of_perm hhand]
  exact hcompares.ne_gt.mp (compareStrength_ne_gt.mpr hbest)

/-- The evaluation is that of a strongest choice of five, whatever the order of the cards, and
strengths compare as the standard ranking does. -/
theorem evaluateBestHoldemHand_poker {cards shuffled middle : List Card} (hcards : 5 ≤ cards.length)
    (hnodup : cards.Nodup) (hperm : shuffled.Perm cards) (hleft : FiveCards left)
    (hmiddle : FiveCards middle) (hright : FiveCards right) :
    (∃ best same, evaluateBestHoldemHand cards = .ok best ∧ Strongest cards best ∧
      evaluateBestHoldemHand shuffled = .ok same ∧ SameVerdict same best) ∧
    (compareStrength (evaluateFiveCardHand left).strength
      (evaluateFiveCardHand right).strength).Compares (standardRank left) (standardRank right) ∧
    (compareHoldemBestHands (evaluateFiveCardHand left) (evaluateFiveCardHand right) ≠ .gt ∨
      compareHoldemBestHands (evaluateFiveCardHand right) (evaluateFiveCardHand left) ≠ .gt) ∧
    (compareHoldemBestHands (evaluateFiveCardHand left) (evaluateFiveCardHand middle) ≠ .gt →
      compareHoldemBestHands (evaluateFiveCardHand middle) (evaluateFiveCardHand right) ≠ .gt →
      compareHoldemBestHands (evaluateFiveCardHand left) (evaluateFiveCardHand right) ≠ .gt) ∧
    (compareHoldemBestHands (evaluateFiveCardHand left) (evaluateFiveCardHand right) = .eq ↔
      standardRank left = standardRank right) := by
  refine ⟨?_, strength_compares hleft hright, ?_, fun h h' => ?_,
    (strength_compares hleft hright).eq_eq⟩
  · obtain ⟨best, hbest, hfive, hok, htop⟩ := evaluateBestHoldemHand_eq hcards
    obtain ⟨same, hsame, hfive', hok', htop'⟩ := evaluateBestHoldemHand_eq
      (hperm.length_eq ▸ hcards)
    have hbestFive : FiveCards best := ⟨hfive, hbest.nodup hnodup⟩
    have hsameFive : FiveCards same := ⟨hfive', hsame.nodup (hperm.nodup_iff.mpr hnodup)⟩
    have hrank : standardRank same = standardRank best :=
      le_antisymm (standardRank_le_of_strongest hnodup hperm hbest hfive hsame hfive' htop)
        (standardRank_le_of_strongest (hperm.nodup_iff.mpr hnodup) hperm.symm hsame hfive' hbest
          hfive htop')
    obtain ⟨hcategory, hkickers⟩ := kickers_eq_of_standardRank_eq hrank
    refine ⟨_, _, hok, ⟨⟨best, hbest, hfive, rfl⟩, fun hand hhand hlength => ?_⟩, hok', ?_⟩
    · exact compareStrength_ne_gt.mpr (htop hand hhand hlength)
    · rw [hbestFive.evaluateFiveCardHand_eq, hsameFive.evaluateFiveCardHand_eq]
      constructor <;> simp only [buildEvaluation, hcategory, hkickers]
  · exact (strength_compares hleft hright).le_total.imp
      (strength_compares hleft hright).ne_gt.mpr (strength_compares hright hleft).ne_gt.mpr
  · have hless := (strength_compares hleft hmiddle).ne_gt.mp h
    have hmore := (strength_compares hmiddle hright).ne_gt.mp h'
    exact (strength_compares hleft hright).ne_gt.mpr (hless.trans hmore)

def sampleWheel : List Card :=
  [⟨.ace, .spades⟩, ⟨.two, .hearts⟩, ⟨.three, .clubs⟩, ⟨.four, .spades⟩, ⟨.five, .hearts⟩]

def sampleStraight : List Card :=
  [⟨.six, .spades⟩, ⟨.two, .hearts⟩, ⟨.three, .clubs⟩, ⟨.four, .spades⟩, ⟨.five, .hearts⟩]

def sampleFlush : List Card :=
  [⟨.ace, .hearts⟩, ⟨.two, .hearts⟩, ⟨.jack, .hearts⟩, ⟨.four, .hearts⟩, ⟨.five, .hearts⟩]

theorem evaluateBestHoldemHand_poker_sample :
    ∃ best same, evaluateBestHoldemHand (sampleWheel ++ [⟨.six, .clubs⟩, ⟨.ace, .hearts⟩]) = .ok best ∧
      Strongest (sampleWheel ++ [⟨.six, .clubs⟩, ⟨.ace, .hearts⟩]) best ∧
      evaluateBestHoldemHand ([⟨.six, .clubs⟩, ⟨.ace, .hearts⟩] ++ sampleWheel) = .ok same ∧
      SameVerdict same best :=
  have hwheel : FiveCards sampleWheel := ⟨rfl, by decide⟩
  have hstraight : FiveCards sampleStraight := ⟨rfl, by decide⟩
  have hflush : FiveCards sampleFlush := ⟨rfl, by decide⟩
  (evaluateBestHoldemHand_poker (by decide) (by decide) List.perm_append_comm hwheel hstraight
    hflush).1

/-- The cards of the evaluation come in the order they were given in. -/
theorem evaluation_lists_cards_in_order :
    ∃ cards shuffled best same, FiveCards cards ∧ shuffled.Perm cards ∧
      evaluateBestHoldemHand cards = .ok best ∧ evaluateBestHoldemHand shuffled = .ok same ∧
      best ≠ same :=
  ⟨sampleWheel, sampleWheel.reverse, _, _, ⟨rfl, by decide⟩, List.reverse_perm _, rfl, rfl,
    by decide +kernel⟩

end RewardSystem.Holdem
