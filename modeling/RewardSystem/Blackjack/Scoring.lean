import Mathlib.Order.Bounds.Basic
import RewardSystem.Blackjack.Deck

/-!
# What a hand is worth

An ace counts one or eleven. A score starts with every ace as eleven and gives up ten at a time; it
comes to the best of all the ways to count the hand, because the ways with equally many elevens have
equal totals.
-/

namespace RewardSystem.Blackjack

section Counting

def cardValues (card : BlackjackCard) : List Nat :=
  if card.rank = .ace then [1, 11] else [rankValue card.rank]

/-- A way to count the cards, one value for each. -/
def IsCounting (cards : List BlackjackCard) (values : List Nat) : Prop :=
  List.Forall₂ (fun card value => value ∈ cardValues card) cards values

def totals (cards : List BlackjackCard) : Set Nat :=
  { total | ∃ values, IsCounting cards values ∧ values.sum = total }

def fittingTotals (cards : List BlackjackCard) : Set Nat :=
  { total | total ∈ totals cards ∧ total ≤ 21 }

def CountsAceAsEleven (cards : List BlackjackCard) (values : List Nat) : Prop :=
  ∃ (i : Nat) (card : BlackjackCard),
    cards[i]? = some card ∧ card.rank = .ace ∧ values[i]? = some 11

def aceCount (cards : List BlackjackCard) : Nat :=
  (cards.filter fun card => card.rank = .ace).length

variable {card : BlackjackCard} {cards : List BlackjackCard} {values : List Nat} {value : Nat}

theorem aceCount_cons (card : BlackjackCard) (cards : List BlackjackCard) :
    aceCount (card :: cards) = aceCount cards + if card.rank = .ace then 1 else 0 := by
  unfold aceCount
  by_cases hace : card.rank = .ace <;> simp [hace]

theorem rankValue_ne_eleven {rank : Rank} (hace : rank ≠ .ace) : rankValue rank ≠ 11 := by
  cases rank <;> simp [rankValue] at hace ⊢

theorem cardValue_eq (h : value ∈ cardValues card) :
    (value = 11 → card.rank = .ace) ∧ value = hardValue card + if value = 11 then 10 else 0 := by
  unfold cardValues at h
  by_cases hace : card.rank = .ace
  · rw [if_pos hace] at h
    rcases List.mem_pair.mp h with rfl | rfl <;> simp [hardValue, hace]
  · rw [if_neg hace] at h
    obtain rfl := List.mem_singleton.mp h
    simp [hardValue, hace, rankValue_ne_eleven hace]

theorem IsCounting.sum_eq (h : IsCounting cards values) :
    values.sum = hardTotal cards + 10 * values.count 11 ∧ values.count 11 ≤ aceCount cards := by
  induction h with
  | nil => exact ⟨rfl, le_rfl⟩
  | @cons card value cards values hvalue _ ih =>
      obtain ⟨hace, heq⟩ := cardValue_eq hvalue
      obtain ⟨hsum, hcount⟩ := ih
      rw [List.sum_cons, hardTotal_cons, aceCount_cons, List.count_cons, hsum]
      by_cases heleven : value = 11
      · simp only [heleven, if_true, beq_self_eq_true] at heq ⊢
        rw [if_pos (hace heleven)]
        omega
      · simp only [heleven, if_false, beq_iff_eq] at heq ⊢
        omega

theorem exists_counting {elevens : Nat} (h : elevens ≤ aceCount cards) :
    ∃ values, IsCounting cards values ∧ values.count 11 = elevens := by
  induction cards generalizing elevens with
  | nil =>
      obtain rfl : elevens = 0 := Nat.le_zero.mp h
      exact ⟨[], .nil, rfl⟩
  | cons card cards ih =>
      rw [aceCount_cons] at h
      by_cases hace : card.rank = .ace
      · rw [if_pos hace] at h
        have hvalues : cardValues card = [1, 11] := if_pos hace
        cases elevens with
        | zero =>
            obtain ⟨values, hcounting, hcount⟩ := ih (Nat.zero_le _)
            exact ⟨1 :: values, .cons (by simp [hvalues]) hcounting, by simp [hcount]⟩
        | succ elevens =>
            obtain ⟨values, hcounting, hcount⟩ := ih (Nat.le_of_succ_le_succ h)
            exact ⟨11 :: values, .cons (by simp [hvalues]) hcounting, by simp [hcount]⟩
      · rw [if_neg hace, add_zero] at h
        obtain ⟨values, hcounting, hcount⟩ := ih h
        refine ⟨rankValue card.rank :: values, .cons ?_ hcounting, ?_⟩
        · simp [cardValues, hace]
        · simp [hcount, rankValue_ne_eleven hace]

theorem countsAceAsEleven_iff (h : IsCounting cards values) :
    CountsAceAsEleven cards values ↔ 11 ∈ values := by
  constructor
  · rintro ⟨i, card, -, -, hvalue⟩
    exact List.mem_of_getElem? hvalue
  · intro hmem
    obtain ⟨i, hlt, hvalue⟩ := List.mem_iff_getElem.mp hmem
    have hlength := h.length_eq
    have hcard := (List.forall₂_iff_get.mp h).2 i (by omega) hlt
    refine ⟨i, cards[i], List.getElem?_eq_getElem _, (cardValue_eq hcard).1 hvalue, ?_⟩
    rw [List.getElem?_eq_getElem hlt, hvalue]

theorem mem_totals {total : Nat} : total ∈ totals cards ↔
    ∃ elevens ≤ aceCount cards, total = hardTotal cards + 10 * elevens := by
  constructor
  · rintro ⟨values, hcounting, rfl⟩
    exact ⟨values.count 11, hcounting.sum_eq.2, hcounting.sum_eq.1⟩
  · rintro ⟨elevens, helevens, rfl⟩
    obtain ⟨values, hcounting, hcount⟩ := exists_counting helevens
    exact ⟨values, hcounting, by rw [hcounting.sum_eq.1, hcount]⟩

end Counting

section Scores

/-- Where the loop over the aces stops: `elevens` aces stay at eleven. -/
structure StopsAt (hard aces elevens : Nat) : Prop where
  le_aces : elevens ≤ aces
  fits : hard + 10 * elevens ≤ 21 ∨ elevens = 0
  last : elevens = aces ∨ 21 < hard + 10 * (elevens + 1)

theorem exists_stopsAt (hard aces : Nat) :
    ∃ elevens, lowerAces (hard + 10 * aces) aces = (hard + 10 * elevens, elevens) ∧
      StopsAt hard aces elevens := by
  induction aces with
  | zero => exact ⟨0, rfl, le_rfl, .inr rfl, .inl rfl⟩
  | succ aces ih =>
      rw [lowerAces]
      by_cases hhigh : 21 < hard + 10 * (aces + 1)
      · have hless : hard + 10 * (aces + 1) - 10 = hard + 10 * aces := by omega
        obtain ⟨elevens, hlower, hstops⟩ := ih
        rw [if_pos hhigh, hless]
        refine ⟨elevens, hlower, hstops.le_aces.trans aces.le_succ, hstops.fits, .inr ?_⟩
        rcases hstops.last with rfl | hlast
        · exact hhigh
        · exact hlast
      · rw [if_neg hhigh]
        exact ⟨aces + 1, rfl, le_rfl, .inl (not_lt.mp hhigh), .inl rfl⟩

theorem exists_score (cards : List BlackjackCard) :
    ∃ elevens, (scoreBlackjackCards cards).total = hardTotal cards + 10 * elevens ∧
      ((scoreBlackjackCards cards).soft = true ↔ 0 < elevens) ∧
      StopsAt (hardTotal cards) (aceCount cards) elevens := by
  obtain ⟨elevens, hlower, hstops⟩ := exists_stopsAt (hardTotal cards) (aceCount cards)
  have hscore : lowerAces (cards.map fun card => rankValue card.rank).sum (aceCount cards) =
      (hardTotal cards + 10 * elevens, elevens) := by
    rw [hardTotal_aces]
    exact hlower
  refine ⟨elevens, congrArg Prod.fst hscore, ?_, hstops⟩
  change decide (0 < (lowerAces _ (aceCount cards)).2) = true ↔ _
  rw [hscore, decide_eq_true_eq]

/-- The score of a hand: the best total that fits, or the least if none does. -/
structure BestScore (cards : List BlackjackCard) (score : BlackjackScore) : Prop where
  greatest : (fittingTotals cards).Nonempty → IsGreatest (fittingTotals cards) score.total
  least : ¬(fittingTotals cards).Nonempty → IsLeast (totals cards) score.total
  soft : ∀ values, IsCounting cards values → values.sum = score.total →
    (score.soft = true ↔ CountsAceAsEleven cards values)

theorem bestScore (cards : List BlackjackCard) : BestScore cards (scoreBlackjackCards cards) := by
  obtain ⟨elevens, htotal, hsoft, hstops⟩ := exists_score cards
  have hmem : (scoreBlackjackCards cards).total ∈ totals cards :=
    mem_totals.mpr ⟨elevens, hstops.le_aces, htotal⟩
  refine ⟨fun ⟨fitting, hfitting, hfits⟩ => ?_, fun hnone => ⟨hmem, fun total h => ?_⟩,
    fun values hcounting hsum => ?_⟩
  · obtain ⟨others, -, rfl⟩ := mem_totals.mp hfitting
    have hle : (scoreBlackjackCards cards).total ≤ 21 := by
      rcases hstops.fits with h | rfl <;> omega
    refine ⟨⟨hmem, hle⟩, fun total ⟨h, htotal21⟩ => ?_⟩
    obtain ⟨more, hmore, rfl⟩ := mem_totals.mp h
    rcases hstops.last with rfl | hlast
    · omega
    · omega
  · obtain ⟨more, -, rfl⟩ := mem_totals.mp h
    have hhigh : 21 < (scoreBlackjackCards cards).total := by
      by_contra hlow
      exact hnone ⟨_, hmem, not_lt.mp hlow⟩
    rcases hstops.fits with hfits | rfl
    · omega
    · omega
  · have heq := hcounting.sum_eq.1
    have hcount : values.count 11 = elevens := by omega
    rw [countsAceAsEleven_iff hcounting, ← List.count_pos_iff, hcount, hsoft]

theorem scoreBlackjackCards_perm {cards cards' : List BlackjackCard} (h : cards.Perm cards') :
    scoreBlackjackCards cards = scoreBlackjackCards cards' := by
  have hsum := (h.map fun card => rankValue card.rank).sum_eq
  have haces := (h.filter fun card => card.rank = .ace).length_eq
  simp only [scoreBlackjackCards, hsum, haces, h.length_eq]

end Scores

theorem mem_createStandardDeck (card : BlackjackCard) : card ∈ createStandardDeck := by
  obtain ⟨rank, suit⟩ := card
  cases rank <;> cases suit <;> decide

theorem nodup_createStandardDeck : createStandardDeck.Nodup := by
  decide

/-- **Scores and decks.** A score is the best way to count the hand, whatever the order of its cards,
and a shuffle has every card once. -/
theorem scores_and_decks :
    (∀ cards, BestScore cards (scoreBlackjackCards cards)) ∧
      (∀ cards cards' : List BlackjackCard, cards.Perm cards' →
        scoreBlackjackCards cards = scoreBlackjackCards cards') ∧
      ∀ (readUInt32BE : String → Nat) (seed : String) (userId : Nat) (clientNonce : String),
        ∃ deck, drawBlackjackDeck readUInt32BE seed userId clientNonce = .ok deck ∧
          deck.Perm createStandardDeck ∧ deck.Nodup ∧ deck.length = 52 ∧
          ∀ card, card ∈ deck := by
  refine ⟨bestScore, fun cards cards' => scoreBlackjackCards_perm,
    fun readUInt32BE seed userId clientNonce => ?_⟩
  obtain ⟨deck, hdeck, hperm⟩ := @drawBlackjackDeck_perm readUInt32BE seed userId clientNonce
  exact ⟨deck, hdeck, hperm, hperm.nodup_iff.mpr nodup_createStandardDeck, hperm.length_eq,
    fun card => hperm.mem_iff.mpr (mem_createStandardDeck card)⟩

/-- An ace and a king are worth 21 in either order. -/
theorem score_ace_king :
    (scoreBlackjackCards [⟨.ace, .spades⟩, ⟨.king, .hearts⟩]).total = 21 ∧
      scoreBlackjackCards [⟨.ace, .spades⟩, ⟨.king, .hearts⟩] =
        scoreBlackjackCards [⟨.king, .hearts⟩, ⟨.ace, .spades⟩] :=
  ⟨by decide, scores_and_decks.2.1 _ _ (.swap _ _ _)⟩

end RewardSystem.Blackjack
