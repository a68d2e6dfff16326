import Mathlib.Data.List.Perm.Basic
import Mathlib.Tactic.Ring
import RewardSystem.Blackjack.Game

/-!
# The shuffled deck

A seed, a user and a nonce fix the order of the 52 cards. Counting every ace as one, the whole deck is
worth 340, so a table whose cards are worth less has not used it up.
-/

namespace RewardSystem.Blackjack

section Shuffle

def createStandardDeck : List BlackjackCard :=
  [Suit.spades, .hearts, .diamonds, .clubs].flatMap fun suit =>
    [Rank.ace, .two, .three, .four, .five, .six, .seven, .eight, .nine, .ten, .jack, .queen,
      .king].map fun rank => ⟨rank, suit⟩

-- `readUInt32BE` is the first word of the digest of a text.
variable (readUInt32BE : String → Nat) (seed : String) (userId : Nat) (clientNonce : String)

/-- The last `left` rounds of the shuffle, the first of them being `step`. -/
def drawCardsFrom : Nat → Nat → List BlackjackCard → Except ApiError (List BlackjackCard)
  | 0, _, _ => .ok []
  | left + 1, step, availableCards =>
      let nextIndex :=
        readUInt32BE s!"{seed}:{userId}:{clientNonce}:{step}" % availableCards.length
      match availableCards[nextIndex]? with
      | none => .error (.internalInvariant "Failed to shuffle blackjack deck.")
      | some card =>
          (drawCardsFrom left (step + 1) (availableCards.eraseIdx nextIndex)).map (card :: ·)

def drawBlackjackDeck : Except ApiError (List BlackjackCard) :=
  drawCardsFrom readUInt32BE seed userId clientNonce 52 0 createStandardDeck

variable {readUInt32BE seed userId clientNonce}

theorem drawCardsFrom_perm (step : Nat) (availableCards : List BlackjackCard) :
    ∃ deck, drawCardsFrom readUInt32BE seed userId clientNonce availableCards.length step
      availableCards = .ok deck ∧ deck.Perm availableCards := by
  generalize hlength : availableCards.length = left
  induction left generalizing step availableCards with
  | zero => exact ⟨[], rfl, by rw [List.length_eq_zero_iff.mp hlength]⟩
  | succ left ih =>
      set nextIndex :=
        readUInt32BE s!"{seed}:{userId}:{clientNonce}:{step}" % availableCards.length with hindex
      have hlt : nextIndex < availableCards.length := Nat.mod_lt _ (by omega)
      have hrest : (availableCards.eraseIdx nextIndex).length = left := by
        rw [List.length_eraseIdx_of_lt hlt, hlength]
        rfl
      obtain ⟨deck, hdeck, hperm⟩ := ih (step + 1) (availableCards.eraseIdx nextIndex) hrest
      refine ⟨availableCards[nextIndex] :: deck, ?_, ?_⟩
      · unfold drawCardsFrom
        simp only [← hindex, List.getElem?_eq_getElem hlt, hdeck]
        rfl
      · exact (hperm.cons _).trans (List.getElem_cons_eraseIdx_perm hlt)

theorem drawBlackjackDeck_perm : ∃ deck,
    drawBlackjackDeck readUInt32BE seed userId clientNonce = .ok deck ∧
      deck.Perm createStandardDeck :=
  drawCardsFrom_perm 0 createStandardDeck

theorem perm_of_drawBlackjackDeck {deck : List BlackjackCard}
    (h : drawBlackjackDeck readUInt32BE seed userId clientNonce = .ok deck) :
    deck.Perm createStandardDeck := by
  obtain ⟨deck', h', hperm⟩ :=
    @drawBlackjackDeck_perm readUInt32BE seed userId clientNonce
  obtain rfl := Except.ok.inj (h'.symm.trans h)
  exact hperm

end Shuffle

section HardTotals

def hardValue (card : BlackjackCard) : Nat :=
  if card.rank = .ace then 1 else rankValue card.rank

def hardTotal (cards : List BlackjackCard) : Nat :=
  (cards.map hardValue).sum

@[simp]
theorem hardTotal_nil : hardTotal [] = 0 := rfl

@[simp]
theorem hardTotal_cons (card : BlackjackCard) (cards : List BlackjackCard) :
    hardTotal (card :: cards) = hardValue card + hardTotal cards := by
  simp [hardTotal]

@[simp]
theorem hardTotal_append (cards more : List BlackjackCard) :
    hardTotal (cards ++ more) = hardTotal cards + hardTotal more := by
  simp [hardTotal]

theorem hardTotal_perm {cards more : List BlackjackCard} (h : cards.Perm more) :
    hardTotal cards = hardTotal more :=
  (h.map hardValue).sum_eq

theorem hardValue_le (card : BlackjackCard) : hardValue card ≤ 10 := by
  obtain ⟨rank, suit⟩ := card
  cases rank <;> simp [hardValue, rankValue]

theorem hardTotal_standardDeck : hardTotal createStandardDeck = 340 := rfl

theorem hardTotal_aces (cards : List BlackjackCard) :
    (cards.map fun card => rankValue card.rank).sum =
      hardTotal cards + 10 * (cards.filter fun card => card.rank = .ace).length := by
  induction cards with
  | nil => rfl
  | cons card cards ih =>
      rw [List.map_cons, List.sum_cons, ih, hardTotal_cons]
      by_cases hace : card.rank = .ace
      · simp [hace, hardValue, rankValue]
        ring
      · simp [hace, hardValue]
        ring

theorem le_lowerAces (total aces : Nat) : total ≤ (lowerAces total aces).1 + 10 * aces := by
  induction aces generalizing total with
  | zero => exact le_rfl
  | succ aces ih =>
      unfold lowerAces
      split_ifs with hhigh
      · have := ih (total - 10)
        omega
      · dsimp only
        omega

theorem hardTotal_le_score (cards : List BlackjackCard) :
    hardTotal cards ≤ (scoreBlackjackCards cards).total := by
  have hlower := le_lowerAces (cards.map fun card => rankValue card.rank).sum
    (cards.filter fun card => card.rank = .ace).length
  have haces := hardTotal_aces cards
  have htotal : (scoreBlackjackCards cards).total =
      (lowerAces (cards.map fun card => rankValue card.rank).sum
        (cards.filter fun card => card.rank = .ace).length).1 := rfl
  omega

theorem length_lt_of_hardTotal {deck : List BlackjackCard} {drawn : Nat}
    (hdeck : deck.Perm createStandardDeck) (hlight : hardTotal (deck.take drawn) < 340) :
    drawn < deck.length := by
  by_contra hall
  rw [List.take_of_length_le (not_lt.mp hall), hardTotal_perm hdeck, hardTotal_standardDeck] at hlight
  omega

end HardTotals

end RewardSystem.Blackjack
