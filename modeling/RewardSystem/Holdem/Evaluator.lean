import Mathlib.Data.List.Sort
import RewardSystem.Shared.Errors

/-!
# Cards and the value of a hand
-/

namespace RewardSystem.Holdem

inductive Suit where
  | spades
  | hearts
  | diamonds
  | clubs
  deriving DecidableEq, Repr

inductive Rank where
  | two
  | three
  | four
  | five
  | six
  | seven
  | eight
  | nine
  | ten
  | jack
  | queen
  | king
  | ace
  deriving DecidableEq, Repr

structure Card where
  rank : Rank
  suit : Suit
  deriving DecidableEq, Repr

def Suit.text : Suit → String
  | .spades => "spades"
  | .hearts => "hearts"
  | .diamonds => "diamonds"
  | .clubs => "clubs"

def Rank.text : Rank → String
  | .two => "2"
  | .three => "3"
  | .four => "4"
  | .five => "5"
  | .six => "6"
  | .seven => "7"
  | .eight => "8"
  | .nine => "9"
  | .ten => "10"
  | .jack => "J"
  | .queen => "Q"
  | .king => "K"
  | .ace => "A"

def rankValueMap : Rank → Nat
  | .two => 2
  | .three => 3
  | .four => 4
  | .five => 5
  | .six => 6
  | .seven => 7
  | .eight => 8
  | .nine => 9
  | .ten => 10
  | .jack => 11
  | .queen => 12
  | .king => 13
  | .ace => 14

inductive HandCategory where
  | highCard
  | onePair
  | twoPair
  | threeOfAKind
  | straight
  | flush
  | fullHouse
  | fourOfAKind
  | straightFlush
  deriving DecidableEq, Repr

def categoryStrength : HandCategory → Nat
  | .highCard => 0
  | .onePair => 1
  | .twoPair => 2
  | .threeOfAKind => 3
  | .straight => 4
  | .flush => 5
  | .fullHouse => 6
  | .fourOfAKind => 7
  | .straightFlush => 8

def categoryLabels : HandCategory → String
  | .highCard => "High card"
  | .onePair => "One pair"
  | .twoPair => "Two pair"
  | .threeOfAKind => "Three of a kind"
  | .straight => "Straight"
  | .flush => "Flush"
  | .fullHouse => "Full house"
  | .fourOfAKind => "Four of a kind"
  | .straightFlush => "Straight flush"

structure BestHand where
  category : HandCategory
  label : String
  cards : List Card
  deriving DecidableEq, Repr

structure BestHandEvaluation where
  hand : BestHand
  strength : List Nat
  deriving DecidableEq, Repr

/-- The loop of `compareStrength` over `count` places from `index` on. -/
def comparePlaces (left right : List Nat) : Nat → Nat → Ordering
  | 0, _ => .eq
  | count + 1, index =>
      let leftValue := left[index]?.getD 0
      let rightValue := right[index]?.getD 0
      if leftValue = rightValue then
        comparePlaces left right count (index + 1)
      else if leftValue > rightValue then
        .gt
      else
        .lt

def compareStrength (left right : List Nat) : Ordering :=
  comparePlaces left right (max left.length right.length) 0

def sortDescending (values : List Nat) : List Nat :=
  values.insertionSort (· ≥ ·)

def isRunDownward : List Nat → Bool
  | high :: low :: rest => high == low + 1 && isRunDownward (low :: rest)
  | _ => true

def resolveStraightHighCard (rankValues : List Nat) : Option Nat :=
  let uniqueValues := sortDescending rankValues.dedup
  if uniqueValues.length ≠ 5 then
    none
  else if uniqueValues = [14, 5, 4, 3, 2] then
    some 5
  else if isRunDownward uniqueValues then
    uniqueValues.head?
  else
    none

/-- The groups of equal ranks, as pairs of a rank and how often it occurs. -/
def countRank : List (Nat × Nat) → Nat → List (Nat × Nat)
  | [], value => [(value, 1)]
  | (rank, count) :: rest, value =>
      if rank = value then (rank, count + 1) :: rest else (rank, count) :: countRank rest value

def groupRanks (ranks : List Nat) : List (Nat × Nat) :=
  (ranks.foldl countRank []).insertionSort fun left right =>
    right.2 < left.2 ∨ (left.2 = right.2 ∧ right.1 ≤ left.1)

def buildEvaluation (category : HandCategory) (cards : List Card) (kickers : List Nat) :
    BestHandEvaluation :=
  { hand := { category := category, label := categoryLabels category, cards := cards }
    strength := categoryStrength category :: kickers }

def ranksOccurring (times : Nat) (groups : List (Nat × Nat)) : List Nat :=
  (groups.filter fun group => group.2 = times).map Prod.fst

def evaluateFiveCardHand (cards : List Card) : BestHandEvaluation :=
  let ranks := cards.map fun card => rankValueMap card.rank
  let sortedRanks := sortDescending ranks
  let isFlush := cards.all fun card => some card.suit = cards.head?.map Card.suit
  let groups := groupRanks ranks
  let kicker := (ranksOccurring 1 groups).headD 0
  let kickers := sortDescending (ranksOccurring 1 groups)
  match isFlush, resolveStraightHighCard sortedRanks, groups with
  | true, some high, _ => buildEvaluation .straightFlush cards [high]
  | _, _, (rank, 4) :: _ => buildEvaluation .fourOfAKind cards [rank, kicker]
  | _, _, (rank, 3) :: (pair, 2) :: _ => buildEvaluation .fullHouse cards [rank, pair]
  | true, none, _ => buildEvaluation .flush cards sortedRanks
  | false, some high, _ => buildEvaluation .straight cards [high]
  | _, _, (rank, 3) :: _ => buildEvaluation .threeOfAKind cards (rank :: kickers)
  | _, _, (_, 2) :: (_, 2) :: _ =>
      buildEvaluation .twoPair cards (sortDescending (ranksOccurring 2 groups) ++ [kicker])
  | _, _, (rank, 2) :: _ => buildEvaluation .onePair cards (rank :: kickers)
  | _, _, _ => buildEvaluation .highCard cards sortedRanks

/-- The choices of `n` cards in the order of the nested loops of `enumerateFiveCardCombos`. -/
def enumerateCombos : Nat → List Card → List (List Card)
  | 0, _ => [[]]
  | _ + 1, [] => []
  | n + 1, card :: rest =>
      (enumerateCombos n rest).map (card :: ·) ++ enumerateCombos (n + 1) rest

def compareHoldemBestHands (left right : BestHandEvaluation) : Ordering :=
  compareStrength left.strength right.strength

def evaluateBestHoldemHand (cards : List Card) : Except ApiError BestHandEvaluation :=
  if cards.length < 5 then
    .error (.internalInvariant "Texas Hold'em evaluation requires at least 5 cards.")
  else
    let combinations := if cards.length = 5 then [cards] else enumerateCombos 5 cards
    let first := evaluateFiveCardHand (combinations.headD (cards.take 5))
    .ok (combinations.tail.foldl
      (fun best combination =>
        let next := evaluateFiveCardHand combination
        if compareHoldemBestHands next best = .gt then next else best)
      first)

example :
    (evaluateFiveCardHand [⟨.ace, .spades⟩, ⟨.two, .hearts⟩, ⟨.three, .clubs⟩, ⟨.four, .spades⟩,
      ⟨.five, .hearts⟩]).strength = [4, 5] := by
  decide +kernel

theorem evaluateBestHoldemHand_isOk (cards : List Card) (h : 5 ≤ cards.length) :
    ∃ best, evaluateBestHoldemHand cards = .ok best :=
  ⟨_, if_neg (by omega)⟩

end RewardSystem.Holdem
