import RewardSystem.Blackjack.Deck
import RewardSystem.Blackjack.Turns

/-!
# The hands of a game

One hand is played at a time: those before it are finished and those after it wait. A split puts a
waiting hand right after the one that is played, so this order survives splits of splits.
-/

namespace RewardSystem.Blackjack

section Invariant

def BlackjackGame.tableCards (game : BlackjackGame) : List BlackjackCard :=
  game.playerHands.flatMap PlayerHand.cards ++ game.dealerCards

/-- One hand is active, the earlier ones are finished and the later ones wait. -/
def HandsInTurn (game : BlackjackGame) : Prop :=
  ∃ before hand after, game.playerHands = before ++ hand :: after ∧
    game.activeHandIndex = some before.length ∧ hand.state = .active ∧
    (∀ earlier ∈ before, earlier.state = .stood ∨ earlier.state = .bust) ∧
    ∀ later ∈ after, later.state = .waiting

/-- The cards and the stakes on the table are those that were drawn and taken. -/
structure Dealt (game : BlackjackGame) : Prop where
  deck : game.deck.Perm createStandardDeck
  cards : game.tableCards.Perm (game.deck.take game.nextCardIndex)
  drawn : game.nextCardIndex ≤ game.deck.length
  stakes : (game.playerHands.map PlayerHand.stakeAmount).sum = game.totalStake
  hands : game.playerHands.length ≤ game.config.maxSplitHands
  fewHands : game.config.maxSplitHands ≤ 8

/-- A hand draws only below 21, and the dealer has two cards. -/
structure Light (game : BlackjackGame) : Prop where
  hands : ∀ hand ∈ game.playerHands, hardTotal hand.cards ≤ 30
  dealer : hardTotal game.dealerCards ≤ 20

structure HandsPlayed (game : BlackjackGame) : Prop where
  dealt : Dealt game
  light : Light game

structure HandsInPlay (game : BlackjackGame) : Prop extends HandsPlayed game where
  turn : HandsInTurn game

structure HandsStored (game : BlackjackGame) : Prop where
  dealt : Dealt game
  inPlay : game.status = .active → HandsInPlay game

/-- `getBlackjackConfig` brings the configured number into range. -/
def readMaxSplitHands (configured : Int) : Nat :=
  (max 2 (min 8 configured)).toNat

/-- The deck comes from a seed, and the number of hands from the configuration. -/
structure FromSeed (readUInt32BE : String → Nat) (request : StartRequest) : Prop where
  deck : ∃ seed clientNonce,
    drawBlackjackDeck readUInt32BE seed request.userId clientNonce = .ok request.deck
  hands : ∃ configured, request.config.maxSplitHands = readMaxSplitHands configured

end Invariant

section Room

variable {game next : BlackjackGame}

theorem hardTotal_flatMap_le {hands : List PlayerHand}
    (h : ∀ hand ∈ hands, hardTotal hand.cards ≤ 30) :
    hardTotal (hands.flatMap PlayerHand.cards) ≤ 30 * hands.length := by
  induction hands with
  | nil => simp
  | cons hand hands ih =>
      have hhand := h hand (by simp)
      have hrest := ih fun other hother => h other (by simp [hother])
      rw [List.flatMap_cons, hardTotal_append, List.length_cons]
      omega

theorem HandsPlayed.drawn_le (hgame : HandsPlayed game) :
    hardTotal (game.deck.take game.nextCardIndex) ≤ 260 := by
  have hhands := hardTotal_flatMap_le hgame.light.hands
  have hdealer := hgame.light.dealer
  have hcount := hgame.dealt.hands.trans hgame.dealt.fewHands
  rw [← hardTotal_perm hgame.dealt.cards, BlackjackGame.tableCards, hardTotal_append]
  omega

theorem HandsPlayed.next_lt (hgame : HandsPlayed game) : game.nextCardIndex < game.deck.length :=
  length_lt_of_hardTotal hgame.dealt.deck (by have := hgame.drawn_le; omega)

theorem take_succ_of_getElem? {deck : List BlackjackCard} {drawn : Nat} {card : BlackjackCard}
    (hcard : deck[drawn]? = some card) : deck.take (drawn + 1) = deck.take drawn ++ [card] := by
  rw [List.take_add_one, hcard]
  rfl

theorem HandsPlayed.second_lt (hgame : HandsPlayed game) :
    game.nextCardIndex + 1 < game.deck.length := by
  refine length_lt_of_hardTotal hgame.dealt.deck ?_
  have hcard := List.getElem?_eq_getElem hgame.next_lt
  have hlt := hgame.next_lt
  have hvalue := hardValue_le game.deck[game.nextCardIndex]
  have hdrawn := hgame.drawn_le
  rw [take_succ_of_getElem? hcard, hardTotal_append, hardTotal_cons, hardTotal_nil]
  omega

theorem takeNextCard_card {card : BlackjackCard} (h : takeNextCard game = .ok (card, next)) :
    game.deck[game.nextCardIndex]? = some card := by
  unfold takeNextCard at h
  split at h
  · cases h
  · rename_i drawn hdrawn
    rw [hdrawn, (Prod.mk.inj (Except.ok.inj h)).1]

theorem Dealt.draw (hgame : Dealt game) (cards : List BlackjackCard) (hdeck : next.deck = game.deck)
    (hconfig : next.config = game.config) (hin : next.nextCardIndex ≤ game.deck.length)
    (hdrawn : game.deck.take next.nextCardIndex = game.deck.take game.nextCardIndex ++ cards)
    (hcards : next.tableCards.Perm (game.tableCards ++ cards))
    (hstakes : (next.playerHands.map PlayerHand.stakeAmount).sum = next.totalStake)
    (hhands : next.playerHands.length ≤ game.config.maxSplitHands) : Dealt next where
  deck := hdeck ▸ hgame.deck
  cards := by
    rw [hdeck, hdrawn]
    exact hcards.trans (hgame.cards.append_right cards)
  drawn := hdeck ▸ hin
  stakes := hstakes
  hands := hconfig ▸ hhands
  fewHands := hconfig ▸ hgame.fewHands

end Room

section Places

variable {before after : List PlayerHand} {hand : PlayerHand}

theorem modify_at (before after : List PlayerHand) (hand : PlayerHand)
    (change : PlayerHand → PlayerHand) :
    (before ++ hand :: after).modify before.length change = before ++ change hand :: after := by
  induction before with
  | nil => rfl
  | cons head before ih => simp [ih]

theorem insertIdx_after (before after : List PlayerHand) (hand added : PlayerHand) :
    (before ++ hand :: after).insertIdx (before.length + 1) added =
      before ++ hand :: added :: after := by
  induction before with
  | nil => rfl
  | cons head before ih => simpa using ih

theorem getElem?_at (before after : List PlayerHand) (hand : PlayerHand) :
    (before ++ hand :: after)[before.length]? = some hand := by
  simp

theorem nextWaitingHand_last (before : List PlayerHand) (hand : PlayerHand) :
    nextWaitingHand (before ++ [hand]) before.length = none := by
  unfold nextWaitingHand
  rw [List.find?_eq_none]
  intro candidate hcandidate
  have hlt : candidate < before.length + 1 := by simpa using hcandidate
  have hle : ¬before.length < candidate := by omega
  simp [hle]

theorem nextWaitingHand_next (before after : List PlayerHand) (hand : PlayerHand)
    {later : PlayerHand} (hlater : later.state = .waiting) :
    nextWaitingHand (before ++ hand :: later :: after) before.length =
      some (before.length + 1) := by
  unfold nextWaitingHand
  rw [List.find?_range_eq_some]
  refine ⟨by simp [hlater], by simp, ?_⟩
  intro candidate hcandidate
  have hle : ¬before.length < candidate := by omega
  simp [hle]

end Places

section Moves

variable {game next : BlackjackGame} {before after : List PlayerHand} {hand : PlayerHand}
  {card : BlackjackCard} {balance : Int} {index : Nat}

theorem HandsPlayed.update (hgame : HandsPlayed game) (status : BlackjackGameStatus)
    (payoutAmount : Int) (turnDeadlineAt : Option Int) (activeHandIndex : Option Nat) :
    HandsPlayed { game with
      status := status
      payoutAmount := payoutAmount
      turnDeadlineAt := turnDeadlineAt
      activeHandIndex := activeHandIndex } where
  dealt := ⟨hgame.dealt.deck, hgame.dealt.cards, hgame.dealt.drawn, hgame.dealt.stakes,
    hgame.dealt.hands, hgame.dealt.fewHands⟩
  light := ⟨hgame.light.hands, hgame.light.dealer⟩

theorem turn_at (hgame : HandsInTurn game) (hindex : game.activeHandIndex = some index)
    (hhand : game.playerHands[index]? = some hand) :
    ∃ before after, game.playerHands = before ++ hand :: after ∧ index = before.length ∧
      hand.state = .active ∧
      (∀ earlier ∈ before, earlier.state = .stood ∨ earlier.state = .bust) ∧
      ∀ later ∈ after, later.state = .waiting := by
  obtain ⟨before, active, after, hhands, hactive, hstate, hbefore, hafter⟩ := hgame
  obtain rfl : before.length = index := Option.some.inj (hactive.symm.trans hindex)
  rw [hhands, getElem?_at] at hhand
  obtain rfl := Option.some.inj hhand
  exact ⟨before, after, hhands, rfl, hstate, hbefore, hafter⟩

theorem available_spec {action : BlackjackAction} (hindex : game.activeHandIndex = some index)
    (hhand : game.playerHands[index]? = some hand)
    (h : action ∈ getAvailableActions game balance) :
    (scoreBlackjackCards hand.cards).total < 21 ∧
      (action = .split → canSplitHand game hand balance = true) := by
  have hactive : game.getActivePlayerHand = some hand := by
    simpa [BlackjackGame.getActivePlayerHand, hindex] using hhand
  unfold getAvailableActions at h
  simp only [hactive] at h
  split at h
  · cases h
  · rename_i hover
    simp only [not_or, not_le] at hover
    refine ⟨hover.2.2.2, ?_⟩
    rintro rfl
    simp only [List.mem_append] at h
    rcases h with (h | h) | h
    · split_ifs at h <;> simp at h
    · split_ifs at h <;> simp at h
    · by_contra hsplit
      simp [hsplit] at h

theorem canSplitHand_spec (h : canSplitHand game hand balance = true) :
    (∃ left right, hand.cards = [left, right]) ∧
      game.playerHands.length < game.config.maxSplitHands := by
  simp only [canSplitHand, Bool.and_eq_true, decide_eq_true_eq] at h
  obtain ⟨⟨⟨⟨_, hcards⟩, _⟩, hcount⟩, _⟩ := h
  refine ⟨?_, hcount⟩
  unfold canSplitCards at hcards
  split at hcards
  · rename_i left right hhand
    exact ⟨left, right, hhand⟩
  · cases hcards

theorem HandsInPlay.placeCard (hgame : HandsInPlay game) (stakeAmount : Int)
    (hindex : game.activeHandIndex = some index) (hhand : game.playerHands[index]? = some hand)
    (hbelow : (scoreBlackjackCards hand.cards).total < 21)
    (hcard : game.deck[game.nextCardIndex]? = some card) :
    HandsInPlay { game with
      nextCardIndex := game.nextCardIndex + 1
      totalStake := game.totalStake + stakeAmount
      playerHands := game.playerHands.modify index fun old =>
        { old with stakeAmount := old.stakeAmount + stakeAmount, cards := hand.cards ++ [card] } } := by
  obtain ⟨before, after, hhands, rfl, hstate, hbefore, hafter⟩ := turn_at hgame.turn hindex hhand
  have hdealt := hgame.dealt
  have hcards := hdealt.cards
  have hstakes := hdealt.stakes
  have hhard := hardTotal_le_score hand.cards
  have hvalue := hardValue_le card
  constructor
  · constructor
    · refine hdealt.draw [card] rfl rfl hgame.next_lt (take_succ_of_getElem? hcard) ?_ ?_ ?_
      · rw [List.perm_iff_count]
        intro other
        simp only [BlackjackGame.tableCards, hhands, modify_at, List.flatMap_append,
          List.flatMap_cons, List.count_append]
        omega
      · simp only [hhands, modify_at, List.map_append, List.map_cons, List.sum_append,
          List.sum_cons] at hstakes ⊢
        omega
      · simpa using hdealt.hands
    · constructor
      · intro other hother
        simp only [hhands, modify_at, List.mem_append, List.mem_cons] at hother
        rcases hother with hother | rfl | hother
        · exact hgame.light.hands other (by simp [hhands, hother])
        · simp only [hardTotal_append, hardTotal_cons, hardTotal_nil]
          omega
        · exact hgame.light.hands other (by simp [hhands, hother])
      · exact hgame.light.dealer
  · let placed : PlayerHand :=
      { hand with stakeAmount := hand.stakeAmount + stakeAmount, cards := hand.cards ++ [card] }
    exact ⟨before, placed, after, by simp only [placed, hhands, modify_at], hindex, hstate, hbefore,
      hafter⟩

theorem HandsInPlay.splitHand (hgame : HandsInPlay game) {left right leftDraw rightDraw : BlackjackCard}
    (hindex : game.activeHandIndex = some index) (hhand : game.playerHands[index]? = some hand)
    (hcards : hand.cards = [left, right])
    (hroom : game.playerHands.length < game.config.maxSplitHands)
    (hleft : game.deck[game.nextCardIndex]? = some leftDraw)
    (hright : game.deck[game.nextCardIndex + 1]? = some rightDraw) :
    HandsInPlay (splitGame { game with
      nextCardIndex := game.nextCardIndex + 1 + 1
      totalStake := game.totalStake + hand.stakeAmount } index hand.stakeAmount left right leftDraw
      rightDraw) := by
  obtain ⟨before, after, hhands, rfl, hstate, hbefore, hafter⟩ := turn_at hgame.turn hindex hhand
  have hdealt := hgame.dealt
  have hstakes := hdealt.stakes
  have hvalues := And.intro (hardValue_le left) (hardValue_le right)
  have hvalues' := And.intro (hardValue_le leftDraw) (hardValue_le rightDraw)
  have hsplit : (splitGame game before.length hand.stakeAmount left right leftDraw
      rightDraw).playerHands = before ++
        ⟨[left, leftDraw], hand.stakeAmount, .active, left.rank = .ace && right.rank = .ace⟩ ::
        ⟨[right, rightDraw], hand.stakeAmount, .waiting, left.rank = .ace && right.rank = .ace⟩ ::
        after := by
    simp only [splitGame, hhands, modify_at, insertIdx_after]
  have hlt : game.nextCardIndex + 1 < game.deck.length := by
    by_contra hend
    simp [List.getElem?_eq_none (not_lt.mp hend)] at hright
  constructor
  · constructor
    · refine hdealt.draw [leftDraw, rightDraw] rfl rfl hlt ?_ ?_ ?_ ?_
      · rw [splitGame, take_succ_of_getElem? hright, take_succ_of_getElem? hleft]
        simp
      · rw [List.perm_iff_count]
        intro other
        simp only [BlackjackGame.tableCards, splitGame, hhands, modify_at, insertIdx_after, hcards,
          List.flatMap_append, List.flatMap_cons, List.count_append, List.count_cons, List.count_nil]
        omega
      · simp only [splitGame, hhands, modify_at, insertIdx_after, List.map_append, List.map_cons,
          List.sum_append, List.sum_cons] at hstakes ⊢
        omega
      · simp only [splitGame, hhands, modify_at, insertIdx_after, List.length_append,
          List.length_cons] at hroom ⊢
        omega
    · constructor
      · intro other hother
        simp only [splitGame, hhands, modify_at, insertIdx_after, List.mem_append, List.mem_cons]
          at hother
        rcases hother with hother | rfl | rfl | hother
        · exact hgame.light.hands other (by simp [hhands, hother])
        · simp only [hardTotal_cons, hardTotal_nil]
          omega
        · simp only [hardTotal_cons, hardTotal_nil]
          omega
        · exact hgame.light.hands other (by simp [hhands, hother])
      · exact hgame.light.dealer
  · refine ⟨before, _, _ :: after, hsplit, hindex, rfl, hbefore, ?_⟩
    intro later hlater
    rcases List.mem_cons.mp hlater with rfl | hlater
    · rfl
    · exact hafter later hlater

end Moves

section Actions

variable {game drawn drawn' : BlackjackGame} {index : Nat} {hand : PlayerHand} {balance : Int}
  {card left right leftDraw rightDraw : BlackjackCard} {more : List BlackjackCard}

theorem HandsInPlay.hit (hgame : HandsInPlay game) (hindex : game.activeHandIndex = some index)
    (hhand : game.playerHands[index]? = some hand)
    (havailable : .hit ∈ getAvailableActions game balance)
    (hdraw : takeNextCard game = .ok (card, drawn)) :
    HandsInPlay (modifyHand drawn index fun old => { old with cards := hand.cards ++ [card] }) := by
  have hplaced := hgame.placeCard 0 hindex hhand (available_spec hindex hhand havailable).1
    (takeNextCard_card hdraw)
  obtain rfl := takeNextCard_eq_ok hdraw
  simpa [modifyHand] using hplaced

theorem HandsInPlay.double (hgame : HandsInPlay game) (hindex : game.activeHandIndex = some index)
    (hhand : game.playerHands[index]? = some hand)
    (havailable : .double ∈ getAvailableActions game balance)
    (hdraw : takeNextCard { game with totalStake := game.totalStake + hand.stakeAmount } =
      .ok (card, drawn)) :
    HandsInPlay (doubledGame drawn index hand.stakeAmount (hand.cards ++ [card])) := by
  have hcard := takeNextCard_card hdraw
  obtain rfl := takeNextCard_eq_ok hdraw
  exact hgame.placeCard _ hindex hhand (available_spec hindex hhand havailable).1 hcard

theorem HandsInPlay.split (hgame : HandsInPlay game) (hindex : game.activeHandIndex = some index)
    (hhand : game.playerHands[index]? = some hand)
    (havailable : .split ∈ getAvailableActions game balance)
    (hcards : hand.cards = left :: right :: more)
    (hdraw : takeNextCard { game with totalStake := game.totalStake + hand.stakeAmount } =
      .ok (leftDraw, drawn))
    (hdraw' : takeNextCard drawn = .ok (rightDraw, drawn')) :
    HandsInPlay (splitGame drawn' index hand.stakeAmount left right leftDraw rightDraw) := by
  obtain ⟨⟨first, second, htwo⟩, hroom⟩ :=
    canSplitHand_spec ((available_spec hindex hhand havailable).2 rfl)
  obtain ⟨rfl, rfl, rfl⟩ : left = first ∧ right = second ∧ more = [] := by
    simpa [htwo] using hcards.symm
  have hleft := takeNextCard_card hdraw
  have hright := takeNextCard_card hdraw'
  obtain rfl := takeNextCard_eq_ok hdraw'
  obtain rfl := takeNextCard_eq_ok hdraw
  exact hgame.splitHand hindex hhand htwo hroom hleft hright

end Actions

section Ends

variable {game next : BlackjackGame} {index : Nat} {state : HandProgress} {done : Bool}

theorem map_modify_endHand {α : Type*} {f : PlayerHand → α}
    (hf : ∀ hand, f (endHand state hand) = f hand) (hands : List PlayerHand) (index : Nat) :
    (hands.modify index (endHand state)).map f = hands.map f := by
  induction hands generalizing index with
  | nil => simp
  | cons head hands ih =>
      cases index with
      | zero => simp [hf]
      | succ index => simp [ih]

theorem HandsPlayed.endHand (hgame : HandsPlayed game) (index : Nat) (state : HandProgress)
    (activeHandIndex : Option Nat) :
    HandsPlayed { game with
      playerHands := game.playerHands.modify index (endHand state)
      activeHandIndex := activeHandIndex } := by
  have hdealt := hgame.dealt
  constructor
  · refine hdealt.draw [] rfl rfl hdealt.drawn (List.append_nil _).symm ?_ ?_ ?_
    · simp only [BlackjackGame.tableCards, List.flatMap_def, List.append_nil]
      rw [map_modify_endHand fun _ => rfl]
    · simp only
      rw [map_modify_endHand fun _ => rfl]
      exact hdealt.stakes
    · simpa using hdealt.hands
  · constructor
    · intro hand hhand
      obtain hhand | ⟨earlier, hearlier, rfl⟩ := mem_modify_hands hhand
      · exact hgame.light.hands hand hhand
      · exact hgame.light.hands earlier hearlier
    · exact hgame.light.dealer

theorem HandsInPlay.advance (hgame : HandsInPlay game) (hstate : state = .stood ∨ state = .bust)
    (h : advancePlayerHand game state = .ok (next, done)) :
    if done then HandsPlayed next else HandsInPlay next := by
  obtain ⟨index, hand, hindex, hhand, hcases⟩ := advancePlayerHand_cases h
  obtain ⟨before, after, hhands, rfl, _, hbefore, hafter⟩ := turn_at hgame.turn hindex hhand
  rw [hhands, modify_at] at hcases
  have hended : HandsPlayed { game with
      playerHands := before ++ endHand state hand :: after
      activeHandIndex := none } := by
    have := hgame.toHandsPlayed.endHand before.length state none
    rwa [hhands, modify_at] at this
  obtain ⟨rfl, _, rfl⟩ | ⟨later, rfl, hlater, rfl⟩ := hcases
  · exact hended
  · cases after with
    | nil => simp [nextWaitingHand_last] at hlater
    | cons waiting after =>
        have hwaits : waiting.state = .waiting := hafter waiting (by simp)
        rw [nextWaitingHand_next before after (endHand state hand) hwaits] at hlater
        obtain rfl := Option.some.inj hlater
        have hplace : before ++ endHand state hand :: waiting :: after =
            (before ++ [endHand state hand]) ++ waiting :: after := by simp
        have hlength : before.length + 1 = (before ++ [endHand state hand]).length := by simp
        have hnext : (before ++ endHand state hand :: waiting :: after).modify (before.length + 1)
            (endHand .active) =
              (before ++ [endHand state hand]) ++ endHand .active waiting :: after := by
          rw [hplace, hlength, modify_at]
        refine ⟨hended.endHand (before.length + 1) .active (some (before.length + 1)), ?_⟩
        refine ⟨before ++ [endHand state hand], endHand .active waiting, after, hnext,
          congrArg some hlength, rfl, ?_, fun other hother => hafter other (by simp [hother])⟩
        intro earlier hearlier
        rcases List.mem_append.mp hearlier with hearlier | hearlier
        · exact hbefore earlier hearlier
        · rw [List.mem_singleton.mp hearlier]
          exact hstate

theorem HandsInPlay.resolve {balance : Int} {hands : Nat} (hgame : HandsInPlay game)
    (h : advanceResolvableHandsIn balance hands game = .ok (next, done)) :
    if done then HandsPlayed next else HandsInPlay next := by
  induction hands generalizing game with
  | zero =>
      obtain ⟨rfl, rfl⟩ := Prod.mk.inj (Except.ok.inj h)
      exact hgame.toHandsPlayed
  | succ hands ih =>
      unfold advanceResolvableHandsIn at h
      split at h
      · obtain ⟨rfl, rfl⟩ := Prod.mk.inj (Except.ok.inj h)
        exact hgame.toHandsPlayed
      · split at h
        · obtain ⟨rfl, rfl⟩ := Prod.mk.inj (Except.ok.inj h)
          exact hgame
        · rename_i nextState hresolvable
          have hends : nextState = .stood ∨ nextState = .bust := by
            unfold resolvableState at hresolvable
            dsimp only at hresolvable
            split_ifs at hresolvable <;> simp_all
          obtain ⟨⟨advanced, complete⟩, hadvance, h⟩ := ApiError.bind_eq_ok.mp h
          have hadvanced := hgame.advance hends hadvance
          cases complete with
          | true =>
              obtain ⟨rfl, rfl⟩ := Prod.mk.inj (Except.ok.inj h)
              exact hadvanced
          | false => exact ih hadvanced h

theorem drawDealerCards_spec {config : BlackjackConfig} {dealerCards rest cards : List BlackjackCard}
    {drawn : Nat} (h : drawDealerCards config dealerCards rest = .ok (cards, drawn)) :
    cards = dealerCards ++ rest.take drawn ∧ drawn ≤ rest.length := by
  induction rest generalizing dealerCards cards drawn with
  | nil =>
      unfold drawDealerCards at h
      split_ifs at h
      obtain ⟨rfl, rfl⟩ := Prod.mk.inj (Except.ok.inj h)
      simp
  | cons card rest ih =>
      unfold drawDealerCards at h
      split_ifs at h
      · obtain ⟨⟨cards', drawn'⟩, hrest, h⟩ := ApiError.map_eq_ok.mp h
        obtain ⟨rfl, rfl⟩ := Prod.mk.inj h
        obtain ⟨rfl, hle⟩ := ih hrest
        simpa using hle
      · obtain ⟨rfl, rfl⟩ := Prod.mk.inj (Except.ok.inj h)
        simp

theorem HandsPlayed.settle (hgame : HandsPlayed game) (h : playDealerHand game = .ok next) :
    Dealt next := by
  obtain ⟨⟨cards, drawn⟩, hdrawn, rfl⟩ := ApiError.map_eq_ok.mp h
  obtain ⟨rfl, hle⟩ := drawDealerCards_spec hdrawn
  have hdealt := hgame.dealt
  have hin : game.nextCardIndex + drawn ≤ game.deck.length := by
    rw [List.length_drop] at hle
    have := hdealt.drawn
    omega
  refine hdealt.draw ((game.deck.drop game.nextCardIndex).take drawn) rfl rfl hin List.take_add ?_
    hdealt.stakes hdealt.hands
  simp [BlackjackGame.tableCards]

end Ends

section Rules

variable {readUInt32BE : String → Nat} {game : BlackjackGame}

theorem readMaxSplitHands_range (configured : Int) :
    2 ≤ readMaxSplitHands configured ∧ readMaxSplitHands configured ≤ 8 := by
  unfold readMaxSplitHands
  omega

theorem FromSeed.perm {request : StartRequest} (hlegal : FromSeed readUInt32BE request) :
    request.deck.Perm createStandardDeck := by
  obtain ⟨_, _, hdeck⟩ := hlegal.deck
  exact perm_of_drawBlackjackDeck hdeck

theorem handsInPlay_initial {store : BlackjackStore} {request : StartRequest} {stakeAmount : Int}
    {p1 d1 p2 d2 : BlackjackCard} {rest : List BlackjackCard}
    (hlegal : FromSeed readUInt32BE request) (hdeck : request.deck = p1 :: d1 :: p2 :: d2 :: rest) :
    HandsInPlay (initialGame store request stakeAmount [p1, p2] [d1, d2]) := by
  obtain ⟨configured, hhands⟩ := hlegal.hands
  obtain ⟨hmin, hmax⟩ := readMaxSplitHands_range configured
  have hvalues := And.intro (hardValue_le p1) (hardValue_le p2)
  have hvalues' := And.intro (hardValue_le d1) (hardValue_le d2)
  have hcount : 1 ≤ request.config.maxSplitHands := by omega
  have hfew : request.config.maxSplitHands ≤ 8 := by omega
  constructor
  · constructor
    · refine ⟨hlegal.perm, ?_, ?_, by simp [initialGame], hcount, hfew⟩
      · simp only [initialGame, BlackjackGame.tableCards, hdeck, List.perm_iff_count]
        intro other
        simp only [List.flatMap_cons, List.flatMap_nil, List.count_append, List.count_cons,
          List.count_nil, List.take_succ_cons, List.take_zero]
        omega
      · simp [initialGame, hdeck]
    · constructor
      · intro hand hhand
        rw [List.mem_singleton.mp hhand]
        simp only [hardTotal_cons, hardTotal_nil]
        omega
      · simp only [initialGame, hardTotal_cons, hardTotal_nil]
        omega
  · exact ⟨[], _, [], rfl, rfl, rfl, by simp, by simp⟩

theorem handsInPlay_wait (hgame : HandsInPlay game) (config : PoolSystemConfig) (now : Int) :
    HandsInPlay (syncBlackjackTurnDeadline config game now) :=
  ⟨hgame.update game.status game.payoutAmount _ game.activeHandIndex, hgame.turn⟩

theorem handsInPlay_toGameState (hgame : HandsInPlay game) (hactive : game.status = .active) :
    HandsInPlay game.toGameState := by
  obtain ⟨before, hand, after, hhands, hindex, hrest⟩ := hgame.turn
  have hread : game.toGameState.activeHandIndex = some before.length := by
    simp [BlackjackGame.toGameState, hactive, hindex, hhands]
  exact ⟨hgame.update game.status game.payoutAmount game.turnDeadlineAt _, before, hand, after, hhands,
    hread, hrest⟩

theorem handRules :
    GameRules (FromSeed readUInt32BE) HandsInPlay HandsPlayed HandsStored where
  deal _ _ _ _ _ _ _ _ hlegal hdeck _ := handsInPlay_initial hlegal hdeck
  wait config now hgame :=
    let hwait := handsInPlay_wait hgame config now
    ⟨hwait.dealt, fun _ => hwait⟩
  natural config now hgame hstatus :=
    ⟨((handsInPlay_wait hgame config now).update _ _ none none).dealt,
      fun hactive => absurd hactive hstatus⟩
  read hrow hactive := handsInPlay_toGameState (hrow.inPlay hactive) hactive
  hit hgame hindex hhand havailable hdraw := hgame.hit hindex hhand havailable hdraw
  double hgame hindex hhand havailable hdraw := hgame.double hindex hhand havailable hdraw
  split hgame hindex hhand havailable hcards hdraw hdraw' :=
    hgame.split hindex hhand havailable hcards hdraw hdraw'
  advance hgame hstate hadvance := hgame.advance hstate hadvance
  resolve hgame hresolve := hgame.resolve hresolve
  settle hgame hplayed hstatus :=
    let hdealt := hgame.settle hplayed
    ⟨⟨hdealt.deck, hdealt.cards, hdealt.drawn, hdealt.stakes, hdealt.hands, hdealt.fewHands⟩,
      fun hactive => absurd hactive hstatus⟩

end Rules

end RewardSystem.Blackjack
