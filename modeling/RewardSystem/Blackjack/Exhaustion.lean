import RewardSystem.Blackjack.Hands

/-!
# The deck lasts

Eight hands and the dealer cannot use up the 52 cards, so no step fails for want of a card.
-/

namespace RewardSystem.Blackjack

section Exhaustion

variable {α β : Type}

def Exhausts (x : Except ApiError α) : Prop :=
  x = .error deckExhausted

theorem Exhausts.bind {x : Except ApiError α} {f : α → Except ApiError β}
    (h : Exhausts (x >>= f)) : Exhausts x ∨ ∃ a, x = .ok a ∧ Exhausts (f a) := by
  cases x with
  | error error => exact .inl (congrArg Except.error (Except.error.inj h))
  | ok a => exact .inr ⟨a, rfl, h⟩

theorem Exhausts.of_map {x : Except ApiError α} {f : α → β} (h : Exhausts (x.map f)) :
    Exhausts x := by
  cases x with
  | error error => exact congrArg Except.error (Except.error.inj h)
  | ok a => cases h

theorem not_exhausts_ok (a : α) : ¬Exhausts (.ok a : Except ApiError α) := nofun

theorem not_exhausts_throwIf (condition : Prop) [Decidable condition] (message : String) :
    ¬Exhausts (ApiError.throwIf condition (.conflict message)) := by
  unfold ApiError.throwIf
  split_ifs <;> exact nofun

variable {game : BlackjackGame} {store : BlackjackStore} {wallet : Wallet} {now : Int}
  {config : PoolSystemConfig} {checks : SurroundingChecks}

theorem not_exhausts_advancePlayerHand (state : HandProgress) :
    ¬Exhausts (advancePlayerHand game state) := by
  unfold advancePlayerHand
  split
  · dsimp only
    split <;> exact nofun
  · simp [Exhausts, handMissing, deckExhausted]

theorem not_exhausts_advanceResolvableHandsIn (balance : Int) (hands : Nat) :
    ¬Exhausts (advanceResolvableHandsIn balance hands game) := by
  induction hands generalizing game with
  | zero => exact not_exhausts_ok _
  | succ hands ih =>
      unfold advanceResolvableHandsIn
      split
      · exact not_exhausts_ok _
      · split
        · exact not_exhausts_ok _
        · intro h
          rcases h.bind with h | ⟨⟨next, _ | _⟩, _, h⟩
          · exact not_exhausts_advancePlayerHand _ h
          · exact ih h
          · exact not_exhausts_ok _ h

theorem hardTotal_of_exhausts {blackjackConfig : BlackjackConfig}
    {dealerCards rest : List BlackjackCard}
    (h : Exhausts (drawDealerCards blackjackConfig dealerCards rest)) :
    hardTotal (dealerCards ++ rest) ≤ 17 := by
  induction rest generalizing dealerCards with
  | nil =>
      unfold drawDealerCards at h
      split_ifs at h with hhit
      · have hscore := hardTotal_le_score dealerCards
        simp only [shouldDealerHit, Bool.or_eq_true, Bool.and_eq_true, decide_eq_true_eq] at hhit
        rw [List.append_nil]
        omega
      · exact (not_exhausts_ok _ h).elim
  | cons card rest ih =>
      unfold drawDealerCards at h
      split_ifs at h with hhit
      · rw [← List.singleton_append, ← List.append_assoc]
        exact ih h.of_map
      · exact (not_exhausts_ok _ h).elim

theorem HandsPlayed.not_exhausts_playDealerHand (hgame : HandsPlayed game) :
    ¬Exhausts (playDealerHand game) := by
  intro h
  have hrest := hardTotal_of_exhausts h.of_map
  have hdrawn := hgame.drawn_le
  have hdeck : hardTotal game.deck = 340 := by
    rw [hardTotal_perm hgame.dealt.deck, hardTotal_standardDeck]
  rw [← List.take_append_drop game.nextCardIndex game.deck, hardTotal_append] at hdeck
  rw [hardTotal_append] at hrest
  omega

theorem not_exhausts_takeNextCard (h : game.nextCardIndex < game.deck.length) :
    ¬Exhausts (takeNextCard game) := by
  unfold takeNextCard
  rw [List.getElem?_eq_getElem h]
  exact not_exhausts_ok _

theorem HandsPlayed.not_exhausts_settle (hgame : HandsPlayed game) :
    ¬Exhausts (settleResolvedHands store game wallet) := by
  intro h
  rcases h.bind with h | ⟨_, _, h⟩
  · exact hgame.not_exhausts_playDealerHand h
  · exact not_exhausts_ok _ h

theorem HandsInPlay.not_exhausts_finalize (hgame : HandsInPlay game) :
    ¬Exhausts (finalizeBlackjackProgress config store game wallet now) := by
  intro h
  rcases h.bind with h | ⟨⟨advanced, done⟩, hresolve, h⟩
  · exact not_exhausts_advanceResolvableHandsIn _ _ h
  · have hadvanced := hgame.resolve hresolve
    cases done with
    | true => exact hadvanced.not_exhausts_settle h
    | false => exact not_exhausts_ok _ h

theorem HandsInPlay.not_exhausts_advance (hgame : HandsInPlay game) {state : HandProgress}
    (hstate : state = .stood ∨ state = .bust) :
    ¬Exhausts (do
      let (advanced, allHandsComplete) ← advancePlayerHand game state
      if allHandsComplete then settleResolvedHands store advanced wallet
      else finalizeBlackjackProgress config store advanced wallet now) := by
  intro h
  rcases h.bind with h | ⟨⟨advanced, done⟩, hadvance, h⟩
  · exact not_exhausts_advancePlayerHand _ h
  · have hadvanced := hgame.advance hstate hadvance
    cases done with
    | true => exact hadvanced.not_exhausts_settle h
    | false => exact hadvanced.not_exhausts_finalize h

theorem HandsInPlay.not_exhausts_stand (hgame : HandsInPlay game) :
    ¬Exhausts (applyBlackjackStandAction config store game wallet now) :=
  hgame.not_exhausts_advance (.inl rfl)

variable {index : Nat} {hand : PlayerHand} {balance : Int}

theorem HandsInPlay.not_exhausts_hit (hgame : HandsInPlay game)
    (hindex : game.activeHandIndex = some index) (hhand : game.playerHands[index]? = some hand)
    (havailable : .hit ∈ getAvailableActions game balance) :
    ¬Exhausts (applyHitAction config store game wallet index hand now) := by
  intro h
  rcases h.bind with h | ⟨⟨card, drawn⟩, hdraw, h⟩
  · exact not_exhausts_takeNextCard hgame.next_lt h
  · have hhit := hgame.hit hindex hhand havailable hdraw
    dsimp only at h
    split_ifs at h
    · exact hhit.not_exhausts_finalize h
    · exact not_exhausts_ok _ h

theorem not_exhausts_ensurePoolCanCover (additionalStake : Int) (maximumPayout : ℚ) :
    ¬Exhausts (ensurePoolCanCover config store additionalStake maximumPayout) :=
  not_exhausts_throwIf _ _

theorem not_exhausts_applyStakeDebit (userId : Nat) (stakeAmount : Int) :
    ¬Exhausts (applyStakeDebit store userId wallet stakeAmount) := by
  intro h
  rcases h.bind with h | ⟨_, _, h⟩
  · exact not_exhausts_throwIf _ _ h
  · exact not_exhausts_ok _ h

theorem HandsInPlay.kyc_of_double (hgame : HandsInPlay game)
    (hindex : game.activeHandIndex = some index) (hhand : game.playerHands[index]? = some hand)
    (havailable : .double ∈ getAvailableActions game balance)
    (h : Exhausts (applyDoubleAction config checks store game wallet index hand now)) :
    Exhausts checks.kycStakeAllowed := by
  rcases h.bind with h | ⟨_, _, h⟩
  · exact h
  rcases h.bind with h | ⟨_, _, h⟩
  · exact (not_exhausts_throwIf _ _ h).elim
  rcases h.bind with h | ⟨_, _, h⟩
  · exact (not_exhausts_ensurePoolCanCover _ _ h).elim
  rcases h.bind with h | ⟨_, _, h⟩
  · exact (not_exhausts_applyStakeDebit _ _ h).elim
  rcases h.bind with h | ⟨⟨card, drawn⟩, hdraw, h⟩
  · exact (not_exhausts_takeNextCard (by exact hgame.next_lt) h).elim
  · have hdoubled := hgame.double hindex hhand havailable hdraw
    have hstate : ∀ bust : Bool, (if bust then HandProgress.bust else .stood) = .stood ∨
        (if bust then HandProgress.bust else .stood) = .bust := by decide
    exact (hdoubled.not_exhausts_advance (hstate _) h).elim

theorem HandsInPlay.kyc_of_split (hgame : HandsInPlay game)
    (hindex : game.activeHandIndex = some index) (hhand : game.playerHands[index]? = some hand)
    (havailable : .split ∈ getAvailableActions game balance)
    (h : Exhausts (applySplitAction config checks store game wallet index hand now)) :
    Exhausts checks.kycStakeAllowed := by
  rcases h.bind with h | ⟨_, _, h⟩
  · exact h
  rcases h.bind with h | ⟨_, _, h⟩
  · exact (not_exhausts_ensurePoolCanCover _ _ h).elim
  rcases h.bind with h | ⟨_, _, h⟩
  · exact (not_exhausts_applyStakeDebit _ _ h).elim
  split at h
  · rename_i left right more hcards
    rcases h.bind with h | ⟨⟨leftDraw, drawn⟩, hdraw, h⟩
    · exact (not_exhausts_takeNextCard (by exact hgame.next_lt) h).elim
    rcases h.bind with h | ⟨⟨rightDraw, drawn'⟩, hdraw', h⟩
    · obtain rfl := takeNextCard_eq_ok hdraw
      exact (not_exhausts_takeNextCard (by exact hgame.second_lt) h).elim
    · have hsplit := hgame.split hindex hhand havailable hcards hdraw hdraw'
      exact (hsplit.not_exhausts_finalize h).elim
  · simp [Exhausts, deckExhausted] at h

end Exhaustion

def Operation.ChecksAnswer (error : ApiError) : Operation → Prop
  | .start checks _ _ | .act checks _ _ _ _ =>
      checks.kycStakeAllowed = .error error ∨ checks.walletLedgerInvariant = .error error
  | _ => False

/-- A start deals a deck of a seed, under a configuration that was read. -/
def Operation.DealsFromSeed (readUInt32BE : String → Nat) : Operation → Prop
  | .start _ request _ => FromSeed readUInt32BE request
  | _ => True

section Steps

variable {readUInt32BE : String → Nat} {config : PoolSystemConfig} {store : BlackjackStore}
  {checks : SurroundingChecks} {now : Int}

theorem length_standardDeck : createStandardDeck.length = 52 := rfl

theorem not_exhausts_resolveInitialOutcome {game : BlackjackGame} :
    ¬Exhausts (resolveInitialOutcome game) := by
  unfold resolveInitialOutcome
  split
  · simp [Exhausts, deckExhausted]
  · dsimp only
    split_ifs <;> exact not_exhausts_ok _

theorem exhausts_start {request : StartRequest} (hlegal : FromSeed readUInt32BE request)
    (h : Exhausts (startResolvedBlackjack config checks store request now)) :
    (Operation.start checks request now).ChecksAnswer deckExhausted := by
  unfold startResolvedBlackjack at h
  split at h
  · simp [Exhausts, deckExhausted] at h
  rename_i wallet _
  rcases h.bind with h | ⟨_, _, h⟩
  · exact (not_exhausts_throwIf _ _ h).elim
  rcases h.bind with h | ⟨baseStakeAmount, _, h⟩
  · unfold resolveStakeAmount at h
    split at h
    · split_ifs at h
      · simp [Exhausts, deckExhausted] at h
      · exact (not_exhausts_ok _ h).elim
    · simp [Exhausts, deckExhausted] at h
  rcases h.bind with h | ⟨_, _, h⟩
  · exact (not_exhausts_throwIf _ _ h).elim
  rcases h.bind with h | ⟨_, _, h⟩
  · exact .inl h
  rcases h.bind with h | ⟨_, _, h⟩
  · exact (not_exhausts_throwIf _ _ h).elim
  rcases h.bind with h | ⟨_, _, h⟩
  · exact (not_exhausts_ensurePoolCanCover _ _ h).elim
  split at h
  · rename_i p1 d1 p2 d2 rest _
    rcases h.bind with h | ⟨_, _, h⟩
    · exact (not_exhausts_applyStakeDebit _ _ h).elim
    rcases h.bind with h | ⟨initialStatus, _, h⟩
    · exact (not_exhausts_resolveInitialOutcome h).elim
    rcases h.bind with h | ⟨_, _, h⟩
    · exact .inr h
    split_ifs at h <;> exact (not_exhausts_ok _ h).elim
  · rename_i hshort
    have hlength := hlegal.perm.length_eq
    rw [length_standardDeck] at hlength
    match hdeck : request.deck with
    | p1 :: d1 :: p2 :: d2 :: rest => exact (hshort p1 d1 p2 d2 rest hdeck).elim
    | [] | [_] | [_, _] | [_, _, _] => simp [hdeck] at hlength

theorem exhausts_act {userId gameId : Nat} {action : BlackjackAction}
    (hstored : ∀ game ∈ store.games, HandsStored game)
    (h : Exhausts (actOnBlackjack config checks store userId gameId action now)) :
    (Operation.act checks userId gameId action now).ChecksAnswer deckExhausted := by
  unfold actOnBlackjack at h
  split at h
  · simp [Exhausts, deckExhausted] at h
  rename_i wallet _
  rcases h.bind with h | ⟨_, _, h⟩
  · unfold ApiError.throwIf at h
    split_ifs at h <;> simp [Exhausts, deckExhausted] at h
  split at h
  · simp [Exhausts, deckExhausted] at h
  rename_i row hfind
  obtain ⟨hmem, _, hactive⟩ := mem_activeGames (List.mem_of_find?_eq_some hfind)
  have hplay := handsInPlay_toGameState ((hstored row hmem).inPlay hactive) hactive
  rcases h.bind with h | ⟨_, _, h⟩
  · exact (not_exhausts_throwIf _ _ h).elim
  split_ifs at h
  · exact (hplay.not_exhausts_stand h).elim
  rcases h.bind with h | ⟨_, havailable, h⟩
  · exact (not_exhausts_throwIf _ _ h).elim
  have havailable : action ∈ getAvailableActions row.toGameState wallet.withdrawableBalance := by
    simpa using havailable
  split at h
  · rename_i index hand hindex hhand
    have hget := getElem?_of_active hindex hhand
    rcases h.bind with h | ⟨_, _, h⟩
    · cases action with
      | hit => exact (hplay.not_exhausts_hit hindex hget havailable h).elim
      | stand => exact (hplay.not_exhausts_stand h).elim
      | double => exact .inl (hplay.kyc_of_double hindex hget havailable h)
      | split => exact .inl (hplay.kyc_of_split hindex hget havailable h)
    rcases h.bind with h | ⟨_, _, h⟩
    · exact .inr h
    · exact (not_exhausts_ok _ h).elim
  · simp [Exhausts, handMissing, deckExhausted] at h

theorem not_exhausts_timeout {userId : Nat} (hwf : WellFormed store)
    (hstored : ∀ game ∈ store.games, HandsStored game) :
    ¬Exhausts (processExpiredBlackjackTurnForUser config store userId now) := by
  intro h
  unfold processExpiredBlackjackTurnForUser at h
  split at h
  · exact not_exhausts_ok _ h
  · dsimp only at h
    split at h
    · exact not_exhausts_ok _ h
    · rename_i game hfind
      obtain ⟨row, hmem, _, hactive, _, rfl⟩ := expiredRow_spec hwf hfind
      exact (handsInPlay_toGameState ((hstored row hmem).inPlay hactive) hactive).not_exhausts_stand h

/-- **The deck is never used up.** Only a check from outside could answer so. -/
theorem checksAnswer_of_exhausts {op : Operation} (hwf : WellFormed store)
    (hstored : ∀ game ∈ store.games, HandsStored game) (hlegal : op.DealsFromSeed readUInt32BE)
    (h : step config store op = .error deckExhausted) : op.ChecksAnswer deckExhausted := by
  cases op with
  | start checks request now => exact exhausts_start hlegal h
  | act checks userId gameId action now => exact exhausts_act hstored h
  | timeout userId now => exact not_exhausts_timeout hwf hstored h
  | changeWallet userId wallet => cases h

end Steps

end RewardSystem.Blackjack
