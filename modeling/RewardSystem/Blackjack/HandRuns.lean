import RewardSystem.Blackjack.Exhaustion
import RewardSystem.Blackjack.Money

/-!
# The hands of every game of a run

Over a run the stake of a game is what its steps have taken from its user, and its deck is the one
it was started with.
-/

namespace RewardSystem.Blackjack

open Transition

/-- `wageredAmount` grows by the stakes that are taken from the user, and only by them. -/
def BlackjackStore.wagered (store : BlackjackStore) (userId : Nat) : Int :=
  ((store.wallets userId).map Wallet.wageredAmount).getD 0

inductive GameChange (store : BlackjackStore) (op : Operation) (store' : BlackjackStore) : Prop
  | idle (hgames : store'.games = store.games)
      (hidle : ∀ id, op.gameTouched store = some id → store' = store)
  | played (row next : BlackjackGame) (hrow : store.selectGame row.id = some row)
      (htouched : op.gameTouched store = some row.id)
      (hgames : store'.games = Keyed.modify BlackjackGame.id row.id (fun _ => next) store.games)
      (hid : next.id = row.id) (huser : next.userId = row.userId) (hdeck : next.deck = row.deck)
      (hstake : next.totalStake =
        row.totalStake + (store'.wagered row.userId - store.wagered row.userId))
  | started (checks : SurroundingChecks) (request : StartRequest) (now : Int) (next : BlackjackGame)
      (hop : op = .start checks request now) (hgames : store'.games = store.games ++ [next])
      (hid : next.id = store.nextGameId) (huser : next.userId = request.userId)
      (hdeck : next.deck = request.deck)
      (hstake : next.totalStake = store'.wagered next.userId - store.wagered next.userId)

section Changes

variable {config : PoolSystemConfig} {store store' debited : BlackjackStore} {op : Operation}
  {wallet : Wallet} {userId : Nat}

theorem deckRules {P : Nat → List BlackjackCard → Prop} {Legal : StartRequest → Prop}
    (hdeal : ∀ request, Legal request → ∀ id, P id request.deck) :
    GameRules Legal (fun game => P game.id game.deck) (fun game => P game.id game.deck)
      fun game => P game.id game.deck where
  deal _ _ _ _ _ _ _ _ hlegal _ _ := hdeal _ hlegal _
  wait _ _ hgame := hgame
  natural _ _ hgame _ := hgame
  read hrow _ := hrow
  hit hgame _ _ _ hdraw := by
    obtain rfl := takeNextCard_eq_ok hdraw
    exact hgame
  double hgame _ _ _ hdraw := by
    obtain rfl := takeNextCard_eq_ok hdraw
    exact hgame
  split hgame _ _ _ _ hdraw hdraw' := by
    obtain rfl := takeNextCard_eq_ok hdraw'
    obtain rfl := takeNextCard_eq_ok hdraw
    exact hgame
  advance hgame _ hadvance := by
    obtain ⟨_, _, rfl⟩ := sameButHands_advance hadvance
    split <;> exact hgame
  resolve hgame hresolve := by
    obtain ⟨_, _, rfl⟩ := sameButHands_resolve hresolve
    split <;> exact hgame
  settle hgame hplayed _ := by
    obtain ⟨⟨_, _⟩, _, rfl⟩ := ApiError.map_eq_ok.mp hplayed
    exact hgame

theorem wagered_of_some (hwallet : store.wallets userId = some wallet) :
    store.wagered userId = wallet.wageredAmount := by
  rw [BlackjackStore.wagered, hwallet]
  rfl

theorem wagered_applyPayoutCredit (hwallet : store.wallets userId = some wallet)
    (payoutAmount : ℚ) :
    (applyPayoutCredit store userId wallet payoutAmount).wagered userId = wallet.wageredAmount := by
  unfold applyPayoutCredit
  split_ifs
  · exact wagered_of_some hwallet
  · simp [BlackjackStore.wagered, BlackjackStore.applyPrizePoolDelta, BlackjackStore.setWallet]

theorem gameChange_of_step (hwf : WellFormed store) (h : step config store op = .ok store') :
    GameChange store op store' := by
  have hturn : Turn (fun game =>
      (∃ row ∈ store.games, row.id = game.id ∧ row.deck = game.deck) ∨
        ∃ checks request now, op = .start checks request now ∧ game.deck = request.deck)
      store op store' := by
    refine turn_of_step (deckRules
      (P := fun id deck => (∃ row ∈ store.games, row.id = id ∧ row.deck = deck) ∨
        ∃ checks request now, op = .start checks request now ∧ deck = request.deck)
      (fun request hlegal _ => .inr hlegal)) hwf ?_ ?_ h
    · exact fun game hgame => .inl ⟨game, hgame, rfl, rfl⟩
    · exact fun checks request now hop => ⟨checks, request, now, hop, rfl⟩
  -- the deck of a game that goes on is the deck of its row
  have hsame : ∀ (row next : BlackjackGame), store.selectGame row.id = some row →
      next.id = row.id → (∀ checks request now, op ≠ .start checks request now) →
      ((∃ earlier ∈ store.games, earlier.id = next.id ∧ earlier.deck = next.deck) ∨
        ∃ checks request now, op = .start checks request now ∧ next.deck = request.deck) →
      next.deck = row.deck := by
    intro row next hrow hid hstart hdeck
    obtain ⟨earlier, hearlier, hearlierId, hdeck⟩ | ⟨checks, request, now, hop, _⟩ := hdeck
    · have hlookup := Keyed.lookup_of_mem hwf.ids hearlier
      rw [hearlierId, hid] at hlookup
      obtain rfl := Option.some.inj (hlookup.symm.trans hrow)
      exact hdeck.symm
    · exact (hstart checks request now hop).elim
  cases hturn with
  | idle hstore _ _ _ => exact .idle (by rw [hstore]) fun _ _ => hstore
  | otherFeature userId wallet hop hstore =>
      exact .idle (by rw [hstore]; rfl) (by simp [hop, Operation.gameTouched])
  | played row wallet hrow _ hwallet _ htouched _ hstart hstores =>
      obtain ⟨next, hdeck, hcontinues, hstore⟩ := hstores
      refine .played row next hrow htouched ?_ hcontinues.id hcontinues.userId
        (hsame row next hrow hcontinues.id hstart hdeck) ?_
      · rw [hstore, applyPayoutCredit_games, BlackjackStore.persistGameState, hcontinues.id]
      · rw [hcontinues.totalStake, hstore, wagered_applyPayoutCredit (by exact hwallet),
          wagered_of_some hwallet]
        omega
  | raised row wallet hrow _ hwallet _ htouched hstart hraises =>
      obtain ⟨debited, hdebit, next, hdeck, hcontinues, hstore⟩ := hraises
      have hid : next.id = row.id := hcontinues.id
      have htotal : next.totalStake = row.totalStake + op.stakeDebited store := hcontinues.totalStake
      refine .played row next hrow htouched ?_ hid hcontinues.userId
        (hsame row next hrow hid hstart hdeck) ?_
      · rw [hstore, applyPayoutCredit_games, BlackjackStore.persistGameState, hid,
          (applyStakeDebit_eq_ok hdebit).1]
      · have hdebited := applyStakeDebit_wallet hdebit
        have hwallet' : (debited.persistGameState next).wallets row.userId =
            some (debitedWallet wallet (op.stakeDebited store)) := hdebited
        rw [htotal, hstore, wagered_applyPayoutCredit hwallet', wagered_of_some hwallet,
          debitedWallet]
        dsimp only
        omega
  | started checks request now game next wallet debited hop hplayer hid hwallet _ hdebit hdeck
      hcontinues hstore =>
      have hnew := not_mem_of_nextGameId hwf
      have hnextId : next.id = store.nextGameId := hcontinues.id.trans hid
      have huser : request.userId = game.userId := by
        rw [hop] at hplayer
        exact Option.some.inj hplayer
      refine .started checks request now next hop ?_ hnextId (hcontinues.userId.trans huser.symm) ?_
        ?_
      · have hnewGame : ∀ earlier ∈ store.games, earlier.id ≠ game.id := by rwa [hid]
        rw [hstore, applyPayoutCredit_games, BlackjackStore.persistGameState, hcontinues.id,
          (applyStakeDebit_eq_ok hdebit).1, modify_append_new hnewGame]
      · obtain ⟨earlier, hearlier, hearlierId, _⟩ | ⟨_, _, _, hop', hdeck⟩ := hdeck
        · exact (hnew earlier hearlier (hearlierId.trans hnextId)).elim
        · rw [hop] at hop'
          cases hop'
          exact hdeck
      · have hdebited := applyStakeDebit_wallet hdebit
        have hwallet' : (debited.persistGameState next).wallets game.userId =
            some (debitedWallet wallet game.totalStake) := hdebited
        rw [hcontinues.totalStake, hcontinues.userId, hstore, wagered_applyPayoutCredit hwallet',
          wagered_of_some hwallet, debitedWallet]
        dsimp only
        omega

end Changes

section Games

variable {store store' : BlackjackStore} {op : Operation} {id userId : Nat} {row : BlackjackGame}

theorem GameChange.kept (hchange : GameChange store op store')
    (hrow : store.selectGame id = some row) :
    ∃ row', store'.selectGame id = some row' ∧ row'.userId = row.userId ∧ row'.deck = row.deck := by
  unfold BlackjackStore.selectGame at hrow ⊢
  cases hchange with
  | idle hgames _ => exact ⟨row, by rw [hgames]; exact hrow, rfl, rfl⟩
  | played old next hold _ hgames hid huser hdeck _ =>
      have hf : ∀ other : BlackjackGame, other.id = old.id → next.id = old.id := fun _ _ => hid
      rw [hgames]
      by_cases hsame : id = old.id
      · rw [hsame] at hrow ⊢
        obtain rfl := Option.some.inj (hold.symm.trans hrow)
        exact ⟨next, Keyed.lookup_modify_self hf hrow, huser, hdeck⟩
      · exact ⟨row, (Keyed.lookup_modify_ne hf hsame).trans hrow, rfl, rfl⟩
  | started _ _ _ next _ hgames _ _ _ _ =>
      refine ⟨row, ?_, rfl, rfl⟩
      rw [hgames, Keyed.lookup, List.find?_append]
      exact Option.or_eq_some_iff.mpr (.inl hrow)

theorem GameChange.origin (hchange : GameChange store op store')
    (hrow : store'.selectGame id = some row) :
    (∃ row', store.selectGame id = some row' ∧ row'.userId = row.userId ∧ row'.deck = row.deck) ∨
      ∃ checks request now, op = .start checks request now ∧ store.nextGameId = id ∧
        request.userId = row.userId ∧ row.deck = request.deck := by
  unfold BlackjackStore.selectGame at hrow ⊢
  cases hchange with
  | idle hgames _ => exact .inl ⟨row, by rwa [hgames] at hrow, rfl, rfl⟩
  | played old next hold _ hgames hid huser hdeck _ =>
      left
      have hf : ∀ other : BlackjackGame, other.id = old.id → next.id = old.id := fun _ _ => hid
      rw [hgames] at hrow
      by_cases hsame : id = old.id
      · rw [hsame] at hrow ⊢
        have hnext := (Keyed.lookup_modify_self hf hold).symm.trans hrow
        obtain rfl := Option.some.inj hnext
        exact ⟨old, hold, huser.symm, hdeck.symm⟩
      · exact ⟨row, (Keyed.lookup_modify_ne hf hsame).symm.trans hrow, rfl, rfl⟩
  | started checks request now next hop hgames hid huser hdeck _ =>
      rw [hgames, Keyed.lookup, List.find?_append] at hrow
      obtain hrow | ⟨_, hrow⟩ := Option.or_eq_some_iff.mp hrow
      · exact .inl ⟨row, hrow, rfl, rfl⟩
      · obtain rfl := List.mem_singleton.mp (List.mem_of_find?_eq_some hrow)
        have hrowId : row.id = id := by simpa using List.find?_some hrow
        exact .inr ⟨checks, request, now, hop, hid.symm.trans hrowId, huser.symm, hdeck⟩

/-- The stake of a game, nothing before it is started. -/
def totalStakeOf (store : BlackjackStore) (id : Nat) : Int :=
  ((store.selectGame id).map BlackjackGame.totalStake).getD 0

/-- What a step takes from a user for a game. -/
def stakeDebit (userId id : Nat) (e : Event BlackjackStore Operation) : Int :=
  if e.label.gameTouched e.before = some id then
    e.after.wagered userId - e.before.wagered userId
  else 0

theorem totalStakeOf_step (hwf : WellFormed store) (hchange : GameChange store op store')
    (howner : ∀ row, store'.selectGame id = some row → row.userId = userId) :
    totalStakeOf store' id = totalStakeOf store id + stakeDebit userId id ⟨store, op, store'⟩ := by
  unfold totalStakeOf stakeDebit BlackjackStore.selectGame
  dsimp only
  cases hchange with
  | idle hgames hidle =>
      split_ifs with htouched
      · rw [hidle id htouched]
        omega
      · rw [hgames, add_zero]
  | played old next hold htouched hgames hid huser _ hstake =>
      have hf : ∀ other : BlackjackGame, other.id = old.id → next.id = old.id := fun _ _ => hid
      by_cases hsame : id = old.id
      · have hnext : store'.selectGame old.id = some next := by
          rw [BlackjackStore.selectGame, hgames]
          exact Keyed.lookup_modify_self hf hold
        have howned : old.userId = userId := huser.symm.trans (howner next (hsame ▸ hnext))
        unfold BlackjackStore.selectGame at hold hnext
        rw [hsame, if_pos htouched, hold, hnext, ← howned]
        exact hstake
      · have hother : ¬op.gameTouched store = some id := by
          rw [htouched]
          exact fun h => hsame (Option.some.inj h).symm
        rw [if_neg hother, hgames, Keyed.lookup_modify_ne hf hsame, add_zero]
  | started checks request now next hop hgames hid huser _ hstake =>
      have htouched : op.gameTouched store = some next.id := by rw [hop, hid]; rfl
      have hnone : Keyed.lookup BlackjackGame.id next.id store.games = none := by
        rw [Keyed.lookup_eq_none, hid]
        exact not_mem_of_nextGameId hwf
      by_cases hsame : next.id = id
      · have hnext : store'.selectGame id = some next := by
          rw [BlackjackStore.selectGame, hgames, ← hsame]
          exact Keyed.lookup_append_self hnone
        have howned : next.userId = userId := howner next hnext
        unfold BlackjackStore.selectGame at hnext
        rw [if_pos (hsame ▸ htouched), hnext, ← hsame, hnone, ← howned]
        simpa using hstake
      · have hother : ¬op.gameTouched store = some id := by
          rw [htouched]
          exact fun h => hsame (Option.some.inj h)
        rw [if_neg hother, hgames, Keyed.lookup_append_of_ne hsame, add_zero]

end Games

section Runs

variable {config : PoolSystemConfig} {store t : BlackjackStore} {id userId : Nat}
  {events : List (Event BlackjackStore Operation)} {row : BlackjackGame}

theorem wellFormed_of_step {op : Operation} {store' : BlackjackStore} (hwf : WellFormed store)
    (h : step config store op = .ok store') : WellFormed store' :=
  wellFormed_step hwf (step_effect hwf h)

theorem kept_of_run (hwf : WellFormed store) (hrun : Run (Accepts (step config)) store events t)
    (hrow : store.selectGame id = some row) :
    ∃ row', t.selectGame id = some row' ∧ row'.userId = row.userId ∧ row'.deck = row.deck := by
  induction hrun generalizing row with
  | nil => exact ⟨row, hrow, rfl, rfl⟩
  | @cons s m t op events hstep hrest ih =>
      obtain ⟨row', hrow', huser, hdeck⟩ := (gameChange_of_step hwf hstep).kept hrow
      obtain ⟨last, hlast, huser', hdeck'⟩ := ih (wellFormed_of_step hwf hstep) hrow'
      exact ⟨last, hlast, huser'.trans huser, hdeck'.trans hdeck⟩

theorem totalStakeOf_run (hwf : WellFormed store)
    (hrun : Run (Accepts (step config)) store events t)
    (howner : ∀ row, t.selectGame id = some row → row.userId = userId) :
    totalStakeOf t id = totalStakeOf store id + (events.map (stakeDebit userId id)).sum := by
  induction hrun with
  | nil => simp
  | @cons s m t op events hstep hrest ih =>
      have hm := wellFormed_of_step hwf hstep
      have howner' : ∀ row, m.selectGame id = some row → row.userId = userId := by
        intro row hrow
        obtain ⟨last, hlast, huser, _⟩ := kept_of_run hm hrest hrow
        exact huser.symm.trans (howner last hlast)
      have hhead := totalStakeOf_step hwf (gameChange_of_step hwf hstep) howner'
      calc totalStakeOf t id
          = totalStakeOf m id + (events.map (stakeDebit userId id)).sum := ih hm howner
        _ = totalStakeOf s id + ((⟨s, op, m⟩ :: events).map (stakeDebit userId id)).sum := by
            rw [hhead, List.map_cons, List.sum_cons, add_assoc]

def Started (events : List (Event BlackjackStore Operation)) (game : BlackjackGame) : Prop :=
  ∃ e ∈ events, ∃ checks request now, e.label = .start checks request now ∧
    e.before.nextGameId = game.id ∧ request.userId = game.userId ∧ game.deck = request.deck

theorem started_of_run (hwf : WellFormed store) (hrun : Run (Accepts (step config)) store events t)
    (hrow : t.selectGame row.id = some row) :
    (∃ row', store.selectGame row.id = some row' ∧ row'.userId = row.userId ∧ row'.deck = row.deck) ∨
      Started events row := by
  induction hrun with
  | nil => exact .inl ⟨row, hrow, rfl, rfl⟩
  | @cons s m t op events hstep hrest ih =>
      obtain ⟨row', hrow', huser, hdeck⟩ | ⟨e, he, hstart⟩ := ih (wellFormed_of_step hwf hstep) hrow
      · obtain ⟨first, hfirst, huser', hdeck'⟩ | ⟨checks, request, now, hop, hid, huser', hdeck'⟩ :=
          (gameChange_of_step hwf hstep).origin hrow'
        · exact .inl ⟨first, hfirst, huser'.trans huser, hdeck'.trans hdeck⟩
        · exact .inr ⟨⟨s, op, m⟩, by simp, checks, request, now, hop, hid, huser'.trans huser,
            hdeck.symm.trans hdeck'⟩
      · exact .inr ⟨e, by simp [he], hstart⟩

end Runs

/-- What holds of a stored game after a run. -/
structure HandsSound (events : List (Event BlackjackStore Operation)) (game : BlackjackGame) :
    Prop where
  turn : game.status = .active → HandsInTurn game
  hands : game.playerHands.length ≤ game.config.maxSplitHands
  stakes : (game.playerHands.map PlayerHand.stakeAmount).sum = game.totalStake
  debited : game.totalStake = (events.map (stakeDebit game.userId game.id)).sum
  cards : game.tableCards.Perm (game.deck.take game.nextCardIndex)
  drawn : game.nextCardIndex ≤ game.deck.length
  deck : Started events game

section Soundness

variable {readUInt32BE : String → Nat} {config : PoolSystemConfig} {store t : BlackjackStore}
  {events : List (Event BlackjackStore Operation)}

/-- The invariant of a run whose starts deal from a seed. -/
structure Seeded (store : BlackjackStore) : Prop where
  wellFormed : WellFormed store
  games : ∀ game ∈ store.games, HandsStored game

theorem stored_of_turn {Stored : BlackjackGame → Prop} {op : Operation} {store' : BlackjackStore}
    (hwf : WellFormed store) (hstored : ∀ game ∈ store.games, Stored game)
    (hturn : Turn Stored store op store') : ∀ game ∈ store'.games, Stored game := by
  have hmodify : ∀ (games : List BlackjackGame) (row next : BlackjackGame),
      (∀ game ∈ games, Stored game) → Stored next →
        ∀ game ∈ Keyed.modify BlackjackGame.id next.id (fun _ => next) games, Stored game := by
    intro games row next hall hnext game hgame
    obtain ⟨hgame, _⟩ | ⟨_, _, _, rfl⟩ := Keyed.mem_modify.mp hgame
    · exact hall game hgame
    · exact hnext
  cases hturn with
  | idle hstore _ _ _ => rwa [hstore]
  | otherFeature userId wallet _ hstore => rwa [hstore]
  | played row wallet _ _ _ _ _ _ _ hstores =>
      obtain ⟨next, hnext, _, hstore⟩ := hstores
      rw [hstore, applyPayoutCredit_games, BlackjackStore.persistGameState]
      exact hmodify _ row next hstored hnext
  | raised row wallet _ _ _ _ _ _ hraises =>
      obtain ⟨debited, hdebit, next, hnext, _, hstore⟩ := hraises
      rw [hstore, applyPayoutCredit_games, BlackjackStore.persistGameState,
        (applyStakeDebit_eq_ok hdebit).1]
      exact hmodify _ row next hstored hnext
  | started _ _ _ game next wallet debited _ _ hid _ _ hdebit hnext hcontinues hstore =>
      have hnew : ∀ earlier ∈ store.games, earlier.id ≠ game.id := by
        rw [hid]
        exact not_mem_of_nextGameId hwf
      rw [hstore, applyPayoutCredit_games, BlackjackStore.persistGameState, hcontinues.id,
        (applyStakeDebit_eq_ok hdebit).1, modify_append_new hnew]
      simpa [or_imp, forall_and] using ⟨hstored, hnext⟩

theorem seeded_step {op : Operation} {store' : BlackjackStore} (hseeded : Seeded store)
    (hlegal : op.DealsFromSeed readUInt32BE) (h : step config store op = .ok store') :
    Seeded store' := by
  have hturn : Turn HandsStored store op store' := by
    refine turn_of_step (@handRules readUInt32BE) hseeded.wellFormed hseeded.games ?_ h
    rintro checks request now rfl
    exact hlegal
  exact ⟨wellFormed_of_step hseeded.wellFormed h,
    stored_of_turn hseeded.wellFormed hseeded.games hturn⟩

theorem seeded_of_run (hempty : store.games = [])
    (hrun : Run (Accepts (step config)) store events t)
    (hlegal : ∀ e ∈ events, e.label.DealsFromSeed readUInt32BE) : Seeded t :=
  (hrun.invariant_of_forall
    (fun _ _ _ hu hstep hok => seeded_step hu hok hstep)
    ⟨wellFormed_of_empty hempty, by simp [hempty]⟩ hlegal).2

/-- **The hands of a game.** In every run whose games deal from a seed, the hands of every stored
game are in turn, its stakes and cards are those that were taken and drawn, and the deck is never
used up. -/
theorem hands_sound (hempty : store.games = [])
    (hrun : Run (Accepts (step config)) store events t)
    (hlegal : ∀ e ∈ events, e.label.DealsFromSeed readUInt32BE) :
    (∀ game ∈ t.games, HandsSound events game) ∧
      ∀ op : Operation, op.DealsFromSeed readUInt32BE →
        step config t op = .error deckExhausted → op.ChecksAnswer deckExhausted := by
  have hseeded := seeded_of_run hempty hrun hlegal
  have hwf := wellFormed_of_empty hempty
  refine ⟨?_, fun op hop h =>
    checksAnswer_of_exhausts hseeded.wellFormed hseeded.games hop h⟩
  intro game hgame
  have hstored := hseeded.games game hgame
  have hselect : t.selectGame game.id = some game :=
    Keyed.lookup_of_mem hseeded.wellFormed.ids hgame
  have hnone : store.selectGame game.id = none := by
    rw [BlackjackStore.selectGame, hempty]
    rfl
  refine ⟨fun hactive => (hstored.inPlay hactive).turn, hstored.dealt.hands, hstored.dealt.stakes, ?_,
    hstored.dealt.cards, hstored.dealt.drawn, ?_⟩
  · have howner : ∀ row, t.selectGame game.id = some row → row.userId = game.userId := by
      intro row hrow
      rw [Option.some.inj (hselect.symm.trans hrow)]
    have htotal := totalStakeOf_run hwf hrun howner
    rw [totalStakeOf, totalStakeOf, hselect, hnone] at htotal
    simpa using htotal
  · obtain ⟨row, hrow, _⟩ | hstarted := started_of_run hwf hrun hselect
    · rw [hnone] at hrow
      cases hrow
    · exact hstarted

end Soundness

section Example

/-- Every round of the shuffle takes the tenth card, so the player is dealt a ten and a queen. -/
def tenthCard : String → Nat :=
  fun _ => 9

def tenthDeck : List BlackjackCard :=
  ((drawBlackjackDeck tenthCard "seed" 1 "nonce").toOption).getD []

def startTens : Operation :=
  .start openChecks ⟨1, .finite 10, 1, none,
    { blackjackConfig with maxSplitHands := readMaxSplitHands 4, splitTenValueCardsAllowed := true },
    tenthDeck⟩ 0

theorem startTens_dealsFromSeed : startTens.DealsFromSeed tenthCard :=
  ⟨⟨"seed", "nonce", by decide +kernel⟩, 4, rfl⟩

def startsTens : Operation → Bool
  | .start _ request _ => decide (request.deck = tenthDeck ∧ request.userId = 1 ∧
      request.config.maxSplitHands = readMaxSplitHands 4)
  | _ => true

/-- The left hand of the split draws an ace and ends at once; the right one is hit. -/
theorem hands_sound_split :
    ∃ events t, Run (Accepts (step noReserve)) richPlayers events t ∧
      (∃ game ∈ t.games, game.status = .active ∧ game.activeHandIndex = some 1 ∧
        game.nextCardIndex = 7) ∧
      ∀ game ∈ t.games, HandsSound events game := by
  obtain ⟨events, t, hrun, hcheck⟩ := Run.exists_of_check (step noReserve) richPlayers
    [startTens, .act openChecks 1 1 .split 1, .act openChecks 1 1 .hit 2]
    (fun events t => decide ((∃ game ∈ t.games, game.status = .active ∧
        game.activeHandIndex = some 1 ∧ game.nextCardIndex = 7) ∧
      events.all fun e => startsTens e.label))
    (by decide +kernel)
  obtain ⟨hgame, hdeals⟩ := of_decide_eq_true hcheck
  have hlegal : ∀ e ∈ events, e.label.DealsFromSeed tenthCard := by
    intro e he
    have hdeal := List.all_eq_true.mp hdeals e he
    cases hlabel : e.label with
    | start checks request now =>
        rw [hlabel] at hdeal
        obtain ⟨hdeck, huser, hhands⟩ := of_decide_eq_true hdeal
        obtain ⟨seed, clientNonce, hdraw⟩ := startTens_dealsFromSeed.deck
        refine ⟨⟨seed, clientNonce, ?_⟩, 4, hhands⟩
        rw [hdeck, huser]
        exact hdraw
    | act => trivial
    | timeout => trivial
    | changeWallet => trivial
  exact ⟨events, t, hrun, hgame, (hands_sound rfl hrun hlegal).1⟩

end Example

end RewardSystem.Blackjack
