import RewardSystem.Blackjack.Turns

/-!
# What a game moves between the user and the pool

The stakes go from the wallet into the pool and the payout comes back. Both sides and the rows that
record them round on their own.
-/

namespace RewardSystem.Blackjack

open Transition Rounding

inductive EntryType where
  | blackjackStake
  | blackjackDoubleDown
  | blackjackSplit
  | blackjackPayout
  deriving DecidableEq, Repr

/-- A row of the ledger, of a user or, without one, of the house account. -/
structure LedgerRow where
  userId : Option Nat
  entryType : EntryType
  amount : Int
  balanceBefore : Int
  balanceAfter : Int
  referenceId : Nat
  deriving DecidableEq

def LedgerRow.Adds (row : LedgerRow) : Prop :=
  row.balanceAfter = row.balanceBefore + row.amount

instance (row : LedgerRow) : Decidable row.Adds :=
  inferInstanceAs (Decidable (_ = _))

section Rows

variable (userId gameId : Nat) (walletBefore poolBefore : Int)

/-- The row of `applyHouseBalanceDelta`: the change and the new balance are rounded apart. -/
def houseRow (entryType : EntryType) (gameId : Nat) (before : Int) (delta : ℚ) : LedgerRow :=
  { userId := none
    entryType := entryType
    amount := roundHalfUp delta
    balanceBefore := before
    balanceAfter := roundHalfUp (before + delta)
    referenceId := gameId }

/-- The rows of `applyTransactionalGameStakeDebit`. -/
def stakeDebitRows (entryType : EntryType) (stakeAmount : Int) : List LedgerRow :=
  [{ userId := some userId
     entryType := entryType
     amount := -stakeAmount
     balanceBefore := walletBefore
     balanceAfter := walletBefore - stakeAmount
     referenceId := gameId },
   houseRow entryType gameId poolBefore stakeAmount]

/-- The rows of `applyTransactionalGamePayoutCredit`. -/
def payoutCreditRows (payoutAmount : ℚ) : List LedgerRow :=
  if payoutAmount ≤ 0 then []
  else
    [{ userId := some userId
       entryType := .blackjackPayout
       amount := roundHalfUp payoutAmount
       balanceBefore := walletBefore
       balanceAfter := roundHalfUp (walletBefore + payoutAmount)
       referenceId := gameId },
     houseRow .blackjackPayout gameId poolBefore (-payoutAmount)]

theorem stakeDebitRows_add (entryType : EntryType) (stakeAmount : Int) :
    ∀ row ∈ stakeDebitRows userId gameId walletBefore poolBefore entryType stakeAmount,
      row.Adds := by
  have hhouse : (houseRow entryType gameId poolBefore stakeAmount).Adds := by
    have hsum : roundHalfUp ((poolBefore : ℚ) + stakeAmount) = poolBefore + stakeAmount := by
      exact_mod_cast roundHalfUp_intCast (poolBefore + stakeAmount)
    rw [LedgerRow.Adds, houseRow, hsum, roundHalfUp_intCast]
  simp only [stakeDebitRows, List.forall_mem_cons]
  refine ⟨?_, hhouse, by simp⟩
  exact sub_eq_add_neg walletBefore stakeAmount

/-- Half a cent that is rounded up for the user is taken from the pool as well. -/
def RoundsAlike (payoutAmount : ℚ) : Prop :=
  0 < payoutAmount → IsHalf payoutAmount →
    0 ≤ walletBefore + payoutAmount ∧ poolBefore < payoutAmount

instance (payoutAmount : ℚ) : Decidable (RoundsAlike walletBefore poolBefore payoutAmount) :=
  inferInstanceAs (Decidable (_ → _ → _))

theorem roundsAlike_iff {payoutAmount : ℚ} (hpos : 0 < payoutAmount) :
    RoundsAlike walletBefore poolBefore payoutAmount ↔
      roundHalfUp (walletBefore + payoutAmount) = walletBefore + roundHalfUp payoutAmount ∧
        roundHalfUp (poolBefore + -payoutAmount) = poolBefore + roundHalfUp (-payoutAmount) := by
  have hneg : ¬0 ≤ -payoutAmount := by linarith
  have hdiff : (0 : ℚ) ≤ poolBefore + -payoutAmount ↔ ¬poolBefore < payoutAmount := by
    rw [← sub_eq_add_neg, sub_nonneg, not_lt]
  rw [roundHalfUp_intCast_add, roundHalfUp_intCast_add, isHalf_neg, RoundsAlike, hdiff]
  simp only [hpos, hpos.le, hneg, true_implies, true_iff, false_iff, not_not]
  exact imp_and

theorem payoutCreditRows_add {payoutAmount : ℚ} :
    (∀ row ∈ payoutCreditRows userId gameId walletBefore poolBefore payoutAmount, row.Adds) ↔
      RoundsAlike walletBefore poolBefore payoutAmount := by
  by_cases hzero : payoutAmount ≤ 0
  · simp [payoutCreditRows, RoundsAlike, hzero, not_lt.mpr hzero]
  · rw [roundsAlike_iff _ _ (not_le.mp hzero), payoutCreditRows, if_neg hzero]
    simp [LedgerRow.Adds, houseRow]

end Rows

section Events

def BlackjackStore.walletBalance (store : BlackjackStore) (userId : Nat) : Int :=
  ((store.wallets userId).map Wallet.withdrawableBalance).getD 0

def Operation.stakeEntryType : Operation → EntryType
  | .act _ _ _ .double _ => .blackjackDoubleDown
  | .act _ _ _ .split _ => .blackjackSplit
  | _ => .blackjackStake

def BlackjackGame.stakeOn (game : BlackjackGame) (state : HandOutcomeState) : Int :=
  ((game.playerHands.filter fun hand => settledHandState game hand = state).map
    PlayerHand.stakeAmount).sum

/-- What the stored game is paid by the step that has just stored it. -/
def Operation.payoutDue (op : Operation) (game : BlackjackGame) : ℚ :=
  if game.status = .active then 0
  else
    match op with
    | .start _ _ _ =>
        resolveStatusPayoutAmount game.status game.stakeAmount game.totalStake game.config
    | _ =>
        game.stakeOn .win * game.config.winPayoutMultiplier +
          game.stakeOn .push * game.config.pushPayoutMultiplier

variable (e : Event BlackjackStore Operation)

def gamePayout : ℚ :=
  match (e.label.gameTouched e.before).bind e.after.selectGame with
  | none => 0
  | some game => e.label.payoutDue game

/-- The balances once the stake of the step is taken. -/
def stakedWallet (userId : Nat) : Int :=
  e.before.walletBalance userId - e.label.stakeDebited e.before

def stakedPool : Int :=
  e.before.prizePoolBalance + e.label.stakeDebited e.before

def gameRows : List LedgerRow :=
  match e.label.player, e.label.gameTouched e.before with
  | some userId, some gameId =>
      (match e.label.stakeTaken e.before with
      | none => []
      | some taken =>
          stakeDebitRows userId gameId (e.before.walletBalance userId) e.before.prizePoolBalance
            e.label.stakeEntryType taken.stakeAmount) ++
        payoutCreditRows userId gameId (stakedWallet e userId) (stakedPool e) (gamePayout e)
  | _, _ => []

/-- The payout as the wallet gets it. -/
def creditedAmount (userId : Nat) : Int :=
  e.after.walletBalance userId - stakedWallet e userId

/-- The payout as the pool gives it. -/
def debitedAmount : Int :=
  stakedPool e - e.after.prizePoolBalance

/-- By how much a step changes what the user and the pool have together. -/
def moneyMoved (userId : Nat) : Int :=
  e.after.walletBalance userId + e.after.prizePoolBalance -
    (e.before.walletBalance userId + e.before.prizePoolBalance)

def PlaysGame (userId gameId : Nat) (e : Event BlackjackStore Operation) : Prop :=
  e.label.player = some userId ∧ e.label.gameTouched e.before = some gameId

instance (userId gameId : Nat) (e : Event BlackjackStore Operation) :
    Decidable (PlaysGame userId gameId e) :=
  inferInstanceAs (Decidable (_ ∧ _))

structure MoneyConserved (events : List (Event BlackjackStore Operation)) (userId gameId : Nat) :
    Prop where
  rows : ∀ e ∈ events, PlaysGame userId gameId e → ∀ row ∈ gameRows e, row.Adds
  payout : ∀ e ∈ events, PlaysGame userId gameId e → creditedAmount e userId = debitedAmount e
  total : ((events.filter fun e => PlaysGame userId gameId e).map (moneyMoved · userId)).sum = 0

/-- Nothing that ends in half a cent is paid, unless that overdraws the pool. -/
def PaysWholeCents (userId gameId : Nat) (e : Event BlackjackStore Operation) : Prop :=
  PlaysGame userId gameId e → RoundsAlike (stakedWallet e userId) (stakedPool e) (gamePayout e)

end Events

section Payouts

theorem sum_payouts (config : BlackjackConfig) (outcome : PlayerHand → HandOutcomeState)
    (hands : List PlayerHand) :
    (hands.map fun hand =>
        resolveRegularHandPayoutAmount hand.stakeAmount (outcome hand) config).sum =
      ((hands.filter fun hand => outcome hand = .win).map PlayerHand.stakeAmount).sum *
          config.winPayoutMultiplier +
        ((hands.filter fun hand => outcome hand = .push).map PlayerHand.stakeAmount).sum *
          config.pushPayoutMultiplier := by
  induction hands with
  | nil => simp
  | cons hand hands ih =>
      rw [List.map_cons, List.sum_cons, ih]
      cases houtcome : outcome hand <;>
        simp [houtcome, resolveRegularHandPayoutAmount] <;> ring

theorem owed_eq (game : BlackjackGame) :
    game.owed = if game.status = .active then 0 else
      game.stakeOn .win * game.config.winPayoutMultiplier +
        game.stakeOn .push * game.config.pushPayoutMultiplier := by
  have hsum := sum_payouts game.config (settledHandState game) game.playerHands
  unfold BlackjackGame.owed BlackjackGame.stakeOn
  rw [totalPayout, resolveSettledHandOutcomes, List.map_map, ← hsum]
  rfl

theorem payoutDue_of_play {op : Operation} (hstart : ∀ checks request now,
    op ≠ .start checks request now) (game : BlackjackGame) : op.payoutDue game = game.owed := by
  rw [owed_eq]
  cases op with
  | start checks request now => exact absurd rfl (hstart checks request now)
  | act => rfl
  | timeout => rfl
  | changeWallet => rfl

def creditedBalance (balance : Int) (payoutAmount : ℚ) : Int :=
  if payoutAmount ≤ 0 then balance else roundHalfUp (balance + payoutAmount)

def paidOutBalance (balance : Int) (payoutAmount : ℚ) : Int :=
  if payoutAmount ≤ 0 then balance else roundHalfUp (balance - payoutAmount)

variable {store store' debited : BlackjackStore} {wallet : Wallet} {userId : Nat}

theorem walletBalance_of_some (hwallet : store.wallets userId = some wallet) :
    store.walletBalance userId = wallet.withdrawableBalance := by
  rw [BlackjackStore.walletBalance, hwallet]
  rfl

theorem applyPayoutCredit_balances (store : BlackjackStore) (payoutAmount : ℚ)
    (hwallet : store.wallets userId = some wallet) :
    (applyPayoutCredit store userId wallet payoutAmount).walletBalance userId =
        creditedBalance (store.walletBalance userId) payoutAmount ∧
      (applyPayoutCredit store userId wallet payoutAmount).prizePoolBalance =
        paidOutBalance store.prizePoolBalance payoutAmount := by
  rw [walletBalance_of_some hwallet]
  unfold applyPayoutCredit creditedBalance paidOutBalance
  split_ifs with hzero
  · exact ⟨walletBalance_of_some hwallet, rfl⟩
  · simp [BlackjackStore.walletBalance, BlackjackStore.applyPrizePoolDelta,
      BlackjackStore.setWallet, sub_eq_add_neg]

theorem applyStakeDebit_wallet {stakeAmount : Int}
    (h : applyStakeDebit store userId wallet stakeAmount = .ok debited) :
    debited.wallets userId = some (debitedWallet wallet stakeAmount) := by
  obtain ⟨_, _, h⟩ := ApiError.bind_eq_ok.mp h
  rw [← Except.ok.inj h]
  exact Function.update_self ..

end Payouts

section Steps

variable {store store' : BlackjackStore} {op : Operation} {userId gameId : Nat}

theorem gamePayout_of_select {game : BlackjackGame}
    (htouched : op.gameTouched store = some gameId) (hgame : store'.selectGame gameId = some game) :
    gamePayout ⟨store, op, store'⟩ = op.payoutDue game := by
  simp only [gamePayout, htouched, Option.bind_some, hgame]

/-- What a step leaves to the user and the pool. -/
def Balanced (userId : Nat) (e : Event BlackjackStore Operation) : Prop :=
  e.after.walletBalance userId = creditedBalance (stakedWallet e userId) (gamePayout e) ∧
    e.after.prizePoolBalance = paidOutBalance (stakedPool e) (gamePayout e)

theorem balanced_of_stores {Stored : BlackjackGame → Prop} {debited : BlackjackStore}
    {game row : BlackjackGame} {wallet : Wallet}
    (hstores : StoresGame Stored debited game wallet store')
    (hrow : debited.selectGame game.id = some row)
    (hstart : ∀ checks request now, op ≠ .start checks request now)
    (htouched : op.gameTouched store = some game.id)
    (hwallet : debited.wallets game.userId = some wallet)
    (hwalletBalance : debited.walletBalance game.userId =
      store.walletBalance game.userId - op.stakeDebited store)
    (hpool : debited.prizePoolBalance = store.prizePoolBalance + op.stakeDebited store) :
    Balanced game.userId ⟨store, op, store'⟩ := by
  obtain ⟨next, _, hcontinues, hstore⟩ := hstores
  have hselect : store'.selectGame game.id = some next := by
    unfold BlackjackStore.selectGame
    rw [hstore, applyPayoutCredit_games, BlackjackStore.persistGameState, hcontinues.id]
    exact Keyed.lookup_modify_self (fun _ _ => hcontinues.id) hrow
  have hpayout := gamePayout_of_select htouched hselect
  rw [payoutDue_of_play hstart] at hpayout
  have hbalances := applyPayoutCredit_balances (debited.persistGameState next) next.owed hwallet
  rw [Balanced, hpayout, stakedWallet, stakedPool, ← hwalletBalance, ← hpool]
  rw [← hstore] at hbalances
  exact hbalances

theorem applyStakeDebit_balances {debited : BlackjackStore} {wallet : Wallet} {stakeAmount : Int}
    (hwallet : store.wallets userId = some wallet)
    (h : applyStakeDebit store userId wallet stakeAmount = .ok debited) :
    debited.walletBalance userId = store.walletBalance userId - stakeAmount ∧
      debited.prizePoolBalance = store.prizePoolBalance + stakeAmount := by
  rw [walletBalance_of_some (applyStakeDebit_wallet h), walletBalance_of_some hwallet]
  exact ⟨rfl, (applyStakeDebit_eq_ok h).2⟩

theorem balanced_of_turn {Stored : BlackjackGame → Prop} (hwf : WellFormed store)
    (hturn : Turn Stored store op store') (hplayer : op.player = some userId)
    (htouched : op.gameTouched store = some gameId) : Balanced userId ⟨store, op, store'⟩ := by
  cases hturn with
  | idle hstore hstake hstart hactive =>
      obtain ⟨row, hrow, hopen⟩ := hactive gameId htouched
      have hpayout : gamePayout ⟨store, op, store'⟩ = 0 := by
        rw [gamePayout_of_select htouched (hstore ▸ hrow)]
        exact if_pos hopen
      rw [Balanced, hpayout, stakedWallet, stakedPool]
      simp [creditedBalance, paidOutBalance, hstake, hstore]
  | otherFeature _ _ hop _ =>
      rw [hop] at hplayer
      cases hplayer
  | played row wallet hrow _ hwallet hplayer' htouched' hstake hstart hstores =>
      obtain rfl := Option.some.inj (hplayer.symm.trans hplayer')
      exact balanced_of_stores hstores hrow hstart htouched' hwallet (by simp [hstake])
        (by simp [hstake])
  | raised row wallet hrow _ hwallet hplayer' htouched' hstart hraises =>
      obtain rfl := Option.some.inj (hplayer.symm.trans hplayer')
      obtain ⟨debited, hdebit, hstores⟩ := hraises
      obtain ⟨hbalance, hpool⟩ := applyStakeDebit_balances hwallet hdebit
      have hrow' : debited.selectGame row.id = some row := by
        unfold BlackjackStore.selectGame
        rw [(applyStakeDebit_eq_ok hdebit).1]
        exact hrow
      have hbalanced := balanced_of_stores hstores hrow' hstart htouched'
        (applyStakeDebit_wallet hdebit) hbalance hpool
      exact hbalanced
  | started checks request now game next wallet debited hop hplayer' hid hwallet hstake hdebit _
      hcontinues hstore =>
      obtain rfl := Option.some.inj (hplayer.symm.trans hplayer')
      have hdebited := applyStakeDebit_balances (by exact hwallet) hdebit
      have hbalance : debited.walletBalance game.userId =
          store.walletBalance game.userId - game.totalStake := hdebited.1
      have hpool : debited.prizePoolBalance = store.prizePoolBalance + game.totalStake := hdebited.2
      have hwallet' := applyStakeDebit_wallet hdebit
      have htouched' : op.gameTouched store = some game.id := by rw [hop, hid]; rfl
      have hselect : store'.selectGame game.id = some next := by
        have hnew : ∀ earlier ∈ store.games, earlier.id ≠ game.id := by
          rw [hid]
          exact not_mem_of_nextGameId hwf
        have hgames := (applyStakeDebit_eq_ok hdebit).1
        unfold BlackjackStore.selectGame
        rw [hstore, applyPayoutCredit_games, BlackjackStore.persistGameState, hcontinues.id, hgames,
          modify_append_new hnew, ← hcontinues.id]
        exact Keyed.lookup_append_self
          (Keyed.lookup_eq_none.mpr (by rw [hcontinues.id]; exact hnew))
      have hpayout : gamePayout ⟨store, op, store'⟩ = next.owedAtOnce := by
        rw [gamePayout_of_select htouched' hselect, hop]
        rfl
      have hbalances := applyPayoutCredit_balances (debited.persistGameState next) next.owedAtOnce
        (by exact hwallet')
      rw [← hstore] at hbalances
      rw [Balanced, hpayout, stakedWallet, stakedPool, hstake]
      dsimp only
      rw [← hbalance, ← hpool]
      exact hbalances

end Steps

section Conservation

variable {store t : BlackjackStore} {events : List (Event BlackjackStore Operation)}
  {e : Event BlackjackStore Operation} {config : PoolSystemConfig} {userId gameId : Nat}

theorem anyGame : GameRules (fun _ => True) (fun _ => True) (fun _ => True) (fun _ => True) := by
  constructor <;> intros <;> (try split) <;> trivial

theorem wellFormed_of_empty (hempty : store.games = []) : WellFormed store := by
  constructor
  · simp [Keyed.HasKeys, hempty]
  · simp [hempty]
  · simp [hempty]

theorem balanced_of_run (hempty : store.games = [])
    (hrun : Run (Accepts (step config)) store events t) (he : e ∈ events)
    (hplays : PlaysGame userId gameId e) : Balanced userId e := by
  have hwf := (hrun.invariant_around
    (fun u op v hu hstep => wellFormed_step hu (step_effect hu hstep))
    (wellFormed_of_empty hempty) he).1
  exact balanced_of_turn hwf
    (turn_of_step anyGame hwf (fun _ _ => trivial) (fun _ _ _ _ => trivial) (hrun.step_of_mem he))
    hplays.1 hplays.2

theorem gameRows_add (hplays : PlaysGame userId gameId e) :
    (∀ row ∈ gameRows e, row.Adds) ↔
      RoundsAlike (stakedWallet e userId) (stakedPool e) (gamePayout e) := by
  unfold gameRows
  rw [hplays.1, hplays.2]
  dsimp only
  rw [List.forall_mem_append, payoutCreditRows_add]
  refine and_iff_right ?_
  cases e.label.stakeTaken e.before with
  | none => simp
  | some taken => exact stakeDebitRows_add userId gameId _ _ _ _

theorem credited_eq_debited (hbalanced : Balanced userId e)
    (halike : RoundsAlike (stakedWallet e userId) (stakedPool e) (gamePayout e)) :
    creditedAmount e userId = debitedAmount e := by
  obtain ⟨hwallet, hpool⟩ := hbalanced
  rw [creditedAmount, debitedAmount, hwallet, hpool]
  unfold creditedBalance paidOutBalance
  split_ifs with hzero
  · omega
  · obtain ⟨hcredit, hdebit⟩ := (roundsAlike_iff _ _ (not_le.mp hzero)).mp halike
    rw [roundHalfUp_neg, ← sub_eq_add_neg] at hdebit
    omega

theorem moneyMoved_eq (e : Event BlackjackStore Operation) (userId : Nat) :
    moneyMoved e userId = creditedAmount e userId - debitedAmount e := by
  unfold moneyMoved creditedAmount debitedAmount stakedWallet stakedPool
  omega

/-- **Conservation of the money of a game.** The steps of a game conserve money exactly if none of
them pays an amount that ends in half a cent from a pool that has it. -/
theorem moneyConserved_iff (hempty : store.games = [])
    (hrun : Run (Accepts (step config)) store events t) :
    MoneyConserved events userId gameId ↔ ∀ e ∈ events, PaysWholeCents userId gameId e := by
  constructor
  · intro hconserved e he hplays
    exact (gameRows_add hplays).mp (hconserved.rows e he hplays)
  · intro hpays
    have hpayout : ∀ e ∈ events, PlaysGame userId gameId e →
        creditedAmount e userId = debitedAmount e := by
      intro e he hplays
      exact credited_eq_debited (balanced_of_run hempty hrun he hplays) (hpays e he hplays)
    refine ⟨fun e he hplays => (gameRows_add hplays).mpr (hpays e he hplays), hpayout, ?_⟩
    apply List.sum_eq_zero
    intro moved hmoved
    obtain ⟨e, he, rfl⟩ := List.mem_map.mp hmoved
    obtain ⟨he, hplays⟩ := List.mem_filter.mp he
    rw [moneyMoved_eq, hpayout e he (of_decide_eq_true hplays), sub_self]

end Conservation

section Example

instance (userId gameId : Nat) (e : Event BlackjackStore Operation) :
    Decidable (PaysWholeCents userId gameId e) :=
  inferInstanceAs (Decidable (_ → _))

def naturalDeck : List BlackjackCard :=
  [⟨.ace, .spades⟩, ⟨.ten, .hearts⟩, ⟨.king, .spades⟩, ⟨.seven, .clubs⟩]

def startNatural (stakeAmount : ℚ) : Operation :=
  .start openChecks ⟨1, .finite stakeAmount, 1, none, blackjackConfig, naturalDeck⟩ 0

def richPlayers : BlackjackStore :=
  { prizePoolBalance := 100000
    wallets := fun _ => some ⟨5000, 0⟩
    games := [] }

/-- A natural on 10.01 pays 25.025: the wallet gets 25.03 and the pool gives 25.02, while the row of
the pool says 25.03. -/
theorem not_moneyConserved_of_halfCent :
    ¬∀ config store events t userId gameId, store.games = [] →
      Run (Accepts (step config)) store events t → MoneyConserved events userId gameId := by
  intro hclaim
  obtain ⟨events, t, hrun, hbroken⟩ := Run.exists_of_check (step noReserve) richPlayers
    [startNatural (1001 / 100)]
    (fun events _ => decide (∃ e ∈ events, PlaysGame 1 1 e ∧ ∃ row ∈ gameRows e, ¬row.Adds))
    (by decide +kernel)
  obtain ⟨e, he, hplays, row, hrow, hbroken⟩ := of_decide_eq_true hbroken
  exact hbroken ((hclaim noReserve richPlayers events t 1 1 rfl hrun).rows e he hplays row hrow)

theorem moneyConserved_natural_ten :
    ∃ events t, Run (Accepts (step noReserve)) richPlayers events t ∧
      t.walletBalance 1 = 6500 ∧ MoneyConserved events 1 1 := by
  obtain ⟨events, t, hrun, hcheck⟩ := Run.exists_of_check (step noReserve) richPlayers
    [startNatural 10]
    (fun events t => decide (t.walletBalance 1 = 6500 ∧ ∀ e ∈ events, PaysWholeCents 1 1 e))
    (by decide +kernel)
  obtain ⟨hwallet, hpays⟩ := of_decide_eq_true hcheck
  exact ⟨events, t, hrun, hwallet, (moneyConserved_iff rfl hrun).mpr hpays⟩

end Example

end RewardSystem.Blackjack
