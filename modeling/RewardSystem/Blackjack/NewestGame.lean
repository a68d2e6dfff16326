import RewardSystem.Blackjack.Money
import RewardSystem.Lib.Sorting

/-!
# The game that a start returns

A new row is found again as the newest open game of its user. `created_at` is the time at which the
transaction began, so the rows of one transaction are equally new.
-/

namespace RewardSystem.Blackjack

open Transition

/-- The stored games with the `created_at` of each id. -/
structure TimedStore where
  store : BlackjackStore
  createdAt : Nat → Int

/-- An answer to `ORDER BY created_at DESC`. -/
abbrev RowOrder :=
  (Nat → Int) → List BlackjackGame → List BlackjackGame

/-- What SQL promises of an order: rows that are equally new come in any order. -/
structure SortsNewestFirst (order : RowOrder) : Prop where
  perm (createdAt : Nat → Int) (games : List BlackjackGame) : (order createdAt games).Perm games
  sorted (createdAt : Nat → Int) (games : List BlackjackGame) :
    (order createdAt games).Pairwise fun game later => createdAt later.id ≤ createdAt game.id

section Insert

/-- The open games of a user. Without a limit all of them are read. -/
def loadBlackjackGameRows (order : RowOrder) (timed : TimedStore) (userId : Nat)
    (limit : Option Nat) : List BlackjackGame :=
  let rows := order timed.createdAt (timed.store.activeGames userId)
  match limit with
  | none => rows
  | some limit => rows.take limit

def TimedStore.insert (timed : TimedStore) (startedAt : Int) (game : BlackjackGame) : TimedStore :=
  { store := { timed.store with games := timed.store.games ++ [game] }
    createdAt := Function.update timed.createdAt game.id startedAt }

/-- `startedAt` is the time at which the transaction began. -/
def insertInitialGame (order : RowOrder) (timed : TimedStore) (startedAt : Int)
    (request : StartRequest) (stakeAmount : Int) (playerCards dealerCards : List BlackjackCard) :
    Except ApiError (BlackjackGame × TimedStore) :=
  let inserted := timed.insert startedAt
    (initialGame timed.store request stakeAmount playerCards dealerCards)
  match loadBlackjackGameRows order inserted request.userId (some 1) with
  | [] => .error (.persistence "Failed to create blackjack game.")
  | created :: _ => .ok (created.toGameState, inserted)

end Insert

section Start

/-- A start of a transaction: the request, the answers of the surrounding services, the clock for
the turn deadline and the order in which rows are read. -/
structure TransactionStart where
  request : StartRequest
  checks : SurroundingChecks
  now : Int
  order : RowOrder

def startResolvedBlackjackInTransaction (config : PoolSystemConfig) (startedAt : Int)
    (timed : TimedStore) (start : TransactionStart) : Except ApiError TimedStore := do
  let request := start.request
  match timed.store.wallets request.userId with
  | none => .error (.notFound "User not found.")
  | some wallet =>
      let existingActiveGames := loadBlackjackGameRows start.order timed request.userId none
      ApiError.throwIf
        (existingActiveGames.any (fun game =>
          request.linkedGroup.isNone || game.linkedGroup ≠ request.linkedGroup) = true)
        (.conflict "Finish the active blackjack game before starting a new one.")
      let baseStakeAmount ← resolveStakeAmount request.stakeAmount
      let stakeAmount := baseStakeAmount * request.stakeMultiplier
      ApiError.throwIf (stakeAmount < request.config.minStake ∨ request.config.maxStake < stakeAmount)
        (.conflict "Stake amount is outside the allowed range.")
      start.checks.kycStakeAllowed
      ApiError.throwIf (wallet.withdrawableBalance < stakeAmount) (.conflict "Insufficient balance.")
      ensurePoolCanCover config timed.store stakeAmount
        (stakeAmount * request.config.naturalPayoutMultiplier)
      match request.deck with
      | p1 :: d1 :: p2 :: d2 :: _ => do
          let (created, inserted) ← insertInitialGame start.order timed startedAt request stakeAmount
            [p1, p2] [d1, d2]
          let game := syncBlackjackTurnDeadline config created start.now
          let debited ← applyStakeDebit (inserted.store.persistGameState game) request.userId wallet
            stakeAmount
          let initialStatus ← resolveInitialOutcome game
          start.checks.walletLedgerInvariant
          if initialStatus = .active then .ok { inserted with store := debited }
          else
            .ok { inserted with
              store := settleGameByStatus debited game (debitedWallet wallet stakeAmount)
                initialStatus }
      | _ => .error deckExhausted

end Start

section Orders

/-- Equally new rows in the order of their ids, as a scan of the table meets them. -/
def olderIdsFirst : RowOrder := fun createdAt games =>
  games.insertionSort fun game later =>
    createdAt later.id < createdAt game.id ∨
      createdAt later.id = createdAt game.id ∧ game.id ≤ later.id

theorem olderIdsFirst_sorted (createdAt : Nat → Int) (games : List BlackjackGame) :
    (olderIdsFirst createdAt games).Pairwise fun game later =>
      createdAt later.id < createdAt game.id ∨
        createdAt later.id = createdAt game.id ∧ game.id ≤ later.id := by
  refine Sorting.pairwise_insertionSort (fun a b => ?_) (fun a b c hab hbc => ?_) games
  · omega
  · omega

theorem olderIdsFirst_sorts : SortsNewestFirst olderIdsFirst where
  perm _ _ := List.perm_insertionSort _ _
  sorted createdAt games := (olderIdsFirst_sorted createdAt games).imp fun hle => by omega

end Orders

section Newest

variable {order : RowOrder} {timed : TimedStore} {startedAt : Int} {request : StartRequest}
  {stakeAmount : Int} {playerCards dealerCards : List BlackjackCard}

/-- Ids come from a sequence. -/
def Numbered (store : BlackjackStore) : Prop :=
  ∀ game ∈ store.games, game.id ≤ store.games.length

/-- No open game of the user is as new as the transaction. -/
def OthersAreOlder (timed : TimedStore) (startedAt : Int) (userId : Nat) : Prop :=
  ∀ other ∈ timed.store.activeGames userId, timed.createdAt other.id < startedAt

section Insert

variable (game : BlackjackGame)

theorem createdAt_insert_self : (timed.insert startedAt game).createdAt game.id = startedAt :=
  Function.update_self ..

theorem createdAt_insert_of_ne {other : BlackjackGame} (hne : other.id ≠ game.id) :
    (timed.insert startedAt game).createdAt other.id = timed.createdAt other.id :=
  Function.update_of_ne hne ..

theorem id_lt_of_mem (hnumbered : Numbered timed.store) (hid : game.id = timed.store.nextGameId)
    {other : BlackjackGame} (hother : other ∈ timed.store.activeGames game.userId) :
    other.id < game.id := by
  rw [hid]
  exact Nat.lt_succ_of_le (hnumbered other (List.mem_of_mem_filter hother))

theorem activeGames_insert (hactive : game.status = .active) :
    (timed.insert startedAt game).store.activeGames game.userId =
      timed.store.activeGames game.userId ++ [game] := by
  simp [TimedStore.insert, BlackjackStore.activeGames, hactive]

end Insert

theorem newest_eq_inserted (hnumbered : Numbered timed.store) (hsorts : SortsNewestFirst order)
    {game : BlackjackGame} (hid : game.id = timed.store.nextGameId) (hactive : game.status = .active)
    (holder : OthersAreOlder timed startedAt game.userId) :
    loadBlackjackGameRows order (timed.insert startedAt game) game.userId (some 1) = [game] := by
  have hperm := hsorts.perm (timed.insert startedAt game).createdAt
    (timed.store.activeGames game.userId ++ [game])
  have hsorted := hsorts.sorted (timed.insert startedAt game).createdAt
    (timed.store.activeGames game.userId ++ [game])
  rw [loadBlackjackGameRows, activeGames_insert game hactive]
  generalize order (timed.insert startedAt game).createdAt
    (timed.store.activeGames game.userId ++ [game]) = rows at hperm hsorted
  cases rows with
  | nil => simp at hperm
  | cons created rest =>
      have hmem : game ∈ created :: rest := hperm.mem_iff.mpr (by simp)
      obtain rfl | hrest := List.mem_cons.mp hmem
      · rfl
      · have hcreated := hperm.mem_iff.mp List.mem_cons_self
        obtain hold | hnew := List.mem_append.mp hcreated
        · -- an older row is not sorted before the inserted one
          have hle := (List.pairwise_cons.mp hsorted).1 game hrest
          have hlt := holder created hold
          have hne := (id_lt_of_mem game hnumbered hid hold).ne
          rw [createdAt_insert_self, createdAt_insert_of_ne game hne] at hle
          omega
        · rw [List.mem_singleton.mp hnew]
          rfl

theorem newest_id_ne (hnumbered : Numbered timed.store) {game other created : BlackjackGame}
    {later : List BlackjackGame} (hid : game.id = timed.store.nextGameId)
    (hactive : game.status = .active) (hother : other ∈ timed.store.activeGames game.userId)
    (hnew : startedAt ≤ timed.createdAt other.id)
    (hnewest : olderIdsFirst (timed.insert startedAt game).createdAt
      ((timed.insert startedAt game).store.activeGames game.userId) = created :: later) :
    created.id ≠ game.id := by
  intro hsame
  have hsorted := olderIdsFirst_sorted (timed.insert startedAt game).createdAt
    ((timed.insert startedAt game).store.activeGames game.userId)
  have hperm := olderIdsFirst_sorts.perm (timed.insert startedAt game).createdAt
    ((timed.insert startedAt game).store.activeGames game.userId)
  rw [hnewest] at hsorted hperm
  rw [activeGames_insert game hactive] at hperm
  have hlt := id_lt_of_mem game hnumbered hid hother
  have hmem : other ∈ created :: later := hperm.mem_iff.mpr (by simp [hother])
  obtain rfl | hlater := List.mem_cons.mp hmem
  · exact hlt.ne hsame
  · have hrel := (List.pairwise_cons.mp hsorted).1 other hlater
    rw [hsame, createdAt_insert_self, createdAt_insert_of_ne game hlt.ne] at hrel
    omega

theorem eq_cons_of_take {rows rest : List BlackjackGame} {limit : Nat} {game : BlackjackGame}
    (h : rows.take limit = game :: rest) : ∃ later, rows = game :: later := by
  rw [← List.take_append_drop limit rows, h]
  exact ⟨_, rfl⟩

theorem toGameState_initialGame :
    (initialGame timed.store request stakeAmount playerCards dealerCards).toGameState =
      initialGame timed.store request stakeAmount playerCards dealerCards := by
  simp [BlackjackGame.toGameState, initialGame]

theorem insertInitialGame_eq_inserted_iff (hnumbered : Numbered timed.store) :
    (∀ order, SortsNewestFirst order →
      ∃ inserted, insertInitialGame order timed startedAt request stakeAmount playerCards
        dealerCards =
          .ok (initialGame timed.store request stakeAmount playerCards dealerCards, inserted)) ↔
      OthersAreOlder timed startedAt request.userId := by
  constructor
  · intro hreturns other hother
    obtain ⟨inserted, hinsert⟩ := hreturns olderIdsFirst olderIdsFirst_sorts
    by_contra hnew
    unfold insertInitialGame loadBlackjackGameRows at hinsert
    dsimp only at hinsert
    split at hinsert
    · cases hinsert
    · rename_i created rest htaken
      obtain ⟨later, hnewest⟩ := eq_cons_of_take htaken
      have hread := (Prod.mk.inj (Except.ok.inj hinsert)).1
      have hcreated : created.toGameState.id =
          (initialGame timed.store request stakeAmount playerCards dealerCards).id :=
        congrArg BlackjackGame.id hread
      exact newest_id_ne hnumbered rfl rfl hother (not_lt.mp hnew) hnewest hcreated
  · intro holder order hsorts
    refine ⟨timed.insert startedAt
      (initialGame timed.store request stakeAmount playerCards dealerCards), ?_⟩
    have hnewest : loadBlackjackGameRows order (timed.insert startedAt
        (initialGame timed.store request stakeAmount playerCards dealerCards)) request.userId
          (some 1) = [initialGame timed.store request stakeAmount playerCards dealerCards] :=
      newest_eq_inserted hnumbered hsorts rfl rfl holder
    unfold insertInitialGame
    simp only [hnewest, toGameState_initialGame]

end Newest

section Runs

variable {config : PoolSystemConfig} {startedAt : Int} {timed timed' t : TimedStore}
  {events : List (Event TimedStore TransactionStart)}

theorem numbered_of_games {store store' : BlackjackStore} (hnumbered : Numbered store)
    (hgames : store'.games = store.games) : Numbered store' := by
  unfold Numbered
  rwa [hgames]

theorem numbered_insert (hnumbered : Numbered timed.store) {game : BlackjackGame}
    (hid : game.id = timed.store.nextGameId) : Numbered (timed.insert startedAt game).store := by
  intro row hrow
  rw [TimedStore.insert, List.length_append, List.length_singleton]
  obtain hold | hnew := List.mem_append.mp hrow
  · exact Nat.le_succ_of_le (hnumbered row hold)
  · rw [List.mem_singleton.mp hnew, hid]
    exact le_rfl

theorem numbered_persist {store : BlackjackStore} (hnumbered : Numbered store)
    (game : BlackjackGame) : Numbered (store.persistGameState game) := by
  intro row hrow
  rw [BlackjackStore.persistGameState, Keyed.modify, List.length_map]
  obtain ⟨hold, _⟩ | ⟨earlier, hearlier, hsame, rfl⟩ := Keyed.mem_modify.mp hrow
  · exact hnumbered row hold
  · rw [← hsame]
    exact hnumbered earlier hearlier

theorem numbered_step {start : TransactionStart} (hnumbered : Numbered timed.store)
    (h : startResolvedBlackjackInTransaction config startedAt timed start = .ok timed') :
    Numbered timed'.store := by
  unfold startResolvedBlackjackInTransaction at h
  dsimp only at h
  split at h
  · cases h
  · obtain ⟨_, _, h⟩ := ApiError.bind_eq_ok.mp h
    obtain ⟨baseStakeAmount, _, h⟩ := ApiError.bind_eq_ok.mp h
    obtain ⟨_, _, h⟩ := ApiError.bind_eq_ok.mp h
    obtain ⟨_, _, h⟩ := ApiError.bind_eq_ok.mp h
    obtain ⟨_, _, h⟩ := ApiError.bind_eq_ok.mp h
    obtain ⟨_, _, h⟩ := ApiError.bind_eq_ok.mp h
    split at h
    · obtain ⟨⟨created, inserted⟩, hinsert, h⟩ := ApiError.bind_eq_ok.mp h
      obtain ⟨debited, hdebit, h⟩ := ApiError.bind_eq_ok.mp h
      obtain ⟨initialStatus, _, h⟩ := ApiError.bind_eq_ok.mp h
      obtain ⟨_, _, h⟩ := ApiError.bind_eq_ok.mp h
      have hinserted : Numbered inserted.store := by
        unfold insertInitialGame at hinsert
        dsimp only at hinsert
        split at hinsert
        · cases hinsert
        · rw [← (Prod.mk.inj (Except.ok.inj hinsert)).2]
          exact numbered_insert hnumbered rfl
      have hdebited : Numbered debited :=
        numbered_of_games (numbered_persist hinserted _) (applyStakeDebit_eq_ok hdebit).1
      split_ifs at h
      · rwa [← Except.ok.inj h]
      · rw [← Except.ok.inj h]
        exact numbered_of_games (numbered_persist hdebited _) (applyPayoutCredit_games ..)
    · cases h

/-- **The returned game.** Every start of every transaction is given the row it has inserted, in
whatever order equally new rows are read, exactly if all other open games of the user were created
before the transaction began. -/
theorem returns_inserted_iff (hnumbered : Numbered timed.store)
    (hrun : Run (Accepts (startResolvedBlackjackInTransaction config startedAt)) timed events t)
    {e : Event TimedStore TransactionStart} (he : e ∈ events) (stakeAmount : Int)
    (playerCards dealerCards : List BlackjackCard) :
    (∀ order, SortsNewestFirst order →
      ∃ inserted, insertInitialGame order e.before startedAt e.label.request stakeAmount playerCards
        dealerCards = .ok (initialGame e.before.store e.label.request stakeAmount playerCards
          dealerCards, inserted)) ↔
      OthersAreOlder e.before startedAt e.label.request.userId :=
  have hbefore : Numbered e.before.store :=
    (hrun.invariant_around (I := fun timed => Numbered timed.store)
      (fun _ _ _ hu hstep => numbered_step hu hstep) hnumbered he).1
  insertInitialGame_eq_inserted_iff hbefore

end Runs

section Refinement

variable {config : PoolSystemConfig} {startedAt : Int} {timed : TimedStore}
  {start : TransactionStart}

theorem map_bind_congr {ε α β γ : Type} {x : Except ε α} {f : α → Except ε β} {g : α → Except ε γ}
    {k : β → γ} (h : ∀ a, x = .ok a → (f a).map k = g a) : (x >>= f).map k = x >>= g := by
  cases x with
  | error _ => rfl
  | ok a => exact h a rfl

/-- Where the other open games are older, a start in a transaction does what a start does that
keeps hold of its row. -/
theorem start_refines (hnumbered : Numbered timed.store) (hsorts : SortsNewestFirst start.order)
    (holder : OthersAreOlder timed startedAt start.request.userId) :
    (startResolvedBlackjackInTransaction config startedAt timed start).map TimedStore.store =
      startResolvedBlackjack config start.checks timed.store start.request start.now := by
  -- the guard looks at all open games, in whatever order they are read
  have hguard := @(hsorts.perm timed.createdAt
    (timed.store.activeGames start.request.userId)).any_eq _ _ _ fun game =>
      start.request.linkedGroup.isNone || game.linkedGroup ≠ start.request.linkedGroup
  have hrows : loadBlackjackGameRows start.order timed start.request.userId none =
      start.order timed.createdAt (timed.store.activeGames start.request.userId) := rfl
  unfold startResolvedBlackjackInTransaction startResolvedBlackjack
  simp only [hrows, hguard]
  cases hwallet : timed.store.wallets start.request.userId with
  | none => rfl
  | some wallet =>
      refine map_bind_congr fun _ _ => map_bind_congr fun baseStakeAmount _ => ?_
      refine map_bind_congr fun _ _ => map_bind_congr fun _ _ => ?_
      refine map_bind_congr fun _ _ => map_bind_congr fun _ _ => ?_
      rcases start.request.deck with _ | ⟨p1, _ | ⟨d1, _ | ⟨p2, _ | ⟨d2, rest⟩⟩⟩⟩
      · rfl
      · rfl
      · rfl
      · rfl
      · dsimp only
        set stakeAmount := baseStakeAmount * (start.request.stakeMultiplier : ℤ)
        set game := initialGame timed.store start.request stakeAmount [p1, p2] [d1, d2] with hgame
        have hnewest : loadBlackjackGameRows start.order (timed.insert startedAt game)
            start.request.userId (some 1) = [game] :=
          newest_eq_inserted hnumbered hsorts rfl rfl holder
        have hread : game.toGameState = game := toGameState_initialGame
        have hinsert : insertInitialGame start.order timed startedAt start.request stakeAmount
            [p1, p2] [d1, d2] = .ok (game, timed.insert startedAt game) := by
          unfold insertInitialGame
          simp only [← hgame, hnewest, hread]
        have hstored : (timed.insert startedAt game).store.persistGameState
            (syncBlackjackTurnDeadline config game start.now) = { timed.store with
              games := timed.store.games ++ [syncBlackjackTurnDeadline config game start.now] } := by
          have hnew : ∀ earlier ∈ timed.store.games, earlier.id ≠ game.id := fun earlier hearlier =>
            (Nat.lt_succ_of_le (hnumbered earlier hearlier)).ne
          unfold BlackjackStore.persistGameState
          exact congrArg (fun games => { timed.store with games := games }) (modify_append_new hnew)
        rw [hinsert]
        change Except.map TimedStore.store (applyStakeDebit ((timed.insert startedAt
          game).store.persistGameState _) _ _ _ >>= _) = _
        rw [hstored]
        refine map_bind_congr fun _ _ => map_bind_congr fun initialStatus _ => ?_
        refine map_bind_congr fun _ _ => ?_
        split_ifs <;> rfl

end Refinement

section Example

instance (timed : TimedStore) (startedAt : Int) (userId : Nat) :
    Decidable (OthersAreOlder timed startedAt userId) :=
  inferInstanceAs (Decidable (∀ _ ∈ _, _))

def dualBetLeg (deck : List BlackjackCard) : TransactionStart :=
  { request := ⟨1, .finite 10, 1, some "blackjack-dual-bet:1", blackjackConfig, deck⟩
    checks := openChecks
    now := 0
    order := olderIdsFirst }

def richTimed : TimedStore :=
  { store := richPlayers
    createdAt := fun _ => 0 }

/-- The first game of a dual bet is still open when the second is inserted: the second leg is given
the first game. -/
theorem not_returns_inserted :
    ¬∀ config startedAt timed events t, Numbered timed.store →
      Run (Accepts (startResolvedBlackjackInTransaction config startedAt)) timed events t →
      ∀ e ∈ events, ∀ stakeAmount playerCards dealerCards order, SortsNewestFirst order →
        ∃ inserted, insertInitialGame order e.before startedAt e.label.request stakeAmount playerCards
          dealerCards = .ok (initialGame e.before.store e.label.request stakeAmount playerCards
            dealerCards, inserted) := by
  intro hclaim
  obtain ⟨events, t, hrun, hbroken⟩ := Run.exists_of_check
    (startResolvedBlackjackInTransaction noReserve 5) richTimed
    [dualBetLeg winningDeck, dualBetLeg winningDeck]
    (fun events _ => decide (∃ e ∈ events,
      (insertInitialGame olderIdsFirst e.before 5 e.label.request 1000 [] []).toOption.map Prod.fst ≠
        some (initialGame e.before.store e.label.request 1000 [] [])))
    (by decide +kernel)
  obtain ⟨e, he, hother⟩ := of_decide_eq_true hbroken
  have hnumbered : Numbered richTimed.store := by simp [Numbered, richTimed, richPlayers]
  obtain ⟨inserted, hinsert⟩ := hclaim noReserve 5 richTimed events t hnumbered hrun e he 1000 [] []
    olderIdsFirst olderIdsFirst_sorts
  rw [hinsert] at hother
  exact hother rfl

/-- Where the first game ends with a natural, the second leg finds its own. -/
theorem returns_inserted_natural :
    ∃ events t,
      Run (Accepts (startResolvedBlackjackInTransaction noReserve 5)) richTimed events t ∧
      events.length = 2 ∧
      ∀ e ∈ events, ∀ order, SortsNewestFirst order →
        ∃ inserted, insertInitialGame order e.before 5 e.label.request 1000 [] [] =
          .ok (initialGame e.before.store e.label.request 1000 [] [], inserted) := by
  obtain ⟨events, t, hrun, hcheck⟩ := Run.exists_of_check
    (startResolvedBlackjackInTransaction noReserve 5) richTimed
    [dualBetLeg naturalDeck, dualBetLeg winningDeck]
    (fun events _ => decide (events.length = 2 ∧
      ∀ e ∈ events, OthersAreOlder e.before 5 e.label.request.userId))
    (by decide +kernel)
  obtain ⟨hlength, holder⟩ := of_decide_eq_true hcheck
  have hnumbered : Numbered richTimed.store := by simp [Numbered, richTimed, richPlayers]
  exact ⟨events, t, hrun, hlength, fun e he =>
    (returns_inserted_iff hnumbered hrun he 1000 [] []).mpr (holder e he)⟩

theorem start_refines_sample :
    (startResolvedBlackjackInTransaction noReserve 5 richTimed (dualBetLeg winningDeck)).map
      TimedStore.store = startResolvedBlackjack noReserve openChecks richPlayers
        (dualBetLeg winningDeck).request 0 :=
  start_refines (by simp [Numbered, richTimed, richPlayers]) olderIdsFirst_sorts (by decide +kernel)

end Example

end RewardSystem.Blackjack
