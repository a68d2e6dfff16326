import RewardSystem.Lib.Upserts
import RewardSystem.PlayMode.DeferredPayouts

/-!
# What deferring and releasing come to

A deferral moves amounts from one balance to another and a release moves them back. The books are
therefore compared with what they would be if every pending payout had stayed with the user: only
the user pool, which a release stops at zero, can come to differ.
-/

namespace RewardSystem.PlayMode

open Economy Wallet Transition

inductive BalanceKind where
  | withdrawable
  | bonus
  | locked
  | assetAvailable
  | assetLocked
  | userPool
  | prizePool
  deriving DecidableEq, Repr

def Accounts.balance (accounts : Accounts) : BalanceKind → Int
  | .withdrawable => accounts.wallet.withdrawableBalance
  | .bonus => accounts.wallet.bonusBalance
  | .locked => accounts.wallet.lockedBalance
  | .assetAvailable => accounts.asset.availableBalance
  | .assetLocked => accounts.asset.lockedBalance
  | .userPool => accounts.userPoolBalance
  | .prizePool => accounts.prizePoolBalance

/-- How far withholding a payout moves each balance. -/
def withheldEffect (amount : Int) (balanceType : DeferredBalanceType)
    (fundingSource : DeferredFundingSource) : BalanceKind → Int
  | .withdrawable => if balanceType = .withdrawable then -amount else 0
  | .bonus => if balanceType = .bonus ∧ fundingSource = .prizePool then -amount else 0
  | .locked => if balanceType = .withdrawable ∧ fundingSource = .lockedBalance then amount else 0
  | .assetAvailable => if balanceType = .bonus ∧ fundingSource ≠ .prizePool then -amount else 0
  | .assetLocked => if balanceType = .bonus ∧ fundingSource = .lockedBalance then amount else 0
  | .userPool => if fundingSource = .drawUserPool then amount else 0
  | .prizePool => if fundingSource = .prizePool then amount else 0

def DeferredPayoutRow.held (kind : BalanceKind) (row : DeferredPayoutRow) : Int :=
  if row.status = .pending then
    withheldEffect row.amount row.balanceType (resolveFundingSourceForGame row.gameKey) kind
  else 0

/-- The balance as it would be if every pending payout had been paid out directly. -/
def PlayModeBooks.paidOut (books : PlayModeBooks) (kind : BalanceKind) : Int :=
  books.accounts.balance kind - (books.deferredPayouts.map (DeferredPayoutRow.held kind)).sum

/-- The release lowers the user pool by more than it holds at some row; the negative result is
replaced by zero. -/
def TruncatesIn (fundingSource : DeferredFundingSource) :
    List DeferredPayoutRow → Accounts → Prop
  | [], _ => False
  | row :: rest, accounts =>
      (fundingSource = .drawUserPool ∧ accounts.userPoolBalance < row.amount) ∨
        ∃ next, releaseDeferredPayout row.amount row.balanceType (some fundingSource) accounts =
          .ok next ∧ TruncatesIn fundingSource rest next

def totalAmount (rows : List DeferredPayoutRow) : Int :=
  (rows.map DeferredPayoutRow.amount).sum

def CoversRows (fundingSource : DeferredFundingSource) (rows : List DeferredPayoutRow)
    (userPoolBalance : Int) : Prop :=
  fundingSource = .drawUserPool → rows ≠ [] → totalAmount rows ≤ userPoolBalance

section Deltas

variable {amount : Int} {balanceType : DeferredBalanceType} {source : DeferredFundingSource}
  {accounts accounts' : Accounts} {rows : List DeferredPayoutRow}

/-- What the user pool is short of when a payout is released from it. -/
def shortfall (direction : Direction) (fundingSource : DeferredFundingSource)
    (userPoolBalance amount : Int) : Int :=
  if direction = .release ∧ fundingSource = .drawUserPool then max (amount - userPoolBalance) 0
  else 0

theorem shortfall_nonneg (direction : Direction) (fundingSource : DeferredFundingSource)
    (userPoolBalance amount : Int) :
    0 ≤ shortfall direction fundingSource userPoolBalance amount := by
  unfold shortfall
  split <;> omega

theorem applyWalletDelta_balance {direction : Direction} (hamount : 0 < amount)
    (h : applyWalletDelta amount balanceType direction (some source) accounts = .ok accounts')
    (kind : BalanceKind) :
    accounts'.balance kind =
      accounts.balance kind - direction.signed (withheldEffect amount balanceType source kind) +
        if kind = .userPool then shortfall direction source accounts.userPoolBalance amount
        else 0 := by
  have hpositive : ¬amount ≤ 0 := by omega
  cases balanceType <;> cases source <;> cases direction <;>
    simp [applyWalletDelta, hpositive, usesPlayModeEarnedAsset, Accounts.mutateAsset,
      ApiError.bind_eq_ok, debitUpdate, creditUpdate, lockUpdate, unlockUpdate] at h
  all_goals
    obtain ⟨_, rfl⟩ := h
    cases kind <;>
      simp [Accounts.balance, adjustWallet, withheldEffect, Direction.signed, userPoolAfter,
        shortfall] <;> omega

def totalEffect (fundingSource : DeferredFundingSource) (rows : List DeferredPayoutRow)
    (kind : BalanceKind) : Int :=
  (rows.map fun row => withheldEffect row.amount row.balanceType fundingSource kind).sum

theorem releaseRows_cons {row : DeferredPayoutRow} :
    releaseRows source (row :: rows) accounts = .ok accounts' ↔
      ∃ next, releaseDeferredPayout row.amount row.balanceType (some source) accounts = .ok next ∧
        releaseRows source rows next = .ok accounts' := by
  rw [releaseRows, List.foldlM_cons, ApiError.bind_eq_ok]
  rfl

theorem totalAmount_nonneg (hpositive : ∀ row ∈ rows, 0 < row.amount) : 0 ≤ totalAmount rows := by
  apply List.sum_nonneg
  intro amount hamount
  obtain ⟨row, hrow, rfl⟩ := List.mem_map.mp hamount
  exact (hpositive row hrow).le

theorem coversRows_cons {row : DeferredPayoutRow} {userPoolBalance : Int}
    (hpositive : ∀ row ∈ rows, 0 < row.amount) :
    CoversRows .drawUserPool (row :: rows) userPoolBalance ↔
      row.amount ≤ userPoolBalance ∧
        CoversRows .drawUserPool rows (max (userPoolBalance - row.amount) 0) := by
  have htotal : totalAmount (row :: rows) = row.amount + totalAmount rows := List.sum_cons
  have hnonneg : 0 ≤ totalAmount rows := totalAmount_nonneg hpositive
  simp only [CoversRows, ne_eq, reduceCtorEq, not_false_eq_true, true_imp_iff, htotal]
  by_cases hempty : rows = []
  · simp [hempty, totalAmount]
  · simp only [hempty, not_false_eq_true, true_imp_iff]
    omega

/-- The rows taken together: what is cut off at zero is nothing exactly if the pool covers them
all, and then no single row is truncated. -/
theorem releaseRows_balance (hpositive : ∀ row ∈ rows, 0 < row.amount)
    (h : releaseRows source rows accounts = .ok accounts') :
    ∃ cut, 0 ≤ cut ∧
      (∀ kind, accounts'.balance kind = accounts.balance kind - totalEffect source rows kind +
        if kind = .userPool then cut else 0) ∧
      (cut = 0 ↔ CoversRows source rows accounts.userPoolBalance) ∧
      (TruncatesIn source rows accounts ↔ ¬CoversRows source rows accounts.userPoolBalance) := by
  induction rows generalizing accounts with
  | nil =>
      obtain rfl : accounts = accounts' := by simpa [releaseRows, pure, Except.pure] using h
      exact ⟨0, le_rfl, by simp [totalEffect], by simp [CoversRows], by
        simp [TruncatesIn, CoversRows]⟩
  | cons row rest ih =>
      obtain ⟨next, hnext, hrest⟩ := releaseRows_cons.mp h
      have hamount : 0 < row.amount := hpositive row (by simp)
      have hmore : ∀ other ∈ rest, 0 < other.amount := fun other hother =>
        hpositive other (by simp [hother])
      obtain ⟨cut, hcut, hbalance, hzero, htruncates⟩ := ih hmore hrest
      have hfirst := applyWalletDelta_balance hamount hnext
      have hshort := shortfall_nonneg .release source accounts.userPoolBalance row.amount
      refine ⟨shortfall .release source accounts.userPoolBalance row.amount + cut, by omega,
        fun kind => ?_, ?_⟩
      · have heffect : totalEffect source (row :: rest) kind =
            withheldEffect row.amount row.balanceType source kind + totalEffect source rest kind :=
          List.sum_cons
        rw [hbalance kind, hfirst kind, heffect, Direction.signed]
        by_cases hkind : kind = .userPool
        · simp only [if_pos hkind]
          omega
        · simp only [if_neg hkind]
          omega
      · by_cases hsource : source = .drawUserPool
        · subst hsource
          have hpool : next.userPoolBalance =
              max (accounts.userPoolBalance - row.amount) 0 := by
            have hbalance := hfirst .userPool
            simp only [Accounts.balance, Direction.signed, withheldEffect, shortfall,
              and_self, if_true] at hbalance
            omega
          have hshortfall : shortfall .release .drawUserPool accounts.userPoolBalance row.amount =
              max (row.amount - accounts.userPoolBalance) 0 := by
            simp [shortfall]
          have hcovers := @coversRows_cons rest row accounts.userPoolBalance hmore
          rw [← hpool] at hcovers
          constructor
          · rw [hcovers, ← hzero, hshortfall]
            omega
          · rw [hcovers, TruncatesIn]
            constructor
            · rintro (⟨_, hless⟩ | ⟨other, hother, htruncated⟩)
              · omega
              · obtain rfl := Except.ok.inj (hnext.symm.trans hother)
                exact fun hall => htruncates.mp htruncated hall.2
            · intro huncovered
              by_cases hless : accounts.userPoolBalance < row.amount
              · exact .inl ⟨rfl, hless⟩
              · refine .inr ⟨next, hnext, htruncates.mpr fun hall => ?_⟩
                exact huncovered ⟨by omega, hall⟩
        · have hcovers : ∀ rows pool, CoversRows source rows pool := fun _ _ h =>
            absurd h hsource
          have hnone : cut = 0 := hzero.mpr (hcovers _ _)
          constructor
          · simp [shortfall, hsource, hnone, hcovers]
          · simp only [hcovers, not_true_eq_false, iff_false]
            rintro (⟨h, _⟩ | ⟨other, hother, htruncated⟩)
            · exact hsource h
            · obtain rfl := Except.ok.inj (hnext.symm.trans hother)
              exact htruncates.mp htruncated (hcovers _ _)

end Deltas

/-- The rows are numbered in order, and each withholds something. -/
structure WellKept (rows : List DeferredPayoutRow) : Prop where
  numbered : rows.map DeferredPayoutRow.id = List.range' 1 rows.length
  positive : ∀ row ∈ rows, 0 < row.amount

inductive PlayModeActivity where
  | settled (game : SettledGame)
  | released (gameKey : PlayModeGameKey) (mode : PlayModeType)
  | other

/-- A settled game, a release, or any other change of the balances. -/
inductive PlayModeStep : PlayModeBooks → PlayModeActivity → PlayModeBooks → Prop
  | settled {books books' : PlayModeBooks} {game : SettledGame} {snapshot : PlayModeSnapshot}
      (h : applySettledPlayModePayoutPolicy game books = .ok (snapshot, books')) :
      PlayModeStep books (.settled game) books'
  | released {books books' : PlayModeBooks} {gameKey : PlayModeGameKey} {mode : PlayModeType}
      (h : releasePendingDeferredPayoutsForMode gameKey mode books = .ok books') :
      PlayModeStep books (.released gameKey mode) books'
  | other {books books' : PlayModeBooks}
      (hrows : books'.deferredPayouts = books.deferredPayouts) : PlayModeStep books .other books'

/-- The game ends a snowball that has something pending. -/
def SettledGame.Releases (game : SettledGame) : Prop :=
  game.settledSnapshot.type = .snowball ∧ ¬(game.outcome = .win ∨ game.outcome = .push) ∧
    (0 < game.pendingCountAfter ∨ 0 < game.pendingAmountAfter)

instance (game : SettledGame) : Decidable game.Releases :=
  inferInstanceAs (Decidable (_ ∧ _))

def SettledGame.pendingRows (game : SettledGame) (books : PlayModeBooks) :
    List DeferredPayoutRow :=
  loadPendingRows game.gameKey game.settledSnapshot.type books.deferredPayouts

/-- The step replaces a negative user pool by zero. -/
def Truncates (e : Event PlayModeBooks PlayModeActivity) : Prop :=
  match e.label with
  | .settled game =>
      game.Releases ∧ ∃ deferred, deferPositivePayout game e.before = .ok deferred ∧
        TruncatesIn (resolveFundingSourceForGame game.gameKey) (game.pendingRows deferred)
          deferred.accounts
  | .released gameKey mode =>
      TruncatesIn (resolveFundingSourceForGame gameKey)
        (loadPendingRows gameKey mode e.before.deferredPayouts) e.before.accounts
  | .other => False

/-- When draw payouts are released, the user pool holds what is pending before the step. -/
def Covered (e : Event PlayModeBooks PlayModeActivity) : Prop :=
  match e.label with
  | .settled game =>
      game.Releases → game.gameKey = .draw →
        0 < game.netPayoutAmount ∨ game.pendingRows e.before ≠ [] →
          totalAmount (game.pendingRows e.before) ≤ e.before.accounts.userPoolBalance
  | .released gameKey mode =>
      gameKey = .draw → loadPendingRows gameKey mode e.before.deferredPayouts ≠ [] →
        totalAmount (loadPendingRows gameKey mode e.before.deferredPayouts) ≤
          e.before.accounts.userPoolBalance
  | .other => True

/-- How far the step moves a balance besides deferring and releasing. -/
def movedOtherwise (kind : BalanceKind) (e : Event PlayModeBooks PlayModeActivity) : Int :=
  match e.label with
  | .other => e.after.accounts.balance kind - e.before.accounts.balance kind
  | _ => 0

section Rows

variable {gameKey : PlayModeGameKey} {mode : PlayModeType} {rows : List DeferredPayoutRow}
  {kind : BalanceKind}

theorem WellKept.hasKeys (hkept : WellKept rows) : Keyed.HasKeys DeferredPayoutRow.id rows := by
  rw [Keyed.HasKeys, hkept.numbered]
  exact List.nodup_range'

theorem markDeferredPayoutsReleased_eq (hkeys : Keyed.HasKeys DeferredPayoutRow.id rows) :
    markDeferredPayoutsReleased ((loadPendingRows gameKey mode rows).map DeferredPayoutRow.id) rows =
      rows.map fun row =>
        if row.gameKey = gameKey ∧ row.mode = mode ∧ row.status = .pending then
          { row with status := .released } else row := by
  apply List.map_congr_left
  intro row hrow
  have hmem : row.id ∈ (loadPendingRows gameKey mode rows).map DeferredPayoutRow.id ↔
      row.gameKey = gameKey ∧ row.mode = mode ∧ row.status = .pending := by
    constructor
    · intro hid
      obtain ⟨other, hother, hid⟩ := List.mem_map.mp hid
      obtain ⟨hotherrow, hpending⟩ := List.mem_filter.mp hother
      obtain rfl : other = row := Keyed.eq_of_key_eq hkeys hotherrow hrow hid
      simpa using hpending
    · intro hpending
      exact List.mem_map.mpr ⟨row, List.mem_filter.mpr ⟨hrow, by simpa using hpending⟩, rfl⟩
  simp only [hmem]

theorem held_released :
    ((rows.map fun row =>
        if row.gameKey = gameKey ∧ row.mode = mode ∧ row.status = .pending then
          { row with status := .released } else row).map (DeferredPayoutRow.held kind)).sum =
      (rows.map (DeferredPayoutRow.held kind)).sum -
        totalEffect (resolveFundingSourceForGame gameKey) (loadPendingRows gameKey mode rows)
          kind := by
  induction rows with
  | nil => simp [totalEffect, loadPendingRows]
  | cons row rest ih =>
      by_cases hpending : row.gameKey = gameKey ∧ row.mode = mode ∧ row.status = .pending
      · have hload : loadPendingRows gameKey mode (row :: rest) =
            row :: loadPendingRows gameKey mode rest := by
          simp [loadPendingRows, hpending]
        have hbefore : row.held kind = withheldEffect row.amount row.balanceType
            (resolveFundingSourceForGame gameKey) kind := by
          simp [DeferredPayoutRow.held, hpending]
        have hafter : DeferredPayoutRow.held kind { row with status := .released } = 0 := by
          simp [DeferredPayoutRow.held]
        rw [hload]
        simp only [List.map_cons, List.sum_cons, ih, totalEffect, if_pos hpending, hbefore, hafter]
        omega
      · have hload : loadPendingRows gameKey mode (row :: rest) =
            loadPendingRows gameKey mode rest := by
          simp [loadPendingRows, hpending]
        rw [hload]
        simp only [List.map_cons, List.sum_cons, ih, if_neg hpending]
        omega

theorem wellKept_released (hkept : WellKept rows) :
    WellKept (rows.map fun row =>
      if row.gameKey = gameKey ∧ row.mode = mode ∧ row.status = .pending then
        { row with status := .released } else row) := by
  constructor
  · rw [List.map_map, List.length_map, ← hkept.numbered]
    apply List.map_congr_left
    intro row _
    simp only [Function.comp_apply]
    split <;> rfl
  · intro row hrow
    obtain ⟨old, hold, rfl⟩ := List.mem_map.mp hrow
    split <;> exact hkept.positive old hold

theorem wellKept_createDeferredPayout {balanceType : DeferredBalanceType} {amount : Int}
    (hkept : WellKept rows) (hamount : 0 < amount) :
    WellKept (createDeferredPayout gameKey mode balanceType amount rows) := by
  constructor
  · simp [createDeferredPayout, hkept.numbered, List.range'_1_concat, Nat.add_comm]
  · intro row hrow
    rcases List.mem_append.mp hrow with hrow | hrow
    · exact hkept.positive row hrow
    · rw [List.mem_singleton.mp hrow]
      exact hamount

end Rows

section Steps

variable {books books' : PlayModeBooks} {game : SettledGame} {gameKey : PlayModeGameKey}
  {mode : PlayModeType}

/-- A deferral moves nothing of what is paid out, and its amount is added to the user pool of a
draw. -/
theorem deferPayout_paidOut (hkept : WellKept books.deferredPayouts)
    (hnet : 0 < game.netPayoutAmount) (h : deferPayout game books = .ok books') :
    WellKept books'.deferredPayouts ∧ (∀ kind, books'.paidOut kind = books.paidOut kind) ∧
      (game.gameKey = .draw → books'.accounts.userPoolBalance =
        books.accounts.userPoolBalance + game.netPayoutAmount) ∧
      ∃ row : DeferredPayoutRow, row.amount = game.netPayoutAmount ∧
        game.pendingRows books' = game.pendingRows books ++ [row] := by
  obtain ⟨accounts, haccounts, h⟩ := ApiError.bind_eq_ok.mp h
  obtain rfl := Except.ok.inj h
  have hbalance := applyWalletDelta_balance hnet haccounts
  refine ⟨wellKept_createDeferredPayout hkept hnet, fun kind => ?_, fun hdraw => ?_, ?_⟩
  · rw [PlayModeBooks.paidOut, hbalance kind]
    simp [PlayModeBooks.paidOut, createDeferredPayout, DeferredPayoutRow.held, Direction.signed,
      shortfall]
  · have hpool := hbalance .userPool
    simpa [Accounts.balance, Direction.signed, withheldEffect, shortfall, hdraw,
      resolveFundingSourceForGame] using hpool
  · refine ⟨⟨books.deferredPayouts.length + 1, game.gameKey, game.settledSnapshot.type, .pending,
      game.balanceType, game.netPayoutAmount⟩, rfl, ?_⟩
    simp [SettledGame.pendingRows, loadPendingRows, createDeferredPayout]

theorem release_paidOut (hkept : WellKept books.deferredPayouts)
    (h : releasePendingDeferredPayoutsForMode gameKey mode books = .ok books') :
    WellKept books'.deferredPayouts ∧ ∃ cut, 0 ≤ cut ∧
      (∀ kind, books'.paidOut kind = books.paidOut kind + if kind = .userPool then cut else 0) ∧
      (cut = 0 ↔ CoversRows (resolveFundingSourceForGame gameKey)
        (loadPendingRows gameKey mode books.deferredPayouts) books.accounts.userPoolBalance) ∧
      (TruncatesIn (resolveFundingSourceForGame gameKey)
          (loadPendingRows gameKey mode books.deferredPayouts) books.accounts ↔
        ¬CoversRows (resolveFundingSourceForGame gameKey)
          (loadPendingRows gameKey mode books.deferredPayouts)
          books.accounts.userPoolBalance) := by
  obtain ⟨accounts, haccounts, h⟩ := ApiError.bind_eq_ok.mp h
  obtain rfl := Except.ok.inj h
  have hpositive : ∀ row ∈ loadPendingRows gameKey mode books.deferredPayouts, 0 < row.amount :=
    fun row hrow => hkept.positive row (List.mem_of_mem_filter hrow)
  obtain ⟨cut, hcut, hbalance, hzero, htruncates⟩ := releaseRows_balance hpositive haccounts
  rw [markDeferredPayoutsReleased_eq hkept.hasKeys]
  refine ⟨wellKept_released hkept, cut, hcut, fun kind => ?_, hzero, htruncates⟩
  rw [PlayModeBooks.paidOut, hbalance kind, held_released, PlayModeBooks.paidOut]
  omega

theorem covers_iff {rows : List DeferredPayoutRow} {userPoolBalance : Int} :
    CoversRows (resolveFundingSourceForGame gameKey) rows userPoolBalance ↔
      (gameKey = .draw → rows ≠ [] → totalAmount rows ≤ userPoolBalance) := by
  cases gameKey <;> simp [CoversRows, resolveFundingSourceForGame]

/-- What one step does to what is paid out: all that it does not move otherwise is what it cuts
off the user pool at zero, which is nothing exactly if the pool covers the release. -/
structure Accounted (e : Event PlayModeBooks PlayModeActivity) (cut : Int) : Prop where
  nonneg : 0 ≤ cut
  paidOut : ∀ kind, e.after.paidOut kind =
    e.before.paidOut kind + movedOtherwise kind e + if kind = .userPool then cut else 0
  covered : cut = 0 ↔ Covered e
  truncates : Truncates e ↔ ¬Covered e

theorem deferred_of_not_releases {snapshot : PlayModeSnapshot} (hreleases : ¬game.Releases)
    (h : applySettledPlayModePayoutPolicy game books = .ok (snapshot, books')) :
    books' = books ∨ 0 < game.netPayoutAmount ∧ deferPayout game books = .ok books' := by
  unfold applySettledPlayModePayoutPolicy at h
  cases htype : game.settledSnapshot.type with
  | standard | dualBet =>
      simp only [htype, Except.ok.injEq, Prod.mk.injEq] at h
      exact .inl h.2.symm
  | deferredDouble =>
      simp only [htype] at h
      by_cases hnet : game.netPayoutAmount ≤ 0
      · rw [if_pos hnet, Except.ok.injEq, Prod.mk.injEq] at h
        exact .inl h.2.symm
      · rw [if_neg hnet] at h
        obtain ⟨deferred, hdeferred, h⟩ := ApiError.bind_eq_ok.mp h
        rw [Except.ok.injEq, Prod.mk.injEq] at h
        exact .inr ⟨by omega, h.2 ▸ hdeferred⟩
  | snowball =>
      simp only [htype] at h
      obtain ⟨deferred, hdeferred, h⟩ := ApiError.bind_eq_ok.mp h
      have hkept : books' = deferred := by
        by_cases hwon : game.outcome = .win ∨ game.outcome = .push
        · rw [if_pos hwon, Except.ok.injEq, Prod.mk.injEq] at h
          exact h.2.symm
        · have hnothing : ¬(0 < game.pendingCountAfter ∨ 0 < game.pendingAmountAfter) :=
            fun hpending => hreleases ⟨htype, hwon, hpending⟩
          rw [if_neg hwon, if_neg hnothing] at h
          obtain ⟨released, hreleased, h⟩ := ApiError.bind_eq_ok.mp h
          rw [Except.ok.injEq, Prod.mk.injEq] at h
          rw [← h.2, Except.ok.inj hreleased]
      rw [deferPositivePayout] at hdeferred
      by_cases hnet : 0 < game.netPayoutAmount
      · rw [if_pos hnet] at hdeferred
        exact .inr ⟨hnet, hkept ▸ hdeferred⟩
      · rw [if_neg hnet] at hdeferred
        exact .inl (hkept.trans (Except.ok.inj hdeferred).symm)

theorem released_of_releases {snapshot : PlayModeSnapshot} (hreleases : game.Releases)
    (h : applySettledPlayModePayoutPolicy game books = .ok (snapshot, books')) :
    ∃ deferred, deferPositivePayout game books = .ok deferred ∧
      releasePendingDeferredPayoutsForMode game.gameKey game.settledSnapshot.type deferred =
        .ok books' := by
  obtain ⟨htype, hlost, hpending⟩ := hreleases
  simp only [applySettledPlayModePayoutPolicy, htype] at h
  obtain ⟨deferred, hdeferred, h⟩ := ApiError.bind_eq_ok.mp h
  rw [if_neg hlost, if_pos hpending] at h
  obtain ⟨released, hreleased, h⟩ := ApiError.bind_eq_ok.mp h
  rw [Except.ok.injEq, Prod.mk.injEq] at h
  obtain ⟨_, rfl⟩ := h
  exact ⟨deferred, hdeferred, htype ▸ hreleased⟩

theorem deferPositivePayout_paidOut (hkept : WellKept books.deferredPayouts)
    (h : deferPositivePayout game books = .ok books') :
    WellKept books'.deferredPayouts ∧ (∀ kind, books'.paidOut kind = books.paidOut kind) ∧
      (CoversRows (resolveFundingSourceForGame game.gameKey) (game.pendingRows books')
          books'.accounts.userPoolBalance ↔
        (game.gameKey = .draw → 0 < game.netPayoutAmount ∨ game.pendingRows books ≠ [] →
          totalAmount (game.pendingRows books) ≤ books.accounts.userPoolBalance)) := by
  rw [deferPositivePayout] at h
  rw [covers_iff]
  by_cases hnet : 0 < game.netPayoutAmount
  · rw [if_pos hnet] at h
    obtain ⟨hkept', hpaidOut, hpool, row, hamount, hrows⟩ := deferPayout_paidOut hkept hnet h
    refine ⟨hkept', hpaidOut, imp_congr_right fun hdraw => ?_⟩
    have htotal : totalAmount (game.pendingRows books ++ [row]) =
        totalAmount (game.pendingRows books) + game.netPayoutAmount := by
      simp [totalAmount, hamount]
    rw [hrows, htotal, hpool hdraw]
    simp [hnet]
  · rw [if_neg hnet] at h
    obtain rfl := Except.ok.inj h
    exact ⟨hkept, fun _ => rfl, by simp [hnet]⟩

theorem accounted_of_step {activity : PlayModeActivity} (hkept : WellKept books.deferredPayouts)
    (hstep : PlayModeStep books activity books') :
    WellKept books'.deferredPayouts ∧ ∃ cut, Accounted ⟨books, activity, books'⟩ cut := by
  cases hstep with
  | @settled _ game snapshot h =>
      by_cases hreleases : game.Releases
      · obtain ⟨deferred, hdeferred, hreleased⟩ := released_of_releases hreleases h
        obtain ⟨hkept', hsame, hcovers⟩ := deferPositivePayout_paidOut hkept hdeferred
        obtain ⟨hkept'', cut, hcut, hpaidOut, hzero, htruncates⟩ := release_paidOut hkept' hreleased
        refine ⟨hkept'', cut, hcut, fun kind => ?_, ?_, ?_⟩
        · simp only [movedOtherwise, add_zero, hpaidOut kind, hsame kind]
        · exact hzero.trans (hcovers.trans (by simp [Covered, hreleases]))
        · have hevent : Truncates ⟨books, .settled game, books'⟩ ↔
              TruncatesIn (resolveFundingSourceForGame game.gameKey) (game.pendingRows deferred)
                deferred.accounts := by
            simp [Truncates, hreleases, hdeferred]
          have hcovered : Covered ⟨books, .settled game, books'⟩ ↔
              CoversRows (resolveFundingSourceForGame game.gameKey) (game.pendingRows deferred)
                deferred.accounts.userPoolBalance := by
            simpa [Covered, hreleases] using hcovers.symm
          rw [hevent, hcovered]
          exact htruncates
      · have hsame : WellKept books'.deferredPayouts ∧
            ∀ kind, books'.paidOut kind = books.paidOut kind := by
          obtain rfl | ⟨hnet, hdeferred⟩ := deferred_of_not_releases hreleases h
          · exact ⟨hkept, fun _ => rfl⟩
          · obtain ⟨hkept', hpaidOut, _⟩ := deferPayout_paidOut hkept hnet hdeferred
            exact ⟨hkept', hpaidOut⟩
        refine ⟨hsame.1, 0, le_rfl, fun kind => ?_, ?_, ?_⟩
        · simp [movedOtherwise, hsame.2 kind]
        · simp [Covered, hreleases]
        · simp [Truncates, Covered, hreleases]
  | released h =>
      obtain ⟨hkept', cut, hcut, hpaidOut, hzero, htruncates⟩ := release_paidOut hkept h
      rw [covers_iff] at hzero htruncates
      refine ⟨hkept', cut, hcut, fun kind => ?_, hzero, htruncates⟩
      simp only [movedOtherwise, add_zero, hpaidOut kind]
  | other hrows =>
      refine ⟨hrows ▸ hkept, 0, le_rfl, fun kind => ?_, by simp [Covered], by
        simp [Truncates, Covered]⟩
      simp only [movedOtherwise, PlayModeBooks.paidOut, hrows]
      split <;> omega

end Steps

section Runs

variable {s t : PlayModeBooks} {events : List (Event PlayModeBooks PlayModeActivity)}

/-- A balance after everything else that happened, as if no payout had been deferred. -/
def paidDirectly (s : PlayModeBooks) (events : List (Event PlayModeBooks PlayModeActivity))
    (kind : BalanceKind) : Int :=
  s.accounts.balance kind + (events.map (movedOtherwise kind)).sum

theorem accounted_of_run (hrun : Run PlayModeStep s events t)
    (hkept : WellKept s.deferredPayouts) :
    ∃ cut, 0 ≤ cut ∧
      (∀ kind, t.paidOut kind = s.paidOut kind + (events.map (movedOtherwise kind)).sum +
        if kind = .userPool then cut else 0) ∧
      (cut = 0 ↔ ∀ e ∈ events, Covered e) ∧
      ((∀ e ∈ events, ¬Truncates e) ↔ ∀ e ∈ events, Covered e) := by
  induction hrun with
  | nil => exact ⟨0, le_rfl, by simp, by simp, by simp⟩
  | @cons s m t activity events hstep _ ih =>
      obtain ⟨hkept', first, hfirst⟩ := accounted_of_step hkept hstep
      obtain ⟨rest, hrest, hpaidOut, hzero, htruncates⟩ := ih hkept'
      have hnonneg := hfirst.nonneg
      refine ⟨first + rest, by omega, fun kind => ?_, ?_, ?_⟩
      · have hkind := hfirst.paidOut kind
        rw [hpaidOut kind, List.map_cons, List.sum_cons]
        by_cases huser : kind = .userPool
        · simp only [if_pos huser] at hkind ⊢
          omega
        · simp only [if_neg huser] at hkind ⊢
          omega
      · rw [List.forall_mem_cons, ← hfirst.covered, ← hzero]
        omega
      · rw [List.forall_mem_cons, List.forall_mem_cons, htruncates, hfirst.truncates, not_not]

/-- **Deferral and release.** Every balance but the user pool is in total exactly what it would be
had all payouts been paid directly. So is the user pool, and nothing is cut off at zero, exactly if
it covers the draw payouts whenever they are released; else it is left higher. -/
theorem deferral_undone (hrun : Run PlayModeStep s events t) (hs : s.deferredPayouts = []) :
    (∀ kind, kind ≠ .userPool → t.paidOut kind = paidDirectly s events kind) ∧
      paidDirectly s events .userPool ≤ t.paidOut .userPool ∧
      (t.paidOut .userPool = paidDirectly s events .userPool ∧ (∀ e ∈ events, ¬Truncates e) ↔
        ∀ e ∈ events, Covered e) := by
  have hkept : WellKept s.deferredPayouts := by
    rw [hs]
    exact ⟨rfl, by simp⟩
  have hstart : ∀ kind, s.paidOut kind = s.accounts.balance kind := by
    simp [PlayModeBooks.paidOut, hs]
  obtain ⟨cut, hcut, hpaidOut, hzero, htruncates⟩ := accounted_of_run hrun hkept
  refine ⟨fun kind hkind => ?_, ?_, ?_⟩
  · rw [hpaidOut kind, hstart kind, if_neg hkind, add_zero, paidDirectly]
  · rw [hpaidOut .userPool, hstart .userPool, if_pos rfl, paidDirectly]
    omega
  · rw [htruncates, hpaidOut .userPool, hstart .userPool, if_pos rfl, paidDirectly, ← hzero]
    omega

end Runs

section Sample

/-- A user whose draw has just paid out 100.00 from an empty user pool. -/
def paidOutDraw : PlayModeBooks :=
  { accounts :=
      { wallet := ⟨10000, 0, 0, 0⟩
        asset := ⟨10000, 0, 10000, 0⟩
        userPoolBalance := 0
        prizePoolBalance := 0
        ledgerEntries := [] }
    deferredPayouts := [] }

def doublingDraw : SettledGame :=
  { gameKey := .draw
    outcome := .win
    settledSnapshot := ⟨.deferredDouble, false, 0, 0, 0, 0⟩
    netPayoutAmount := 10000
    balanceType := .bonus }

/-- The payout is taken back, and the user pool gets it. -/
def deferredDraw : PlayModeBooks :=
  { accounts :=
      { paidOutDraw.accounts with
        asset := ⟨0, 0, 10000, 10000⟩
        userPoolBalance := 10000 }
    deferredPayouts := [⟨1, .draw, .deferredDouble, .pending, .bonus, 10000⟩] }

/-- A standard draw for 10.00 wins 110.00, all that the user pool then holds. -/
def secondDraw : PlayModeBooks :=
  { deferredDraw with
    accounts :=
      { deferredDraw.accounts with
        wallet := ⟨9000, 0, 0, 1000⟩
        asset := ⟨11000, 0, 21000, 10000⟩
        userPoolBalance := 0 } }

def releasedDraws : PlayModeBooks :=
  { accounts :=
      { secondDraw.accounts with asset := ⟨21000, 0, 31000, 10000⟩ }
    deferredPayouts := [⟨1, .draw, .deferredDouble, .released, .bonus, 10000⟩] }

def sampleEvents : List (Event PlayModeBooks PlayModeActivity) :=
  [⟨paidOutDraw, .settled doublingDraw, deferredDraw⟩,
    ⟨deferredDraw, .other, secondDraw⟩,
    ⟨secondDraw, .released .draw .deferredDouble, releasedDraws⟩]

theorem run_sampleEvents : Run PlayModeStep paidOutDraw sampleEvents releasedDraws := by
  have hsettled : PlayModeStep paidOutDraw (.settled doublingDraw) deferredDraw :=
    @PlayModeStep.settled _ _ _ ⟨.deferredDouble, true, 10000, 1, 0, 0⟩ rfl
  have hreleased : PlayModeStep secondDraw (.released .draw .deferredDouble) releasedDraws :=
    .released rfl
  exact .cons hsettled (.cons (.other rfl) (.cons hreleased (.nil _)))

/-- Nothing is pending any more, yet the user pool is 100.00 higher than if the payout had stayed
with the user: the release has cut as much off at zero. -/
theorem pool_cut_off :
    ∃ (s t : PlayModeBooks) (events : List (Event PlayModeBooks PlayModeActivity)),
      Run PlayModeStep s events t ∧ s.deferredPayouts = [] ∧
      (∀ row ∈ t.deferredPayouts, row.status ≠ .pending) ∧
      t.accounts.balance .userPool = paidDirectly s events .userPool + 10000 ∧
      ∃ e ∈ events, Truncates e := by
  refine ⟨paidOutDraw, releasedDraws, sampleEvents, run_sampleEvents, rfl, by decide, by decide,
    ⟨secondDraw, .released .draw .deferredDouble, releasedDraws⟩, by simp [sampleEvents], ?_⟩
  exact .inl ⟨rfl, by decide⟩

theorem deferral_undone_sample :
    (∀ kind, kind ≠ .userPool →
        releasedDraws.paidOut kind = paidDirectly paidOutDraw sampleEvents kind) ∧
      paidDirectly paidOutDraw sampleEvents .userPool ≤ releasedDraws.paidOut .userPool ∧
      (releasedDraws.paidOut .userPool = paidDirectly paidOutDraw sampleEvents .userPool ∧
          (∀ e ∈ sampleEvents, ¬Truncates e) ↔
        ∀ e ∈ sampleEvents, Covered e) :=
  deferral_undone run_sampleEvents rfl

end Sample

end RewardSystem.PlayMode
