import RewardSystem.TopUp.Effects

/-!
# A deposit is credited once and reversed once
-/

namespace RewardSystem.TopUp

open Payment Wallet Transition

/-- What the ledger holds for a deposit, by its status. -/
inductive LedgerStage (store : FinanceStore) (row : DepositRow) : Prop
  | untouched (hstatus : row.status ≠ .credited) (hledger : depositLedger store row.id = [])
      (hevents : ∀ action, .deposit row.id action ∉ store.ledgerMutationEvents)
  | credited (hstatus : row.status = .credited)
      (hledger : depositLedger store row.id = [(.depositCredit, row.amount)])
      (hevents : .deposit row.id .reverseWallet ∉ store.ledgerMutationEvents)
  | refunded (hstatus : row.status = .reversed)
      (hledger : depositLedger store row.id =
        [(.depositCredit, row.amount), (.depositReversed, -row.amount)])

structure DepositInvariant (store : FinanceStore) : Prop where
  keys : Keyed.HasKeys DepositRow.id store.deposits
  amount_pos : ∀ row ∈ store.deposits, 0 < row.amount
  trail : ∀ row ∈ store.deposits, TrailAgrees row
  ledger : ∀ row ∈ store.deposits, LedgerStage store row
  absent_ledger : ∀ id, store.lockDepositById id = none → depositLedger store id = []
  absent_events : ∀ id, store.lockDepositById id = none →
    ∀ action, .deposit id action ∉ store.ledgerMutationEvents

/-- The part of the tables that concerns the ledger of deposit `id`. -/
structure SameLedger (id : Nat) (store store' : FinanceStore) : Prop where
  ledger : depositLedger store' id = depositLedger store id
  events : ∀ action, .deposit id action ∈ store'.ledgerMutationEvents ↔
    .deposit id action ∈ store.ledgerMutationEvents

section Ledger

variable {store store' : FinanceStore} {row : DepositRow} {id : Nat}
  {action : DepositLedgerAction} {entryType : LedgerEntryType} {amount : Int}

theorem LedgerStage.congr (hstage : LedgerStage store row) (hsame : SameLedger row.id store store') :
    LedgerStage store' row := by
  cases hstage with
  | untouched hstatus hledger hevents =>
      refine .untouched hstatus (hsame.ledger.trans hledger) fun action => ?_
      rw [hsame.events]
      exact hevents action
  | credited hstatus hledger hevents =>
      refine .credited hstatus (hsame.ledger.trans hledger) ?_
      rwa [hsame.events]
  | refunded hstatus hledger => exact .refunded hstatus (hsame.ledger.trans hledger)

/-- The two outcomes of moving the balance: the mutation event is a repeat, or it is written
together with its ledger row. -/
theorem moveWithdrawable_cases (store : FinanceStore) (row : DepositRow)
    (action : DepositLedgerAction) (entryType : LedgerEntryType) (amount : Int) :
    let store' := moveWithdrawable store row action entryType amount
    (.deposit row.id action ∈ store.ledgerMutationEvents ∧
        store'.ledgerMutationEvents = store.ledgerMutationEvents ∧
        store'.ledgerEntries = store.ledgerEntries) ∨
      (.deposit row.id action ∉ store.ledgerMutationEvents ∧
        store'.ledgerMutationEvents = store.ledgerMutationEvents ++ [.deposit row.id action] ∧
        store'.ledgerEntries = store.ledgerEntries ++
          [{ entryType := entryType
             amount := amount
             balanceBefore := store.wallet.withdrawableBalance
             balanceAfter := store.wallet.withdrawableBalance + amount
             reference := .deposit row.id }]) := by
  by_cases hevent : .deposit row.id action ∈ store.ledgerMutationEvents
  · left
    simp [moveWithdrawable, FinanceStore.applyLedgerMutation, FinanceStore.setWallet, hevent]
  · right
    simp [moveWithdrawable, FinanceStore.applyLedgerMutation, FinanceStore.setWallet, hevent]

theorem sameLedger_move (hne : row.id ≠ id) :
    SameLedger id store (moveWithdrawable store row action entryType amount) := by
  obtain ⟨_, hevents, hentries⟩ | ⟨_, hevents, hentries⟩ :=
    moveWithdrawable_cases store row action entryType amount
  · exact ⟨by rw [depositLedger, hentries, depositLedger], fun other => by rw [hevents]⟩
  · refine ⟨by simp [depositLedger, hentries, hne], fun other => ?_⟩
    rw [hevents]
    simp [Ne.symm hne]

theorem depositLedger_move (hevent : .deposit row.id action ∉ store.ledgerMutationEvents) :
    depositLedger (moveWithdrawable store row action entryType amount) row.id =
      depositLedger store row.id ++ [(entryType, amount)] := by
  obtain ⟨hrepeat, _⟩ | ⟨_, _, hentries⟩ := moveWithdrawable_cases store row action
    entryType amount
  · exact absurd hrepeat hevent
  · simp [depositLedger, hentries]

theorem depositLedger_update_move {status : DepositStatus} {metadata : DepositMetadata}
    (hevent : .deposit row.id action ∉ store.ledgerMutationEvents) :
    depositLedger
        (moveWithdrawable (store.updateDeposit id status metadata) row action entryType amount)
        row.id =
      depositLedger store row.id ++ [(entryType, amount)] :=
  depositLedger_move hevent

theorem events_move {other : DepositLedgerAction} (hne : other ≠ action)
    (hother : .deposit row.id other ∉ store.ledgerMutationEvents) :
    .deposit row.id other ∉
      (moveWithdrawable store row action entryType amount).ledgerMutationEvents := by
  obtain ⟨_, hevents, _⟩ | ⟨_, hevents, _⟩ := moveWithdrawable_cases store row action
    entryType amount
  · rwa [hevents]
  · simp [hevents, hother, hne]

@[simp]
theorem moveWithdrawable_deposits :
    (moveWithdrawable store row action entryType amount).deposits = store.deposits := by
  simp [moveWithdrawable, FinanceStore.setWallet]

@[simp]
theorem moveWithdrawable_withdrawableBalance :
    (moveWithdrawable store row action entryType amount).wallet.withdrawableBalance =
      store.wallet.withdrawableBalance + amount := by
  simp [moveWithdrawable]

end Ledger

section Steps

variable {strict : Bool} {op : DepositOp} {store store' : FinanceStore} {id : Nat}
  {row : DepositRow} {status : DepositStatus} {metadata : DepositMetadata}

theorem mem_of_lockDepositById (hrow : store.lockDepositById id = some row) :
    row ∈ store.deposits :=
  Keyed.mem_of_lookup hrow

theorem DepositInvariant.update (hinv : DepositInvariant store)
    (hrow : store.lockDepositById id = some row)
    (htrail : TrailAgrees row → TrailAgrees { row with status := status, metadata := metadata })
    (hdeposits : store'.deposits = (store.updateDeposit id status metadata).deposits)
    (hothers : ∀ other, id ≠ other → SameLedger other store store')
    (hstage : LedgerStage store' { row with status := status, metadata := metadata }) :
    DepositInvariant store' := by
  have hid : row.id = id := Keyed.key_of_lookup hrow
  have hrows : ∀ other ∈ store'.deposits, (other ∈ store.deposits ∧ other.id ≠ id) ∨
      other = { row with status := status, metadata := metadata } := by
    intro other hother
    rw [hdeposits] at hother
    obtain hold | ⟨old, hold, holdId, rfl⟩ := Keyed.mem_modify.mp hother
    · exact .inl hold
    · have hold : store.lockDepositById id = some old := by
        rw [← holdId]
        exact Keyed.lookup_of_mem hinv.keys hold
      obtain rfl : row = old := by simpa [hrow] using hold
      exact .inr rfl
  have habsent : ∀ other, store'.lockDepositById other = none →
      store.lockDepositById other = none ∧ id ≠ other := by
    intro other hother
    have hother : (store.updateDeposit id status metadata).lockDepositById other = none := by
      rw [← hother, FinanceStore.lockDepositById, FinanceStore.lockDepositById, hdeposits]
    have hne : id ≠ other := by
      rintro rfl
      simp [FinanceStore.lockDepositById_updateDeposit_self hrow] at hother
    rw [FinanceStore.lockDepositById_updateDeposit_ne hne] at hother
    exact ⟨hother, hne⟩
  constructor
  · rw [hdeposits]
    exact Keyed.hasKeys_modify (fun _ h => h) hinv.keys
  · intro other hother
    rcases hrows other hother with ⟨hother, _⟩ | rfl
    · exact hinv.amount_pos other hother
    · exact hinv.amount_pos row (mem_of_lockDepositById hrow)
  · intro other hother
    rcases hrows other hother with ⟨hother, _⟩ | rfl
    · exact hinv.trail other hother
    · exact htrail (hinv.trail row (mem_of_lockDepositById hrow))
  · intro other hother
    rcases hrows other hother with ⟨hother, hne⟩ | rfl
    · exact (hinv.ledger other hother).congr (hothers other.id (Ne.symm hne))
    · exact hstage
  · intro other hother
    obtain ⟨hother, hne⟩ := habsent other hother
    exact (hothers other hne).ledger.trans (hinv.absent_ledger other hother)
  · intro other hother action
    obtain ⟨hother, hne⟩ := habsent other hother
    rw [(hothers other hne).events]
    exact hinv.absent_events other hother action

theorem sameLedger_updateDeposit (other : Nat) :
    SameLedger other store (store.updateDeposit id status metadata) :=
  ⟨rfl, fun _ => Iff.rfl⟩

theorem SameLedger.trans {middle : FinanceStore} (hfirst : SameLedger id store middle)
    (hsecond : SameLedger id middle store') : SameLedger id store store' :=
  ⟨hsecond.ledger.trans hfirst.ledger, fun action => (hsecond.events action).trans
    (hfirst.events action)⟩

theorem LedgerStage.untouched_of (hstage : LedgerStage store row)
    (hcredited : row.status ≠ .credited) (hreversed : row.status ≠ .reversed) :
    depositLedger store row.id = [] ∧
      ∀ action, .deposit row.id action ∉ store.ledgerMutationEvents := by
  cases hstage with
  | untouched _ hledger hevents => exact ⟨hledger, hevents⟩
  | credited hstatus => exact absurd hstatus hcredited
  | refunded hstatus => exact absurd hstatus hreversed

theorem LedgerStage.credited_of (hstage : LedgerStage store row)
    (hstatus : row.status = .credited) :
    depositLedger store row.id = [(.depositCredit, row.amount)] ∧
      .deposit row.id .reverseWallet ∉ store.ledgerMutationEvents := by
  cases hstage with
  | untouched hne => exact absurd hstatus hne
  | credited _ hledger hevents => exact ⟨hledger, hevents⟩
  | refunded hreversed => simp [hstatus] at hreversed

theorem Effect.depositInvariant (heffect : Effect op store store')
    (hinv : DepositInvariant store) : DepositInvariant store' := by
  cases heffect with
  | unchanged hstore => exact hstore ▸ hinv
  | created row hid hnew hstatus hamount htrail hstore =>
      have hlock : ∀ other, store'.lockDepositById other = none →
          store.lockDepositById other = none := by
        intro other hother
        rw [hstore] at hother
        simp only [FinanceStore.lockDepositById, Keyed.lookup, List.find?_append,
          Option.or_eq_none_iff] at hother
        exact hother.1
      rw [hstore]
      constructor
      · exact Keyed.hasKeys_append hinv.keys (hid ▸ hnew)
      · intro other hother
        rcases List.mem_append.mp hother with hother | hother
        · exact hinv.amount_pos other hother
        · rwa [List.mem_singleton.mp hother]
      · intro other hother
        rcases List.mem_append.mp hother with hother | hother
        · exact hinv.trail other hother
        · rwa [List.mem_singleton.mp hother]
      · intro other hother
        rcases List.mem_append.mp hother with hother | hother
        · exact (hinv.ledger other hother).congr ⟨rfl, fun _ => Iff.rfl⟩
        · rw [List.mem_singleton.mp hother]
          refine .untouched (by simp [hstatus]) ?_ ?_
          · exact hid ▸ hinv.absent_ledger op.id hnew
          · exact hid ▸ hinv.absent_events op.id hnew
      · intro other hother
        exact hinv.absent_ledger other (hlock other (hstore ▸ hother))
      · intro other hother
        exact hinv.absent_events other (hlock other (hstore ▸ hother))
  | moved row toStatus metadata hrow hsource hedge htarget htrail hstore =>
      rw [hstore]
      refine hinv.update hrow htrail rfl (fun other _ => sameLedger_updateDeposit other) ?_
      cases hinv.ledger row (mem_of_lockDepositById hrow) with
      | untouched _ hledger hevents => exact .untouched htarget hledger hevents
      | credited hstatus => exact absurd hstatus hsource
      | refunded hstatus => simp [HasTransition, depositTransitions, hstatus] at hedge
  | credited row metadata hrow hsource htrail hstore =>
      have hid : row.id = op.id := Keyed.key_of_lookup hrow
      obtain ⟨hledger, hevents⟩ := (hinv.ledger row (mem_of_lockDepositById hrow)).untouched_of
        (by simp [hsource]) (by simp [hsource])
      rw [hstore]
      refine hinv.update hrow htrail (by simp) (fun other hne => ?_) ?_
      · exact (sameLedger_updateDeposit other).trans (sameLedger_move (hid ▸ hne))
      · refine .credited rfl ?_ (events_move (by decide) (hevents .reverseWallet))
        exact (depositLedger_update_move (hevents .creditWallet)).trans (by rw [hledger]; rfl)
  | refunded row metadata hrow hsource htrail hstore =>
      have hid : row.id = op.id := Keyed.key_of_lookup hrow
      obtain ⟨hledger, hevent⟩ := (hinv.ledger row (mem_of_lockDepositById hrow)).credited_of hsource
      rw [hstore]
      refine hinv.update hrow htrail (by simp) (fun other hne => ?_) ?_
      · exact (sameLedger_updateDeposit other).trans (sameLedger_move (hid ▸ hne))
      · refine .refunded rfl ?_
        exact (depositLedger_update_move hevent).trans (by rw [hledger]; rfl)

end Steps

def Operation.concerns (id : Nat) : Operation → Bool
  | .deposit op => op.id = id
  | .otherFeature => false

def walletChange (e : Event FinanceStore Operation) : Int :=
  e.after.wallet.withdrawableBalance - e.before.wallet.withdrawableBalance

/-- The changes of the withdrawable balance made by the operations on one deposit. -/
def walletChangesOf (id : Nat) (events : List (Event FinanceStore Operation)) : List Int :=
  ((events.filter fun e => e.label.concerns id).map walletChange).filter fun change => change ≠ 0

def ledgerAmounts (store : FinanceStore) (id : Nat) : List Int :=
  (depositLedger store id).map Prod.snd

/-- No deposit, and no ledger row of one. -/
structure Fresh (store : FinanceStore) : Prop where
  deposits : store.deposits = []
  ledger : ∀ id, depositLedger store id = []
  events : ∀ id action, .deposit id action ∉ store.ledgerMutationEvents

section Runs

variable {strict : Bool} {s t : FinanceStore} {events : List (Event FinanceStore Operation)}

theorem Fresh.depositInvariant (hfresh : Fresh s) : DepositInvariant s := by
  constructor
  · simp [Keyed.HasKeys, hfresh.deposits]
  · simp [hfresh.deposits]
  · simp [hfresh.deposits]
  · simp [hfresh.deposits]
  · exact fun id _ => hfresh.ledger id
  · exact fun id _ => hfresh.events id

theorem depositInvariant_step {operation : Operation} (hinv : DepositInvariant s)
    (hstep : Step strict s operation t) : DepositInvariant t := by
  cases hstep with
  | deposit hrun => exact (effect_run hrun).depositInvariant hinv
  | otherFeature hdeposits hevents hledger =>
      have hsame : ∀ id, SameLedger id s t := fun id => ⟨hledger id, hevents id⟩
      have hlock : ∀ id, t.lockDepositById id = s.lockDepositById id := by
        intro id
        rw [FinanceStore.lockDepositById, hdeposits, FinanceStore.lockDepositById]
      constructor
      · rw [hdeposits]
        exact hinv.keys
      · rw [hdeposits]
        exact hinv.amount_pos
      · rw [hdeposits]
        exact hinv.trail
      · intro row hrow
        rw [hdeposits] at hrow
        exact (hinv.ledger row hrow).congr (hsame row.id)
      · intro id hnone
        exact (hledger id).trans (hinv.absent_ledger id (by rwa [← hlock]))
      · intro id hnone action
        rw [hevents]
        exact hinv.absent_events id (by rwa [← hlock]) action

theorem walletChangesOf_of_ne {e : Event FinanceStore Operation} {id : Nat}
    (hne : e.label.concerns id = false) : walletChangesOf id [e] = [] := by
  simp [walletChangesOf, hne]

theorem ledgerAmounts_of_same {operation : Operation} {id : Nat}
    (hledger : depositLedger t id = depositLedger s id)
    (hchanges : walletChangesOf id [⟨s, operation, t⟩] = []) :
    ledgerAmounts t id = ledgerAmounts s id ++ walletChangesOf id [⟨s, operation, t⟩] := by
  rw [hchanges, ledgerAmounts, hledger, ledgerAmounts, List.append_nil]

theorem ledgerAmounts_of_move {op : DepositOp} {id : Nat} {row : DepositRow}
    {status : DepositStatus} {metadata : DepositMetadata} {action : DepositLedgerAction}
    {entryType : LedgerEntryType} {amount : Int} (hid : row.id = op.id)
    (hevent : .deposit row.id action ∉ s.ledgerMutationEvents) (hamount : amount ≠ 0)
    (hstore : t =
      moveWithdrawable (s.updateDeposit op.id status metadata) row action entryType amount) :
    ledgerAmounts t id = ledgerAmounts s id ++ walletChangesOf id [⟨s, .deposit op, t⟩] := by
  by_cases hop : op.id = id
  · have hmove : depositLedger t row.id = depositLedger s row.id ++ [(entryType, amount)] := by
      rw [hstore]
      exact depositLedger_update_move hevent
    have hchanges : walletChangesOf id [⟨s, .deposit op, t⟩] = [amount] := by
      simp [walletChangesOf, walletChange, Operation.concerns, hop, hstore, hamount]
    rw [hchanges, ledgerAmounts, ← hop, ← hid, hmove, ledgerAmounts]
    simp
  · have hledger : depositLedger t id = depositLedger s id := by
      rw [hstore]
      exact (sameLedger_move (hid ▸ hop)).ledger
    exact ledgerAmounts_of_same hledger
      (walletChangesOf_of_ne (by simpa [Operation.concerns] using hop))

theorem Effect.ledgerAmounts_eq {op : DepositOp} (heffect : Effect op s t)
    (hinv : DepositInvariant s) (id : Nat) :
    ledgerAmounts t id = ledgerAmounts s id ++ walletChangesOf id [⟨s, .deposit op, t⟩] := by
  have hsame : t.wallet = s.wallet → depositLedger t id = depositLedger s id →
      ledgerAmounts t id = ledgerAmounts s id ++ walletChangesOf id [⟨s, .deposit op, t⟩] :=
    fun hwallet hledger =>
      ledgerAmounts_of_same hledger (by simp [walletChangesOf, walletChange, hwallet])
  cases heffect with
  | unchanged hstore => exact hsame (by rw [hstore]) (by rw [hstore])
  | created row _ _ _ _ _ hstore => exact hsame (by rw [hstore]) (by rw [hstore]; rfl)
  | moved row status metadata _ _ _ _ _ hstore =>
      exact hsame (by rw [hstore]; rfl) (by rw [hstore]; rfl)
  | credited row metadata hrow hsource _ hstore =>
      have hmem := mem_of_lockDepositById hrow
      have hpos := hinv.amount_pos row hmem
      obtain ⟨_, hevents⟩ := (hinv.ledger row hmem).untouched_of (by simp [hsource])
        (by simp [hsource])
      exact ledgerAmounts_of_move (Keyed.key_of_lookup hrow) (hevents .creditWallet) hpos.ne' hstore
  | refunded row metadata hrow hsource _ hstore =>
      have hmem := mem_of_lockDepositById hrow
      have hpos := hinv.amount_pos row hmem
      obtain ⟨_, hevent⟩ := (hinv.ledger row hmem).credited_of hsource
      exact ledgerAmounts_of_move (Keyed.key_of_lookup hrow) hevent (by omega) hstore

theorem ledgerAmounts_step {operation : Operation} (hinv : DepositInvariant s)
    (hstep : Step strict s operation t) (id : Nat) :
    ledgerAmounts t id = ledgerAmounts s id ++ walletChangesOf id [⟨s, operation, t⟩] := by
  cases hstep with
  | deposit hrun => exact (effect_run hrun).ledgerAmounts_eq hinv id
  | otherFeature _ _ hledger =>
      exact ledgerAmounts_of_same (hledger id) (walletChangesOf_of_ne rfl)

theorem ledgerAmounts_run (hrun : Run (Step strict) s events t) (hinv : DepositInvariant s)
    (id : Nat) : ledgerAmounts t id = ledgerAmounts s id ++ walletChangesOf id events := by
  induction hrun with
  | nil => simp [walletChangesOf]
  | @cons s m t operation events hstep _ ih =>
      have hcons : walletChangesOf id (⟨s, operation, m⟩ :: events) =
          walletChangesOf id [⟨s, operation, m⟩] ++ walletChangesOf id events := by
        unfold walletChangesOf
        rw [← List.filter_append, ← List.map_append, ← List.filter_append, List.singleton_append]
      rw [ih (depositInvariant_step hinv hstep), ledgerAmounts_step hinv hstep, hcons,
        List.append_assoc]

end Runs

/-- **Exactly once.** After any run, a deposit has moved the wallet and its ledger not at all, by
its amount, or by its amount and back, as its status says; and its trail is a path of the declared
transitions to that status. -/
theorem deposit_exactly_once {strict : Bool} {s t : FinanceStore}
    {events : List (Event FinanceStore Operation)} {id : Nat} {row : DepositRow} (hfresh : Fresh s)
    (hrun : Run (Step strict) s events t) (hrow : t.lockDepositById id = some row) :
    ((row.status ≠ .credited ∧ walletChangesOf id events = [] ∧ depositLedger t id = []) ∨
      (row.status = .credited ∧ walletChangesOf id events = [row.amount] ∧
        depositLedger t id = [(.depositCredit, row.amount)]) ∨
      (row.status = .reversed ∧ walletChangesOf id events = [row.amount, -row.amount] ∧
        depositLedger t id = [(.depositCredit, row.amount), (.depositReversed, -row.amount)])) ∧
      RecordedTrail (recordedTrail row.metadata) row.status := by
  have hinv : DepositInvariant t :=
    hrun.invariant (fun _ _ _ hinv hstep => depositInvariant_step hinv hstep)
      hfresh.depositInvariant
  have hmem := mem_of_lockDepositById hrow
  have hid : row.id = id := Keyed.key_of_lookup hrow
  have hchanges : walletChangesOf id events = (depositLedger t id).map Prod.snd := by
    have hamounts := ledgerAmounts_run hrun hfresh.depositInvariant id
    simpa [ledgerAmounts, hfresh.ledger id] using hamounts.symm
  refine ⟨?_, (hinv.trail row hmem).trail⟩
  rw [hchanges]
  cases hinv.ledger row hmem with
  | untouched hstatus hledger =>
      rw [hid] at hledger
      exact .inl ⟨hstatus, by simp [hledger], hledger⟩
  | credited hstatus hledger =>
      rw [hid] at hledger
      exact .inr (.inl ⟨hstatus, by simp [hledger], hledger⟩)
  | refunded hstatus hledger =>
      rw [hid] at hledger
      exact .inr (.inr ⟨hstatus, by simp [hledger], hledger⟩)

section Example

def emptyMetadata : DepositMetadata :=
  { financeCurrentStatus := none
    providerStatus := none
    settlementStatus := none
    failureReason := none
    ledgerEntryTypes := []
    ledgerState := .notWritten
    pendingReview := none
    financeReviewTrail := []
    financeReviewerAdminIds := []
    financeStateTrail := [.submitted]
    withdrawalControl := ⟨1, 0, "", false⟩ }

def providerReview : FinanceReviewPayload :=
  { adminId := none
    operatorNote := none
    settlementReference := some "dep-1"
    processingChannel := none }

def emptyStore : FinanceStore :=
  { wallet := ⟨0, 0, 0, 0⟩
    withdrawals := []
    deposits := []
    ledgerMutationEvents := []
    ledgerEntries := [] }

def creditTwiceAndReverse : List DepositOp :=
  [.create ⟨.ok (), true, 0, 0⟩ 1 2500 emptyMetadata, .markPending 1 providerReview,
    .markSucceeded 1 providerReview, .credit (.ok ()) 1 providerReview,
    .credit (.ok ()) 1 providerReview, .reverse 1 providerReview]

theorem deposit_exactly_once_reversed :
    ∃ events t row, Run (Step true) emptyStore events t ∧ t.lockDepositById 1 = some row ∧
      row.status = .reversed ∧ walletChangesOf 1 events = [2500, -2500] ∧
      RecordedTrail (recordedTrail row.metadata) row.status := by
  obtain ⟨events, t, hrun, hcheck⟩ := Run.exists_of_check (fun store op => op.run true store)
    emptyStore creditTwiceAndReverse
    (fun _ t => (t.lockDepositById 1).any fun row =>
      row.status = .reversed ∧ row.amount = 2500 ∧ depositLedger t 1 ≠ [])
    (by decide +kernel)
  obtain ⟨row, hrow, hrest⟩ := (Option.any_eq_true _ _).mp hcheck
  obtain ⟨hstatus, hamount, hledger⟩ := of_decide_eq_true hrest
  have hsteps := hrun.map Operation.deposit fun _ _ _ hstep => Step.deposit hstep
  have hfresh : Fresh emptyStore := ⟨rfl, fun _ => rfl, fun _ _ => List.not_mem_nil⟩
  obtain ⟨hcases, htrail⟩ := deposit_exactly_once hfresh hsteps hrow
  refine ⟨_, t, row, hsteps, hrow, hstatus, ?_, htrail⟩
  obtain ⟨_, _, hnone⟩ | ⟨hcredited, _⟩ | ⟨_, hchanges, _⟩ := hcases
  · exact absurd hnone hledger
  · simp [hstatus] at hcredited
  · rw [hchanges, hamount]

end Example

end RewardSystem.TopUp
