import RewardSystem.Withdraw.LockedBalance

/-!
# Each withdrawal locks once and releases once
-/

namespace RewardSystem.Withdraw

open Payment Wallet Transition

/-- The lock of one withdrawal over its life: not there, held with an amount, released. -/
inductive Lock where
  | absent
  | held (amount : Int)
  | released (amount : Int)
  deriving DecidableEq

def lockOf (store : FinanceStore) (id : Nat) : Lock :=
  match store.selectLockedWithdrawal id with
  | none => .absent
  | some row => if isOpen row.status then .held row.amount else .released row.amount

/-- A chain of lock changes: `changes` are the amounts by which the locked balance moved. -/
inductive Life : Lock → List Int → Lock → Prop
  | done (lock : Lock) : Life lock [] lock
  | hold {amount : Int} {changes : List Int} {lock : Lock} :
      Life (.held amount) changes lock → Life .absent (amount :: changes) lock
  | release {amount : Int} {changes : List Int} {lock : Lock} :
      Life (.released amount) changes lock → Life (.held amount) (-amount :: changes) lock

theorem Life.eq_of_absent {changes : List Int} {lock : Lock} (h : Life .absent changes lock)
    (amount : Int) :
    (lock = .held amount → changes = [amount]) ∧
      (lock = .released amount → changes = [amount, -amount]) := by
  cases h with
  | done => simp
  | hold h =>
      cases h with
      | done => simp +contextual
      | release h =>
          cases h with
          | done => simp +contextual

theorem Life.trans {first later : List Int} {a b c : Lock} (hfirst : Life a first b)
    (hlater : Life b later c) : Life a (first ++ later) c := by
  induction hfirst with
  | done => exact hlater
  | hold _ ih => exact .hold (ih hlater)
  | release _ ih => exact .release (ih hlater)

def Operation.concerns (id : Nat) : Operation → Bool
  | .withdrawal op => op.id = id
  | .otherFeature _ => false

def lockedChange (e : Event State Operation) : Int :=
  e.after.store.wallet.lockedBalance - e.before.store.wallet.lockedBalance

def lockedChangesOf (id : Nat) (events : List (Event State Operation)) : List Int :=
  ((events.filter fun e => e.label.concerns id).map lockedChange).filter fun change => change ≠ 0

section Locks

variable {op : WithdrawalOp} {store store' : FinanceStore} {id : Nat} {row : WithdrawalRow}
  {status : WithdrawalStatus} {metadata : WithdrawalMetadata}

def lockWith (amount : Int) (held : Bool) : Lock :=
  if held then .held amount else .released amount

theorem lockOf_of_select (hrow : store.selectLockedWithdrawal id = some row) :
    lockOf store id = lockWith row.amount (isOpen row.status) := by
  simp [lockOf, hrow, lockWith]

theorem lockOf_of_update (hrow : store.selectLockedWithdrawal id = some row)
    (hrows : store'.withdrawals = (store.updateWithdrawal id status metadata).withdrawals) :
    lockOf store' id = lockWith row.amount (isOpen status) := by
  have hselect : store'.selectLockedWithdrawal id =
      some { row with status := status, metadata := metadata } := by
    unfold FinanceStore.selectLockedWithdrawal
    rw [hrows]
    exact Keyed.lookup_modify_self (fun _ h => h) hrow
  exact lockOf_of_select hselect

theorem lockOf_congr
    (h : store'.selectLockedWithdrawal id = store.selectLockedWithdrawal id) :
    lockOf store' id = lockOf store id := by
  rw [lockOf, h, lockOf]

theorem Effect.lockOf_of_ne (heffect : Effect op store store') (hne : op.id ≠ id) :
    lockOf store' id = lockOf store id := by
  have hupdate : ∀ status metadata,
      store'.withdrawals = (store.updateWithdrawal op.id status metadata).withdrawals →
        lockOf store' id = lockOf store id := by
    intro status metadata hrows
    refine lockOf_congr ?_
    unfold FinanceStore.selectLockedWithdrawal
    rw [hrows]
    exact Keyed.lookup_modify_ne (fun _ h => h) (Ne.symm hne)
  cases heffect with
  | unchanged hstore => rw [hstore]
  | created row hid _ _ _ hrows =>
      refine lockOf_congr ?_
      unfold FinanceStore.selectLockedWithdrawal
      rw [hrows]
      exact Keyed.lookup_append_of_ne (hid ▸ hne)
  | moved row status metadata _ _ _ hrows => exact hupdate status metadata hrows
  | closed row status metadata _ _ _ hrows => exact hupdate status metadata hrows

end Locks

section Steps

variable {strict : Bool} {s t : State} {op : WithdrawalOp} {id : Nat}

theorem life_step {operation : Operation} (hwf : WellFormed s.store) (hlaw : LockedAccounted s)
    (h : step strict s operation = .ok t) (hkeeps : KeepsLocks ⟨s, operation, t⟩) :
    Life (lockOf s.store id) (lockedChangesOf id [⟨s, operation, t⟩]) (lockOf t.store id) := by
  obtain ⟨op, rfl, heffect, _⟩ | ⟨change, rfl, rfl⟩ := step_cases h
  · by_cases hid : op.id = id
    · subst hid
      cases heffect with
      | unchanged hstore _ =>
          have hchanges : lockedChangesOf op.id [⟨s, .withdrawal op, t⟩] = [] := by
            simp [lockedChangesOf, lockedChange, hstore]
          rw [hchanges, hstore]
          exact .done _
      | created row hid hnew hamount hstatus hrows hlocked =>
          have hchanges : lockedChangesOf op.id [⟨s, .withdrawal op, t⟩] = [row.amount] := by
            simp [lockedChangesOf, lockedChange, Operation.concerns, hlocked, hamount.ne']
          have hbefore : lockOf s.store op.id = .absent := by simp [lockOf, hnew]
          have hafter : lockOf t.store op.id = .held row.amount := by
            have hselect : t.store.selectLockedWithdrawal op.id = some row := by
              unfold FinanceStore.selectLockedWithdrawal at hnew ⊢
              rw [hrows, ← hid]
              exact Keyed.lookup_append_self (hid ▸ hnew)
            simp [lockOf, hselect, hstatus]
          rw [hchanges, hbefore, hafter]
          exact .hold (.done _)
      | moved row status metadata _ hrow hstatus hrows hlocked =>
          have hchanges : lockedChangesOf op.id [⟨s, .withdrawal op, t⟩] = [] := by
            simp [lockedChangesOf, lockedChange, hlocked]
          rw [hchanges, lockOf_of_update hrow hrows, hstatus, lockOf_of_select hrow]
          exact .done _
      | closed row status metadata hrow hsource hstatus hrows hlocked _ =>
          have hpos := hwf.amount_pos row (Keyed.mem_of_lookup hrow)
          rw [lockOf_of_update hrow hrows, hstatus, lockOf_of_select hrow]
          rcases hsource with hopen | ⟨hpaid, hreverse⟩
          · have hle : row.amount ≤ s.store.wallet.lockedBalance := by
              have hle := openAmount_le_openTotal hwf hrow
              have hamount : openAmount row = row.amount := by simp [openAmount, hopen]
              unfold LockedAccounted at hlaw
              omega
            have hmax : max (s.store.wallet.lockedBalance - row.amount) 0 =
                s.store.wallet.lockedBalance - row.amount := by omega
            have hchanges :
                lockedChangesOf op.id [⟨s, .withdrawal op, t⟩] = [-row.amount] := by
              simp [lockedChangesOf, lockedChange, Operation.concerns, hlocked, hmax, hpos.ne']
            rw [hchanges, hopen]
            exact .release (.done _)
          · have hzero := hkeeps ((reversesPaid_iff hrow).mpr ⟨hreverse, hpaid⟩)
            have hmax : max (s.store.wallet.lockedBalance - row.amount) 0 =
                s.store.wallet.lockedBalance := by
              simp only at hzero
              omega
            have hchanges : lockedChangesOf op.id [⟨s, .withdrawal op, t⟩] = [] := by
              simp [lockedChangesOf, lockedChange, hlocked, hmax]
            rw [hchanges, hpaid]
            exact .done _
    · have hchanges : lockedChangesOf id [⟨s, .withdrawal op, t⟩] = [] := by
        simp [lockedChangesOf, Operation.concerns, hid]
      rw [hchanges, heffect.lockOf_of_ne hid]
      exact .done _
  · have hchanges : lockedChangesOf id [⟨s, .otherFeature change, otherFeature s change⟩] = [] := by
      simp [lockedChangesOf, Operation.concerns]
    rw [hchanges]
    exact .done _

end Steps

/-- The user starts without withdrawals; what is locked belongs to other features. -/
structure Fresh (s : State) : Prop where
  withdrawals : s.store.withdrawals = []
  locked : s.store.wallet.lockedBalance = s.otherLocked

/-- What a run must do: keep the law in every state, move the locked balance by `+amount` and
later at most once by `-amount` for each withdrawal, and refund a paid withdrawal without touching
the locked funds. -/
structure LocksAccounted (events : List (Event State Operation)) (t : State) : Prop where
  law : ∀ e ∈ events, LockedAccounted e.after
  changes : ∀ id row, t.store.selectLockedWithdrawal id = some row →
    lockedChangesOf id events = if isOpen row.status then [row.amount] else [row.amount, -row.amount]
  refund : ∀ e ∈ events, ∀ op row, e.label = .withdrawal op → op.isReverse = true →
    e.before.store.selectLockedWithdrawal op.id = some row → row.status = .paid →
      e.after.store.wallet.withdrawableBalance =
        e.before.store.wallet.withdrawableBalance + row.amount ∧
      e.after.store.wallet.lockedBalance = e.before.store.wallet.lockedBalance

section Runs

variable {strict : Bool} {s t : State} {events : List (Event State Operation)}

theorem Fresh.wellFormed (hfresh : Fresh s) : WellFormed s.store := by
  constructor
  · simp [Keyed.HasKeys, hfresh.withdrawals]
  · simp [hfresh.withdrawals]

theorem Fresh.lockedAccounted (hfresh : Fresh s) : LockedAccounted s := by
  simp [LockedAccounted, openTotal, hfresh.withdrawals, hfresh.locked]

theorem lockedChangesOf_cons (id : Nat) (e : Event State Operation) :
    lockedChangesOf id (e :: events) = lockedChangesOf id [e] ++ lockedChangesOf id events := by
  unfold lockedChangesOf
  rw [← List.filter_append, ← List.map_append, ← List.filter_append, List.singleton_append]

theorem life_run (hrun : Run (Accepts (step strict)) s events t) (hwf : WellFormed s.store)
    (hlaw : LockedAccounted s) (hkeeps : ∀ e ∈ events, KeepsLocks e) (id : Nat) :
    Life (lockOf s.store id) (lockedChangesOf id events) (lockOf t.store id) := by
  induction hrun with
  | nil => exact .done _
  | @cons s m t operation events hstep _ ih =>
      have hhead : KeepsLocks ⟨s, operation, m⟩ := hkeeps _ (by simp)
      have hlaw' := (lockedAccounted_step_iff hwf hlaw hstep).mpr hhead
      rw [lockedChangesOf_cons]
      exact (life_step hwf hlaw hstep hhead).trans
        (ih (wellFormed_step hwf hstep) hlaw' fun e he => hkeeps e (by simp [he]))

/-- The law holds in every state of a run exactly if no step of it takes a paid withdrawal's amount
from the locked funds of others. -/
theorem forall_lockedAccounted_iff (hrun : Run (Accepts (step strict)) s events t)
    (hwf : WellFormed s.store) (hlaw : LockedAccounted s) :
    (∀ e ∈ events, LockedAccounted e.after) ↔ ∀ e ∈ events, KeepsLocks e := by
  have hwfs : ∀ e ∈ events, WellFormed e.after.store := fun e he =>
    (hrun.invariant_around (I := fun s => WellFormed s.store)
      (fun _ _ _ hwf hstep => wellFormed_step hwf hstep) hwf he).2
  have hiff := hrun.forall_after_iff (I := fun s => WellFormed s.store ∧ LockedAccounted s)
    (C := KeepsLocks) (fun u operation v hu hstep =>
      (and_iff_right (wellFormed_step hu.1 hstep)).trans
        (lockedAccounted_step_iff hu.1 hu.2 hstep)) ⟨hwf, hlaw⟩
  rw [← hiff]
  exact forall₂_congr fun e he => (and_iff_right (hwfs e he)).symm

theorem refund_of_reversesPaid {e : Event State Operation} {op : WithdrawalOp}
    {row : WithdrawalRow} (hstep : Accepts (step strict) e.before e.label e.after)
    (hwf : WellFormed e.before.store) (hkeeps : KeepsLocks e) (hlabel : e.label = .withdrawal op)
    (hreverse : op.isReverse = true)
    (hrow : e.before.store.selectLockedWithdrawal op.id = some row) (hpaid : row.status = .paid) :
    e.after.store.wallet.withdrawableBalance =
        e.before.store.wallet.withdrawableBalance + row.amount ∧
      e.after.store.wallet.lockedBalance = e.before.store.wallet.lockedBalance := by
  have hzero := hkeeps ⟨op, row, hlabel, hreverse, hrow, hpaid⟩
  have hpos := hwf.amount_pos row (Keyed.mem_of_lookup hrow)
  obtain ⟨op', hlabel', heffect, _⟩ | ⟨change, hlabel', _⟩ := step_cases hstep
  · obtain rfl : op = op' := by simpa [hlabel] using hlabel'
    cases heffect with
    | unchanged _ hop => exact absurd hpaid (hop row hrow hreverse)
    | created _ _ hnew => simp [hnew] at hrow
    | moved _ _ _ hop => simp [hop] at hreverse
    | closed row' status metadata hrow' _ _ _ hlocked hrefund =>
        obtain rfl : row = row' := by simpa [hrow] using hrow'
        exact ⟨hrefund hreverse, by omega⟩
  · simp [hlabel] at hlabel'

end Runs

section Example

def emptyMetadata : WithdrawalMetadata :=
  { financeCurrentStatus := none
    providerStatus := none
    settlementStatus := none
    failureReason := none
    ledgerEntryTypes := []
    ledgerState := .notWritten
    pendingReview := none
    financeReviewTrail := []
    financeReviewerAdminIds := []
    financeStateTrail := []
    withdrawalControl := ⟨1, 0, "", false⟩ }

def openConditions : WithdrawalConditions :=
  { screening := .ok ()
    withdrawEnabled := true
    minWithdrawAmount := 0
    maxWithdrawAmount := 0
    kycAllowed := .ok ()
    totalToday := 0
    maxPerDay := 0
    minWagerBeforeWithdraw := 0
    payoutMethod := .ok ()
    secondApprovalThreshold := 0
    riskSignals := [] }

def manualReview : FinanceReviewPayload :=
  { adminId := some 7
    operatorNote := some "checked"
    settlementReference := some "wd-1"
    processingChannel := some "manual_bank" }

/-- A wallet with 100.00 that came in by one deposit. -/
def fundedState : State :=
  { store :=
      { wallet := ⟨10000, 0, 0, 0⟩
        withdrawals := []
        deposits := []
        ledgerMutationEvents := []
        ledgerEntries := [⟨.depositCredit, 10000, 0, 10000, .other, {}⟩] }
    otherLocked := 0 }

/-- Two withdrawals of 40.00 are requested and the first one is paid. -/
def payFirst : List Operation :=
  [.withdrawal (.create openConditions 1 4000 emptyMetadata),
    .withdrawal (.create openConditions 2 4000 emptyMetadata),
    .withdrawal (.approve 1 manualReview),
    .withdrawal (.markSubmitted 1 manualReview),
    .withdrawal (.markProcessing 1 manualReview),
    .withdrawal (.pay 1 manualReview)]

theorem fundedState_fresh : Fresh fundedState := ⟨rfl, rfl⟩

end Example

end RewardSystem.Withdraw
