import RewardSystem.Lib.Runs
import RewardSystem.TopUp.Service

/-!
# What an accepted operation does to a deposit
-/

namespace RewardSystem.TopUp

open Payment Wallet Transition

inductive DepositOp where
  | create (conditions : DepositConditions) (id : Nat) (amount : Int) (submitted : DepositMetadata)
  | markPending (id : Nat) (review : FinanceReviewPayload)
  | markSucceeded (id : Nat) (review : FinanceReviewPayload)
  | credit (missions : Except ApiError Unit) (id : Nat) (review : FinanceReviewPayload)
  | fail (id : Nat) (review : FinanceReviewPayload)
  | reverse (id : Nat) (review : FinanceReviewPayload)

namespace DepositOp

def id : DepositOp → Nat
  | create _ id _ _ => id
  | markPending id _ => id
  | markSucceeded id _ => id
  | credit _ id _ => id
  | fail id _ => id
  | reverse id _ => id

def run (strict : Bool) (store : FinanceStore) : DepositOp → Except ApiError FinanceStore
  | create conditions id amount submitted => createTopUp conditions id amount submitted store
  | markPending id review => markDepositProviderPending id review store
  | markSucceeded id review => markDepositProviderSucceeded id review store
  | credit missions id review => creditDeposit strict missions id review store
  | fail id review => failDeposit id review store
  | reverse id review => reverseDeposit strict id review store

end DepositOp

def depositLedger (store : FinanceStore) (id : Nat) : List (LedgerEntryType × Int) :=
  (store.ledgerEntries.filter fun entry => entry.reference = .deposit id).map fun entry =>
    (entry.entryType, entry.amount)

inductive Operation where
  | deposit (op : DepositOp)
  | otherFeature

/-- A lifecycle operation, or any other activity: it leaves the deposits and their ledger rows
alone and may do anything else. -/
inductive Step (strict : Bool) : FinanceStore → Operation → FinanceStore → Prop
  | deposit {store store' : FinanceStore} {op : DepositOp} (hrun : op.run strict store = .ok store') :
      Step strict store (.deposit op) store'
  | otherFeature {store store' : FinanceStore} (hdeposits : store'.deposits = store.deposits)
      (hevents : ∀ id action, .deposit id action ∈ store'.ledgerMutationEvents ↔
        .deposit id action ∈ store.ledgerMutationEvents)
      (hledger : ∀ id, depositLedger store' id = depositLedger store id) :
      Step strict store .otherFeature store'

/-- The entries that the operations recorded, without the objects the client sent along. -/
def recordedTrail (metadata : DepositMetadata) : List (StateTrailEntry DepositStatus) :=
  metadata.financeStateTrail.filter fun entry => entry ≠ .submitted

/-- A trail that starts at `requested` and follows the edges of `depositTransitions`. Each
transition is recorded twice, by the state machine and by the order's semantic state. -/
inductive RecordedTrail : List (StateTrailEntry DepositStatus) → DepositStatus → Prop
  | requested {actor : TransitionActor} {event : String} {note p s f l p' s' f' l' : Option String}
      {state state' : LedgerState} :
      RecordedTrail
        [.transition none .requested actor event note,
          .financeState (some .requested) .requested p s f l state,
          .financeState (some .requested) .requested p' s' f' l' state'] .requested
  | moved {trail : List (StateTrailEntry DepositStatus)} {fromStatus toStatus : DepositStatus}
      {actor : TransitionActor} {event : String} {note p s f l : Option String}
      {state : LedgerState} (htrail : RecordedTrail trail fromStatus)
      (hedge : HasTransition depositTransitions fromStatus toStatus) :
      RecordedTrail
        (trail ++ [.transition (some fromStatus) toStatus actor event note,
          .financeState (some fromStatus) toStatus p s f l state]) toStatus

structure TrailAgrees (row : DepositRow) : Prop where
  trail : RecordedTrail (recordedTrail row.metadata) row.status
  current : row.metadata.financeCurrentStatus = some row.status

section Trails

variable {row : DepositRow} {toStatus : DepositStatus} {metadata metadata' : DepositMetadata}
  {params : WorkflowParams}

theorem trailAgrees_transition (hrow : TrailAgrees row)
    (htrail : metadata.financeStateTrail = row.metadata.financeStateTrail)
    (hcurrent : metadata.financeCurrentStatus = row.metadata.financeCurrentStatus)
    (h : appendDepositWorkflowMetadata metadata (some row.status) toStatus params = .ok metadata') :
    TrailAgrees { row with status := toStatus, metadata := metadata' } := by
  obtain ⟨_, hassert, h⟩ := ApiError.bind_eq_ok.mp h
  have hedge := assertDepositTransition_some_eq_ok.mp hassert
  simp only [Except.ok.injEq] at h
  refine ⟨?_, by rw [← h]; rfl⟩
  have hrecorded : recordedTrail metadata' = recordedTrail row.metadata ++
      [.transition (some row.status) toStatus params.actor params.event
          (normalizeOptionalString params.note),
        .financeState (some row.status) toStatus params.providerStatus params.settlementStatus
          params.failureReason params.ledgerEntryType metadata'.ledgerState] := by
    rw [← h]
    simp [recordedTrail, appendFinanceStateMetadata, appendStateTransition, htrail, hcurrent,
      hrow.current]
  rw [hrecorded]
  exact .moved hrow.trail hedge

theorem trailAgrees_requested {submitted : DepositMetadata} {id : Nat} {amount : Int}
    (h : requestedMetadata submitted = .ok metadata) :
    TrailAgrees { id := id, amount := amount, status := .requested, metadata := metadata } := by
  obtain ⟨first, hfirst, h⟩ := ApiError.bind_eq_ok.mp h
  obtain ⟨_, _, hfirst⟩ := ApiError.bind_eq_ok.mp hfirst
  simp only [Except.ok.injEq] at hfirst h
  refine ⟨?_, by rw [← h]; rfl⟩
  have hrecorded : recordedTrail metadata =
      [.transition none .requested .user "deposit_requested" none,
        .financeState (some .requested) .requested none none none none first.ledgerState,
        .financeState (some .requested) .requested none none none none metadata.ledgerState] := by
    rw [← h, ← hfirst]
    simp [recordedTrail, appendFinanceStateMetadata, appendStateTransition, requestedParams]
    decide
  rw [hrecorded]
  exact .requested

end Trails

/-- What one accepted operation does. -/
inductive Effect (op : DepositOp) (store store' : FinanceStore) : Prop
  | unchanged (hstore : store' = store)
  | created (row : DepositRow) (hid : row.id = op.id) (hnew : store.lockDepositById op.id = none)
      (hstatus : row.status = .requested) (hamount : 0 < row.amount) (htrail : TrailAgrees row)
      (hstore : store' = { store with deposits := store.deposits ++ [row] })
  | moved (row : DepositRow) (toStatus : DepositStatus) (metadata : DepositMetadata)
      (hrow : store.lockDepositById op.id = some row) (hsource : row.status ≠ .credited)
      (hedge : HasTransition depositTransitions row.status toStatus)
      (htarget : toStatus ≠ .credited)
      (htrail : TrailAgrees row →
        TrailAgrees { row with status := toStatus, metadata := metadata })
      (hstore : store' = store.updateDeposit op.id toStatus metadata)
  | credited (row : DepositRow) (metadata : DepositMetadata)
      (hrow : store.lockDepositById op.id = some row) (hsource : row.status = .providerSucceeded)
      (htrail : TrailAgrees row →
        TrailAgrees { row with status := .credited, metadata := metadata })
      (hstore : store' = moveWithdrawable (store.updateDeposit op.id .credited metadata) row
        .creditWallet .depositCredit row.amount)
  | refunded (row : DepositRow) (metadata : DepositMetadata)
      (hrow : store.lockDepositById op.id = some row) (hsource : row.status = .credited)
      (htrail : TrailAgrees row →
        TrailAgrees { row with status := .reversed, metadata := metadata })
      (hstore : store' = moveWithdrawable (store.updateDeposit op.id .reversed metadata) row
        .reverseWallet .depositReversed (-row.amount))

section Effects

variable {strict : Bool} {store store' : FinanceStore} {id : Nat} {review : FinanceReviewPayload}

theorem transition_cases {row : DepositRow} {toStatus : DepositStatus}
    {gate : DualReviewParams DepositStatus DepositAction}
    {reviewState : DualReviewResult DepositStatus DepositAction} {action : DepositAction}
    {params : WorkflowParams} (hbypass : gate.bypassDualReview = true)
    (hgate : applyDualReviewGate row.metadata gate = .ok reviewState)
    (hne : row.status ≠ toStatus)
    (h : transitionDepositStatus store row toStatus (recordReview reviewState action) params =
      .ok store') :
    ∃ metadata, store' = store.updateDeposit row.id toStatus metadata ∧
      HasTransition depositTransitions row.status toStatus ∧
      (TrailAgrees row → TrailAgrees { row with status := toStatus, metadata := metadata }) := by
  rw [transitionDepositStatus, if_neg hne] at h
  obtain ⟨metadata, hmetadata, h⟩ := ApiError.bind_eq_ok.mp h
  obtain ⟨htrail, hcurrent⟩ := recordReview_of_bypass action hbypass hgate
  obtain ⟨_, hassert, _⟩ := ApiError.bind_eq_ok.mp hmetadata
  exact ⟨metadata, by simpa using h.symm, assertDepositTransition_some_eq_ok.mp hassert,
    fun hrow => trailAgrees_transition hrow htrail hcurrent hmetadata⟩

theorem effect_mark {op : DepositOp} {mark : DepositMark} (hsources : .credited ∉ mark.sources)
    (htarget : mark.target ≠ .credited)
    (h : markDeposit mark op.id review store = .ok store') : Effect op store store' := by
  obtain ⟨hsame, _⟩ | ⟨row, hrow, hstatus, hbody⟩ := onOrder_cases h
  · exact .unchanged hsame
  · have hstatus : row.status ∈ mark.sources := by simpa using hstatus
    have hsource : row.status ≠ .credited := by
      intro hcredited
      exact hsources (hcredited ▸ hstatus)
    obtain ⟨reviewState, hgate, hbody⟩ := ApiError.bind_eq_ok.mp hbody
    have hconfirmed := (applyDualReviewGate_of_bypass rfl hgate).1
    simp only [hconfirmed, Bool.true_eq_false, if_false] at hbody
    by_cases hsame : row.status = mark.target
    · rw [transitionDepositStatus, if_pos hsame] at hbody
      exact .unchanged (by simpa using hbody.symm)
    · obtain ⟨metadata, hstore, hedge, htrail⟩ := transition_cases rfl hgate hsame hbody
      rw [Keyed.key_of_lookup hrow] at hstore
      exact .moved row mark.target metadata hrow hsource hedge htarget htrail hstore

theorem effect_create {conditions : DepositConditions} {amount : Int}
    {submitted : DepositMetadata}
    (h : createTopUp conditions id amount submitted store = .ok store') :
    Effect (.create conditions id amount submitted) store store' := by
  obtain ⟨_, hallowed, h⟩ := ApiError.bind_eq_ok.mp h
  obtain ⟨metadata, hmetadata, h⟩ := ApiError.bind_eq_ok.mp h
  obtain ⟨_, hfresh, h⟩ := ApiError.bind_eq_ok.mp h
  have hnew : store.lockDepositById id = none := by simpa using hfresh
  exact .created _ rfl hnew rfl (amount_pos_of_assertDepositAllowed hallowed)
    (trailAgrees_requested hmetadata) (by simpa using h.symm)

theorem effect_credit {missions : Except ApiError Unit}
    (h : creditDeposit strict missions id review store = .ok store') :
    Effect (.credit missions id review) store store' := by
  obtain ⟨hsame, _⟩ | ⟨row, hrow, _, hbody⟩ := onOrder_cases h
  · exact .unchanged hsame
  · obtain ⟨credited, hcredited, hbody⟩ := ApiError.bind_eq_ok.mp hbody
    obtain rfl := FinanceStore.assertInvariant_eq_ok hbody
    unfold creditDepositRecord at hcredited
    by_cases hsource : row.status = .providerSucceeded
    · rw [if_neg (not_not.mpr hsource)] at hcredited
      obtain ⟨reviewState, hgate, hcredited⟩ := ApiError.bind_eq_ok.mp hcredited
      have hconfirmed := (applyDualReviewGate_of_bypass rfl hgate).1
      simp only [hconfirmed, Bool.true_eq_false, if_false] at hcredited
      obtain ⟨updated, hupdated, hcredited⟩ := ApiError.bind_eq_ok.mp hcredited
      obtain ⟨_, _, hcredited⟩ := ApiError.bind_eq_ok.mp hcredited
      obtain ⟨metadata, hstore, _, htrail⟩ :=
        transition_cases rfl hgate (by rw [hsource]; decide) hupdated
      rw [Keyed.key_of_lookup hrow] at hstore
      refine .credited row metadata hrow hsource htrail ?_
      rw [hstore] at hcredited
      exact (Except.ok.inj hcredited).symm
    · rw [if_pos hsource] at hcredited
      exact .unchanged (by simpa using hcredited.symm)

theorem effect_reverse (h : reverseDeposit strict id review store = .ok store') :
    Effect (.reverse id review) store store' := by
  obtain ⟨hsame, _⟩ | ⟨row, hrow, hstatus, hbody⟩ := onOrder_cases h
  · exact .unchanged hsame
  · have hne : row.status ≠ .reversed := by
      have hsources : ∀ status ∈ reverseDepositSources, status ≠ .reversed := by decide
      exact hsources _ (by simpa using hstatus)
    obtain ⟨reviewState, hgate, hbody⟩ := ApiError.bind_eq_ok.mp hbody
    have hconfirmed := (applyDualReviewGate_of_bypass rfl hgate).1
    simp only [hconfirmed, Bool.true_eq_false, if_false] at hbody
    by_cases hcredited : row.status = .credited
    · rw [if_pos hcredited] at hbody
      obtain ⟨_, _, hbody⟩ := ApiError.bind_eq_ok.mp hbody
      obtain ⟨updated, hupdated, hbody⟩ := ApiError.bind_eq_ok.mp hbody
      obtain ⟨metadata, hstore, _, htrail⟩ := transition_cases rfl hgate hne hupdated
      rw [Keyed.key_of_lookup hrow] at hstore
      refine .refunded row metadata hrow hcredited htrail ?_
      rw [hstore] at hbody
      exact FinanceStore.assertInvariant_eq_ok hbody
    · rw [if_neg hcredited] at hbody
      obtain ⟨metadata, hstore, hedge, htrail⟩ := transition_cases rfl hgate hne hbody
      rw [Keyed.key_of_lookup hrow] at hstore
      exact .moved row .reversed metadata hrow hcredited hedge (by decide) htrail hstore

theorem effect_run {op : DepositOp} (h : op.run strict store = .ok store') :
    Effect op store store' := by
  cases op with
  | create conditions id amount submitted => exact effect_create h
  | markPending id review => exact effect_mark (by decide) (by decide) h
  | markSucceeded id review => exact effect_mark (by decide) (by decide) h
  | credit missions id review => exact effect_credit h
  | fail id review => exact effect_mark (by decide) (by decide) h
  | reverse id review => exact effect_reverse h

end Effects

end RewardSystem.TopUp
